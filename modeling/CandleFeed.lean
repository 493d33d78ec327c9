import CandleFeed.Address
import CandleFeed.Calendar
import CandleFeed.Candle
import CandleFeed.Connection
import CandleFeed.Decimal.Arithmetic
import CandleFeed.Decimal.Basic
import CandleFeed.Decimal.Reader
import CandleFeed.Decimal.Rounding
import CandleFeed.DropPolicy
import CandleFeed.Engine
import CandleFeed.Event
import CandleFeed.Gateway.Basic
import CandleFeed.Gateway.Pipe
import CandleFeed.Gateway.Session
import CandleFeed.Http.Api
import CandleFeed.Http.Call
import CandleFeed.Http.Error
import CandleFeed.Http.Form
import CandleFeed.Http.MediaType
import CandleFeed.Http.Pattern
import CandleFeed.Http.Target
import CandleFeed.Ingester
import CandleFeed.Instant.Basic
import CandleFeed.Instant.Printer
import CandleFeed.Instant.Reader
import CandleFeed.Interval
import CandleFeed.Json.Codec
import CandleFeed.Json.Fault
import CandleFeed.Json.Number
import CandleFeed.Json.Quoted
import CandleFeed.Json.Record
import CandleFeed.Json.Skip
import CandleFeed.Latency
import CandleFeed.Market
import CandleFeed.Message
import CandleFeed.Metrics
import CandleFeed.Outbox
import CandleFeed.Proofs.Buckets
import CandleFeed.Proofs.Calendar
import CandleFeed.Proofs.Registry.Commands
import CandleFeed.Registry
import CandleFeed.Request
import CandleFeed.Service.Basic
import CandleFeed.Service.Dispatch
import CandleFeed.Service.Session
import CandleFeed.Service.Trading
import CandleFeed.Settings
import CandleFeed.Store
import CandleFeed.Store.Cache
import CandleFeed.Store.Error
import CandleFeed.Store.Rows
import CandleFeed.Symbol
import CandleFeed.Table
import CandleFeed.Text.Ascii
import CandleFeed.Text.Blank
import CandleFeed.Text.Integer
import CandleFeed.Text.Utf8
import CandleFeed.Topic
import CandleFeed.Trade
import CandleFeed.Uuid
import CandleFeed.Proofs.Registry.Relation
import CandleFeed.Proofs.Registry.Queries
import CandleFeed.Proofs.Registry.Handles
import CandleFeed.Proofs.Digits
import CandleFeed.Proofs.Json.Number
import CandleFeed.Proofs.Json.Restores
import CandleFeed.Proofs.Json.Record
import CandleFeed.Proofs.Decimal.Reader
import CandleFeed.Proofs.Instant
import CandleFeed.Proofs.Uuid
import CandleFeed.Proofs.Candle
import CandleFeed.Proofs.Store.Coherent
import CandleFeed.Proofs.Engine.Reference
import CandleFeed.Proofs.Engine.Refinement
import CandleFeed.Proofs.Outbox
import CandleFeed.Proofs.Request
import CandleFeed.Proofs.Registry.Wants
import CandleFeed.Proofs.Engine.Counts
import CandleFeed.Proofs.Engine.Written
import CandleFeed.Proofs.Service.Market
import CandleFeed.Proofs.Service.Offers
import CandleFeed.Proofs.Service.Seats
import CandleFeed.Proofs.Service.Sound
import CandleFeed.Proofs.Service.Refinement
import CandleFeed.Proofs.Service.News
import CandleFeed.Proofs.Service.Delivery
import CandleFeed.Proofs.Service.Subscribing
import CandleFeed.Proofs.Service.Isolation
import CandleFeed.Proofs.Service.Acts
import CandleFeed.Proofs.Gateway.Links
import CandleFeed.Proofs.Gateway.Moves
import CandleFeed.Proofs.Window
import CandleFeed.Proofs.Service.Admission
import CandleFeed.Proofs.Store.Expiry
import CandleFeed.Proofs.Store.Failing
import CandleFeed.Proofs.Decimal.Value
import CandleFeed.Proofs.Engine.Onward
import CandleFeed.Proofs.Service.Onward
import CandleFeed.Proofs.Engine.Tally
import CandleFeed.Proofs.Nesting
import CandleFeed.Proofs.Engine.Parts
import CandleFeed.Proofs.Documents
import CandleFeed.Proofs.Echo
import CandleFeed.Proofs.Service.Trials
import CandleFeed.Proofs.Service.Replies
import CandleFeed.Proofs.Store.Tidy
import CandleFeed.Proofs.Engine.Containment
import CandleFeed.Proofs.Engine.Mended
import CandleFeed.Proofs.Service.Completions
import CandleFeed.Proofs.Service.Containment
import CandleFeed.Proofs.Store.Memory
import CandleFeed.Proofs.Store.KeyOrder
import CandleFeed.Proofs.Store.Series
import CandleFeed.Proofs.Http.Candles
import CandleFeed.Proofs.Engine.Books
import CandleFeed.Proofs.Service.Counters
import CandleFeed.Proofs.Service.Accounts
import CandleFeed.Proofs.Service.Standing
import CandleFeed.Proofs.Service.Lifecycle
import CandleFeed.Proofs.Engine.Folded
import CandleFeed.Proofs.Http.Refusals
import CandleFeed.Proofs.Json.Injective
import CandleFeed.Proofs.Push
import CandleFeed.Proofs.Store.Identity
import CandleFeed.Proofs.Engine.Identity
import CandleFeed.Proofs.Service.Identity
import CandleFeed.Proofs.Service.Amounts
import CandleFeed.Proofs.Decimal.Tolerance
import CandleFeed.Proofs.Totals
import CandleFeed.Proofs.ArrivalOrder
import CandleFeed.Proofs.Service.Wiring
import CandleFeed.Proofs.Service.Fanout
import CandleFeed.Proofs.Symbol
import CandleFeed.Proofs.Service.Symbols
import CandleFeed.Proofs.OrderBook
import CandleFeed.Proofs.Decimal.Overflow
import CandleFeed.Proofs.Decimal.LongDivision
import CandleFeed.Proofs.Decimal.Quotient
import CandleFeed.Proofs.Ticker
import CandleFeed.Proofs.Store.Faithful
import CandleFeed.Proofs.TopicText
import CandleFeed.Proofs.Latency
