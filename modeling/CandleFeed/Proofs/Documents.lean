import CandleFeed.Event
import CandleFeed.Market
import CandleFeed.Proofs.Candle
import CandleFeed.Proofs.Json.View

namespace CandleFeed
open Json Json.Codec

def FitsInt64 (n : Int) : Prop :=
  Text.minInt64 ≤ n ∧ n ≤ Text.maxInt64

def ifGiven (name : String) (a : Option α) : List String :=
  (a.map fun _ => name).toList

/-- What a codec keeps of the values that fit: where `a` was written, `read a` is read, and the text
shows the members called `names a`. -/
structure Keeps (codec : Codec α) (fits : α → Prop) (read : α → α) (names : α → List String) : Prop where
  decoded : ∀ a, fits a → codec.decode (codec.encode a).toList = .ok (read a)
  shown : ∀ a, names? (codec.encode a) = .ok (names a)

/-! ## The parts of a value -/

theorem Instant.restores_codec (t : Instant) : codec.Restores t t :=
  restores_spelled t.read?_render

theorem Symbol.restores_codec (symbol : Symbol) : codec.Restores symbol symbol :=
  (restores_text symbol.name).map

theorem Interval.restores_codec (interval : Interval) : codec.Restores interval interval :=
  restores_named (ofCode?_code interval)

theorem Side.restores_codec (side : Side) : codec.Restores side side :=
  restores_named (by cases side <;> decide)

theorem FitsInt64.restores {n : Int} (fits : FitsInt64 n) : int64.Restores n n :=
  restores_int64 fits.1 fits.2

theorem restores_texts (s : Option String) : Option.Rel text.Restores s s :=
  Candle.restores_optional restores_text s

theorem Decimal.writes_codec : codec.Writes :=
  writes_spelled _ _

theorem Instant.writes_codec : codec.Writes :=
  writes_spelled _ _

theorem Uuid.writes_codec : codec.Writes :=
  writes_spelled _ _

theorem Symbol.writes_codec : codec.Writes :=
  writes_text.map _ _

theorem Interval.writes_codec : codec.Writes :=
  writes_named _ _

theorem Side.writes_codec : codec.Writes :=
  writes_named _ _

theorem writes_int64 : int64.Writes :=
  writes_within _ _

namespace Json

def Members.shown : Members σ τ → τ → List String
  | .nil, () => []
  | .field name _ rest, (_, more) => name :: rest.shown more
  | .optional name _ _ rest, (a, more) => ifGiven name a ++ rest.shown more

theorem Members.map_fst_present (members : Members σ τ) (a : τ) :
    (members.present a).map Prod.fst = members.shown a := by
  induction members with
  | nil => rfl
  | field name codec rest ih =>
      obtain ⟨a, more⟩ := a
      rw [present, List.map_cons, ih]
      rfl
  | optional name codec droppable rest ih =>
      obtain ⟨a, more⟩ := a
      rw [present, List.map_append, ih]
      cases a <;> rfl

def Shows (codec : Codec α) (names : α → List String) : Prop :=
  ∀ a, ∃ members : List Member, codec.write a = object (members.map Member.text) ∧
    (∀ member ∈ members, Written member.2) ∧ members.map Prod.fst = names a

theorem shows_record {members : Members σ τ} (writes : members.Writes) {into : τ → α} {from' : α → τ}
    {names : α → List String} (named : ∀ a, members.shown (from' a) = names a) :
    Shows ((record members).map into from') names := by
  intro a
  refine ⟨members.present (from' a), congrArg object (members.write_eq (from' a)),
    writes.present (from' a), ?_⟩
  rw [Members.map_fst_present, named]

theorem Shows.writes {codec : Codec α} {names : α → List String} (shows' : Shows codec names) :
    codec.Writes := by
  intro a
  obtain ⟨members, text, written, -⟩ := shows' a
  rw [text]
  exact .object members written

theorem Shows.names? {codec : Codec α} {names : α → List String} (shows' : Shows codec names) (a : α) :
    names? (codec.encode a) = .ok (names a) := by
  obtain ⟨members, text, written, named⟩ := shows' a
  rw [Codec.encode, text, names?_object written, named]

theorem Shows.keeps {codec : Codec α} {fits : α → Prop} {read : α → α} {names : α → List String}
    (shows' : Shows codec names) (restores : ∀ a, fits a → codec.Restores a (read a)) :
    Keeps codec fits read names :=
  ⟨fun a fit => (restores a fit).decode, shows'.names?⟩

end Json

namespace Candle

def names (c : Candle) : List String :=
  ifGiven "id" c.id ++ ["symbol", "interval", "openTime", "closeTime", "open", "high", "low", "close",
    "volume", "quoteAmount", "tradeCount", "completed"] ++ ifGiven "createdAt" c.createdAt ++
    ifGiven "updatedAt" c.updatedAt

theorem shows_codec : Shows codec names := by
  apply shows_record
  · exact ⟨Uuid.writes_codec, Symbol.writes_codec, Interval.writes_codec, writes_int64, writes_int64,
      Decimal.writes_codec, Decimal.writes_codec, Decimal.writes_codec, Decimal.writes_codec,
      Decimal.writes_codec, Decimal.writes_codec, writes_nat64, writes_flag, Instant.writes_codec,
      Instant.writes_codec, trivial⟩
  · intro c
    simp [Members.shown, names]

end Candle

namespace CandleKey

def Fits (key : CandleKey) : Prop :=
  FitsInt64 key.openTime

def names (_ : CandleKey) : List String :=
  ["symbol", "interval", "openTime"]

theorem restores_codec {key : CandleKey} (fits : key.Fits) : codec.Restores key key := by
  apply Restores.map (a := (key.symbol, key.interval, key.openTime, ()))
  apply restores_record
  · decide
  · exact ⟨key.symbol.restores_codec, key.interval.restores_codec, fits.restores, trivial⟩

theorem shows_codec : Shows codec names := by
  apply shows_record
  · exact ⟨Symbol.writes_codec, Interval.writes_codec, writes_int64, trivial⟩
  · exact fun _ => rfl

end CandleKey

namespace PriceLevel

def signedByValue (level : PriceLevel) : PriceLevel :=
  ⟨level.price.signedByValue, level.quantity.signedByValue⟩

def names (_ : PriceLevel) : List String :=
  ["price", "quantity"]

theorem restores_codec (level : PriceLevel) : codec.Restores level level.signedByValue := by
  apply Restores.map (a := (level.price.signedByValue, level.quantity.signedByValue, ()))
  apply restores_record
  · decide
  · exact ⟨Candle.restores_decimal level.price, Candle.restores_decimal level.quantity, trivial⟩

theorem shows_codec : Shows codec names := by
  apply shows_record
  · exact ⟨Decimal.writes_codec, Decimal.writes_codec, trivial⟩
  · exact fun _ => rfl

end PriceLevel

namespace Depth

def Fits (book : Depth) : Prop :=
  FitsInt64 book.timestamp

def signedByValue (book : Depth) : Depth :=
  { book with
    bids := book.bids.map PriceLevel.signedByValue
    asks := book.asks.map PriceLevel.signedByValue }

def names (_ : Depth) : List String :=
  ["symbol", "bids", "asks", "timestamp"]

theorem restores_codec {book : Depth} (fits : book.Fits) :
    codec.Restores book book.signedByValue := by
  have levels (side : List PriceLevel) :
      PriceLevel.codec.list.Restores side (side.map PriceLevel.signedByValue) :=
    restores_list PriceLevel.shows_codec.writes fun level _ => level.restores_codec
  apply Restores.map (a := (book.symbol, book.bids.map PriceLevel.signedByValue,
    book.asks.map PriceLevel.signedByValue, book.timestamp, ()))
  apply restores_record
  · decide
  · exact ⟨book.symbol.restores_codec, levels book.bids, levels book.asks, fits.restores, trivial⟩

theorem shows_codec : Shows codec names := by
  apply shows_record
  · exact ⟨Symbol.writes_codec, PriceLevel.shows_codec.writes.list, PriceLevel.shows_codec.writes.list,
      writes_int64, trivial⟩
  · exact fun _ => rfl

end Depth

namespace Ticker

def Fits (stats : Ticker) : Prop :=
  FitsInt64 stats.timestamp

def signedByValue (stats : Ticker) : Ticker :=
  { stats with
    lastPrice := stats.lastPrice.signedByValue
    openPrice := stats.openPrice.signedByValue
    highPrice := stats.highPrice.signedByValue
    lowPrice := stats.lowPrice.signedByValue
    volume := stats.volume.signedByValue
    quoteVolume := stats.quoteVolume.signedByValue }

def names (_ : Ticker) : List String :=
  ["symbol", "lastPrice", "openPrice", "highPrice", "lowPrice", "volume", "quoteVolume", "timestamp"]

theorem restores_codec {stats : Ticker} (fits : stats.Fits) :
    codec.Restores stats stats.signedByValue := by
  apply Restores.map (a := (stats.symbol, stats.lastPrice.signedByValue,
    stats.openPrice.signedByValue, stats.highPrice.signedByValue, stats.lowPrice.signedByValue,
    stats.volume.signedByValue, stats.quoteVolume.signedByValue, stats.timestamp, ()))
  apply restores_record
  · decide
  · exact ⟨stats.symbol.restores_codec, Candle.restores_decimal _, Candle.restores_decimal _,
      Candle.restores_decimal _, Candle.restores_decimal _, Candle.restores_decimal _,
      Candle.restores_decimal _, fits.restores, trivial⟩

theorem shows_codec : Shows codec names := by
  apply shows_record
  · exact ⟨Symbol.writes_codec, Decimal.writes_codec, Decimal.writes_codec, Decimal.writes_codec,
      Decimal.writes_codec, Decimal.writes_codec, Decimal.writes_codec, writes_int64, trivial⟩
  · exact fun _ => rfl

end Ticker

namespace Tick

def signedByValue (tick : Tick) : Tick :=
  { tick with price := tick.price.signedByValue, quantity := tick.quantity.signedByValue }

def names (_ : Tick) : List String :=
  ["symbol", "price", "quantity", "trade_time"]

theorem restores_codec (tick : Tick) : codec.Restores tick tick.signedByValue := by
  apply Restores.map (a := (tick.symbol, tick.price.signedByValue, tick.quantity.signedByValue,
    tick.time, ()))
  apply restores_record
  · decide
  · exact ⟨tick.symbol.restores_codec, Candle.restores_decimal _, Candle.restores_decimal _,
      tick.time.restores_codec, trivial⟩

theorem shows_codec : Shows codec names := by
  apply shows_record
  · exact ⟨Symbol.writes_codec, Decimal.writes_codec, Decimal.writes_codec, Instant.writes_codec,
      trivial⟩
  · exact fun _ => rfl

end Tick

namespace PublicTrade

def Fits (report : PublicTrade) : Prop :=
  FitsInt64 report.timestamp

def signedByValue (report : PublicTrade) : PublicTrade :=
  { report with
    price := report.price.signedByValue
    quantity := report.quantity.signedByValue
    amount := report.amount.signedByValue }

def names (report : PublicTrade) : List String :=
  ["tradeId", "symbol", "price", "quantity", "amount"] ++ ifGiven "takerSide" report.takerSide ++
    ["timestamp"]

theorem restores_codec {report : PublicTrade} (fits : report.Fits) :
    codec.Restores report report.signedByValue := by
  apply Restores.map (a := (report.tradeId, report.symbol, report.price.signedByValue,
    report.quantity.signedByValue, report.amount.signedByValue, report.takerSide,
    report.timestamp, ()))
  apply restores_record
  · decide
  · exact ⟨restores_text _, report.symbol.restores_codec, Candle.restores_decimal _,
      Candle.restores_decimal _, Candle.restores_decimal _,
      Candle.restores_optional Side.restores_codec _, fits.restores, trivial⟩

theorem shows_codec : Shows codec names := by
  apply shows_record
  · exact ⟨writes_text, Symbol.writes_codec, Decimal.writes_codec, Decimal.writes_codec,
      Decimal.writes_codec, Side.writes_codec, writes_int64, trivial⟩
  · intro report
    simp [Members.shown, names]

end PublicTrade

namespace TradePayload

def names (p : TradePayload) : List String :=
  ["trade_id", "symbol", "price", "quantity"] ++ ifGiven "buyer_order_id" p.buyerOrderId ++
    ifGiven "seller_order_id" p.sellerOrderId ++ ifGiven "buyer_user_id" p.buyerUserId ++
    ifGiven "seller_user_id" p.sellerUserId ++ ifGiven "buyer_fee" p.buyerFee ++
    ifGiven "seller_fee" p.sellerFee ++ ifGiven "maker_side" p.makerSide ++
    ifGiven "timestamp" p.timestamp

theorem restores_codec (p : TradePayload) : codec.Restores p p := by
  apply Restores.map (a := (p.tradeId, p.symbol, p.price, p.quantity, p.buyerOrderId,
    p.sellerOrderId, p.buyerUserId, p.sellerUserId, p.buyerFee, p.sellerFee, p.makerSide,
    p.timestamp, ()))
  apply restores_record
  · decide
  · exact ⟨restores_text _, restores_text _, restores_text _, restores_text _, restores_texts _,
      restores_texts _, restores_texts _, restores_texts _, restores_texts _, restores_texts _,
      restores_texts _, Candle.restores_optional Instant.restores_codec _, trivial⟩

theorem shows_codec : Shows codec names := by
  apply shows_record
  · exact ⟨writes_text, writes_text, writes_text, writes_text, writes_text, writes_text, writes_text,
      writes_text, writes_text, writes_text, writes_text, Instant.writes_codec, trivial⟩
  · intro p
    simp [Members.shown, names]

end TradePayload

namespace TradeEvent

def names (e : TradeEvent) : List String :=
  ["event_id", "event_type"] ++ ifGiven "event_version" e.eventVersion ++ ["timestamp"] ++
    ifGiven "source_service" e.sourceService ++ ifGiven "correlation_id" e.correlationId ++ ["payload"]

theorem restores_codec (e : TradeEvent) : codec.Restores e e := by
  apply Restores.map (a := (e.eventId, e.eventType, e.eventVersion, e.timestamp, e.sourceService,
    e.correlationId, e.payload, ()))
  apply restores_record
  · decide
  · exact ⟨restores_text _, restores_text _, restores_texts _, e.timestamp.restores_codec,
      restores_texts _, restores_texts _, e.payload.restores_codec, trivial⟩

theorem shows_codec : Shows codec names := by
  apply shows_record
  · exact ⟨writes_text, writes_text, writes_text, Instant.writes_codec, writes_text, writes_text,
      TradePayload.shows_codec.writes, trivial⟩
  · intro e
    simp [Members.shown, names]

theorem exists_members_payload (e : TradeEvent) :
    ∃ before, members? (codec.encode e) =
      .ok (before ++ [("payload", TradePayload.codec.write e.payload)]) := by
  let given (name : String) (s : Option String) : List Member := (s.map fun s => (name, quote s)).toList
  refine ⟨("event_id", quote e.eventId) :: ("event_type", quote e.eventType) ::
    (given "event_version" e.eventVersion ++ ("timestamp", Instant.codec.write e.timestamp) ::
      (given "source_service" e.sourceService ++ given "correlation_id" e.correlationId)), ?_⟩
  refine (members?_record ?_ _).trans ?_
  · exact ⟨writes_text, writes_text, writes_text, Instant.writes_codec, writes_text, writes_text,
      TradePayload.shows_codec.writes, trivial⟩
  · simp [Members.present, text, given]

end TradeEvent

/-! ## All of the data -/

theorem data_kept :
    (∀ d : Decimal, d.signedByValue.units = d.units ∧ d.signedByValue.scale = d.scale) ∧
    Keeps Candle.codec Candle.Fits Candle.signedByValue Candle.names ∧
    Keeps CandleKey.codec CandleKey.Fits id CandleKey.names ∧
    Keeps Depth.codec Depth.Fits Depth.signedByValue Depth.names ∧
    Keeps PriceLevel.codec (fun _ => True) PriceLevel.signedByValue PriceLevel.names ∧
    Keeps Ticker.codec Ticker.Fits Ticker.signedByValue Ticker.names ∧
    Keeps Tick.codec (fun _ => True) Tick.signedByValue Tick.names ∧
    Keeps PublicTrade.codec PublicTrade.Fits PublicTrade.signedByValue PublicTrade.names ∧
    Keeps TradePayload.codec (fun _ => True) id TradePayload.names ∧
    Keeps TradeEvent.codec (fun _ => True) id TradeEvent.names ∧
    ∀ e : TradeEvent, ∃ before, members? (TradeEvent.codec.encode e) =
      .ok (before ++ [("payload", TradePayload.codec.write e.payload)]) := by
  refine ⟨fun d => ⟨d.units_signedByValue, rfl⟩, ?_, ?_, ?_, ?_, ?_, ?_, ?_, ?_, ?_,
    TradeEvent.exists_members_payload⟩
  · exact Candle.shows_codec.keeps fun _ => Candle.restores_fitting
  · exact CandleKey.shows_codec.keeps fun _ => CandleKey.restores_codec
  · exact Depth.shows_codec.keeps fun _ => Depth.restores_codec
  · exact PriceLevel.shows_codec.keeps fun level _ => level.restores_codec
  · exact Ticker.shows_codec.keeps fun _ => Ticker.restores_codec
  · exact Tick.shows_codec.keeps fun tick _ => tick.restores_codec
  · exact PublicTrade.shows_codec.keeps fun _ => PublicTrade.restores_codec
  · exact TradePayload.shows_codec.keeps fun p _ => p.restores_codec
  · exact TradeEvent.shows_codec.keeps fun e _ => e.restores_codec

theorem unusual_candle_kept :
    let candle : Candle :=
      { id := some (Uuid.serial 1)
        symbol := ⟨"BTC\"\\\n-USDT"⟩
        interval := .oneMonth
        openTime := Text.minInt64
        closeTime := Text.maxInt64
        openPrice := ⟨true, Decimal.maxMantissa, 28, by decide, by decide⟩
        highPrice := ⟨false, 3000, 3, by decide, by decide⟩
        lowPrice := .zero
        closePrice := .zero
        volume := ⟨true, 0, 28, by decide, by decide⟩
        quoteAmount := .zero
        tradeCount := Text.maxUInt64
        completed := true
        createdAt := some ⟨-62325244801, 1_999_999_999, by decide, by decide, by decide⟩
        updatedAt := none }
    candle.Fits ∧
    Candle.codec.decode (Candle.codec.encode candle).toList =
      .ok { candle with volume := ⟨false, 0, 28, by decide, by decide⟩ } ∧
    names? (Candle.codec.encode candle) =
      .ok ["id", "symbol", "interval", "openTime", "closeTime", "open", "high", "low", "close", "volume",
        "quoteAmount", "tradeCount", "completed", "createdAt"] := by
  intro candle
  have fits : candle.Fits := by constructor <;> decide
  have kept := data_kept.2.1
  exact ⟨fits, kept.decoded _ fits, kept.shown _⟩

end CandleFeed
