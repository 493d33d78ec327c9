import CandleFeed.Json.Codec
import CandleFeed.Text.Integer

namespace CandleFeed

structure ConnectionId where
  number : Nat
deriving DecidableEq, Ord, Repr

namespace ConnectionId

def text (id : ConnectionId) : String :=
  "conn-" ++ Text.showNatural id.number

def codec : Json.Codec ConnectionId :=
  Json.Codec.nat64.map mk number

end ConnectionId

end CandleFeed
