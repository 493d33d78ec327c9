

namespace CandleFeed

inductive StoreError
  | cache (cause : String)
  | durable (cause : String)
  | serialization (cause : String)
deriving DecidableEq, Repr

def StoreError.message : StoreError → String
  | cache cause => "Cache error: " ++ cause
  | durable cause => "Durable store error: " ++ cause
  | serialization cause => "Serialization error: " ++ cause

end CandleFeed
