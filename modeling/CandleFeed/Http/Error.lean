import CandleFeed.Ingester
import CandleFeed.Json.Record

namespace CandleFeed.Http

inductive RequestError
  | badRequest (reason : String)
  | notFound (what : String)
  | internal
deriving DecidableEq, Repr

namespace RequestError

def status : RequestError → Nat
  | badRequest _ => 400
  | notFound _ => 404
  | internal => 500

def code : RequestError → String
  | badRequest _ => "BAD_REQUEST"
  | notFound _ => "NOT_FOUND"
  | internal => "INTERNAL_ERROR"

def message : RequestError → String
  | badRequest reason => reason
  | notFound what => what
  | internal => "Internal server error"

def summary : RequestError → String
  | badRequest reason => "Bad request: " ++ reason
  | notFound what => "Not found: " ++ what
  | internal => "Internal server error"

def body (e : RequestError) : List Char :=
  Json.object
    [Json.Members.writeMember "error" (Json.quote e.code),
      Json.Members.writeMember "message" (Json.quote e.message)]

def ofStore (_cause : StoreError) : RequestError :=
  internal

def ofEvent (cause : EventError) : RequestError :=
  badRequest cause.message

def ofAggregation : AggregationError → RequestError
  | .invalidTrade cause => badRequest cause.reason
  | .store cause => ofStore cause

end RequestError

end CandleFeed.Http
