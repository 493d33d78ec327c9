import CandleFeed.Http.Error
import CandleFeed.Http.MediaType
import CandleFeed.Http.Target
import CandleFeed.Text.Utf8

namespace CandleFeed.Http

structure Call where
  method : String
  target : Target
  contentType : Option String
  body : List UInt8

structure Answer where
  status : Nat
  body : Option (List Char)
deriving DecidableEq

def Call.isMethod (text : String) : Bool :=
  text ≠ "" && text.toList.all MediaType.isToken

namespace Answer

def bare (status : Nat) : Answer :=
  ⟨status, none⟩

def ok (body : List Char) : Answer :=
  ⟨200, some body⟩

def ofError (e : RequestError) : Answer :=
  ⟨e.status, some e.body⟩

def ofFault : Json.Fault → Answer
  | .malformed => bare 400
  | .mismatch => bare 422

def withoutBody (a : Answer) : Answer :=
  bare a.status

end Answer

def maxBody : Nat := 2 * 1024 * 1024

/-- What stands for octets that are not UTF-8: half of a surrogate pair, between letters so that it
joins with nothing. Like the octets, it is a fault in a string that is read and outside of strings,
and none in a string that is passed over. -/
def gap : List Char :=
  "x\\ud800x".toList

def decodeBody (codec : Json.Codec α) (body : List UInt8) : Except Json.Fault α :=
  codec.decode (Text.Utf8.decodeWith gap body)

def readBody (codec : Json.Codec α) (c : Call) : Except Answer α :=
  if c.contentType.any MediaType.isJson then
    if maxBody < c.body.length then .error (.bare 413)
    else (decodeBody codec c.body).mapError .ofFault
  else .error (.bare 415)

end CandleFeed.Http
