import CandleFeed.Json.Codec
import CandleFeed.Text.Ascii
import CandleFeed.Text.Blank

namespace CandleFeed

inductive DropPolicy
  | disconnect
  | dropNewest
deriving DecidableEq, Repr

structure UnknownDropPolicy where
  name : String
deriving DecidableEq

def UnknownDropPolicy.message (e : UnknownDropPolicy) : String :=
  "unknown drop policy: " ++ e.name

namespace DropPolicy

def all : List DropPolicy := [disconnect, dropNewest]

def name : DropPolicy → String
  | disconnect => "disconnect"
  | dropNewest => "drop_newest"

def parse (text : String) : Except UnknownDropPolicy DropPolicy :=
  let name := Text.lowerAscii (Text.trim text)
  if name = "disconnect" then .ok disconnect
  else if name = "drop_newest" ∨ name = "drop-newest" then .ok dropNewest
  else .error ⟨name⟩

def codec : Json.Codec DropPolicy :=
  .named (fun text => all.find? fun policy => policy.name == text) name

end DropPolicy

end CandleFeed
