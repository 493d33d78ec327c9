

namespace CandleFeed.Json

inductive Fault
  /-- The text is not JSON, ends early or goes on after its value. -/
  | malformed
  /-- The text is JSON so far, but a value has the wrong type or range, is unknown, repeated or
  missing. -/
  | mismatch
deriving DecidableEq, Repr

abbrev Reader (α : Type) := List Char → Except Fault (α × List Char)

def isSpace (c : Char) : Bool :=
  c == ' ' || c == '\t' || c == '\n' || c == '\r'

def skipSpace (cs : List Char) : List Char :=
  cs.dropWhile isSpace

def expect (word : List Char) (cs : List Char) : Except Fault (List Char) :=
  if word.isPrefixOf cs then .ok (cs.drop word.length) else .error .malformed

def colon (cs : List Char) : Except Fault (List Char) :=
  expect [':'] (skipSpace cs)

end CandleFeed.Json
