

namespace CandleFeed.Http.MediaType

def isToken (c : Char) : Bool :=
  c.isAlphanum || "!#$%&\x27*+-.^_\x60|~".toList.contains c

def isQuotable (c : Char) : Bool :=
  31 < c.toNat && c.toNat ≠ 127

def isField (text : String) : Bool :=
  text.toList.all fun c => c == '\t' || isQuotable c

def isVisible (c : Char) : Bool :=
  c == '\t' || 32 ≤ c.toNat && c.toNat < 127

inductive Position
  | start
  | name
  | value
  | plain
  | quoted (begun : Bool)
  | behind
deriving DecidableEq

def Position.next (c : Char) : Position → Option Position
  | .start => if c = ' ' then some .start else if isToken c then some .name else none
  | .name => if isToken c then some .name else if c = '=' then some .value else none
  | .value => if c = '"' then some (.quoted false) else if isToken c then some .plain else none
  | .plain => if isToken c then some .plain else if c = ';' then some .start else none
  | .quoted begun =>
      if c = '"' ∧ begun then some .behind
      else if isQuotable c then some (.quoted true) else none
  | .behind => if c = ';' then some .start else if c = ' ' then some .behind else none

def Position.isEnd : Position → Bool
  | .start | .value | .plain | .behind => true
  | .name | .quoted _ => false

def areParameters (cs : List Char) : Bool :=
  (cs.foldlM (fun p c => Position.next c p) Position.start).any Position.isEnd

/-- A subtype without its suffix, and the suffix. The last `+` that is not the first character
divides the two. -/
def splitSuffix (cs : List Char) : List Char × Option (List Char) :=
  match cs with
  | [] => ([], none)
  | first :: rest =>
      if rest.contains '+' then
        let suffix := (rest.reverse.takeWhile (· ≠ '+')).reverse
        (first :: rest.take (rest.length - suffix.length - 1), some suffix)
      else (cs, none)

/-- Whether a body of a type is JSON: `application/json`, or any `application` type with the suffix
`json`. -/
def isJson (text : String) : Bool :=
  let cs := text.toList.map Char.toLower
  let type := cs.takeWhile (· ≠ '/')
  let behind := (cs.dropWhile (· ≠ '/')).drop 1
  let subtype := behind.takeWhile (· ≠ ';')
  let parameters := (behind.dropWhile (· ≠ ';')).drop 1
  let (name, suffix) := splitSuffix subtype
  cs.all isVisible && type == "application".toList && subtype.all isToken &&
    areParameters parameters && (name == "json".toList || suffix == some "json".toList)

example : isJson "application/json" = true := by decide +kernel

example : isJson "Application/Problem+JSON; charset=\"utf-8\"" = true := by decide +kernel

example : isJson "application/json+x" = true := by decide +kernel

example : isJson " application/json" = false := by decide +kernel

end CandleFeed.Http.MediaType
