import CandleFeed.Json.Quoted
import CandleFeed.Json.Number

/-!
# Values that are passed over

Any JSON value, however deep. The brackets that are open stand in a list, so the depth of a text
costs no depth of recursion.
-/

namespace CandleFeed.Json

inductive Bracket
  | list
  | object
deriving DecidableEq

inductive Position
  | value
  | after (comma : Bool)
deriving DecidableEq

def skipScalar (cs : List Char) : Except Fault (List Char) :=
  match cs with
  | '"' :: rest => skipBody .plain rest
  | 'n' :: rest => expect "ull".toList rest
  | 't' :: rest => expect "rue".toList rest
  | 'f' :: rest => expect "alse".toList rest
  | _ => (scanNumber cs).map (·.2)

def enterMember (bracket : Bracket) (cs : List Char) : Except Fault (List Char) :=
  match bracket with
  | .list => .ok cs
  | .object =>
      match skipSpace cs with
      | '"' :: rest => do colon (← skipBody .plain rest)
      | _ => .error .malformed

def Bracket.close : Bracket → Char
  | .list => ']'
  | .object => '}'

def skipFrom : (steps : Nat) → Position → (closing : List Bracket) → List Char →
    Except Fault (List Char)
  | 0, _, _, _ => .error .malformed
  | steps + 1, .value, closing, cs =>
      match skipSpace cs with
      | '[' :: rest => skipFrom steps (.after false) (.list :: closing) rest
      | '{' :: rest => skipFrom steps (.after false) (.object :: closing) rest
      | cs =>
          match skipScalar cs with
          | .error fault => .error fault
          | .ok rest => skipFrom steps (.after true) closing rest
  | _ + 1, .after _, [], cs => .ok cs
  | steps + 1, .after comma, bracket :: closing, cs =>
      match skipSpace cs with
      | [] => .error .malformed
      | c :: rest =>
          if c = bracket.close then skipFrom steps (.after true) closing rest
          else
            match if comma then if c = ',' then enterMember bracket rest else .error .malformed
                else enterMember bracket (c :: rest) with
            | .error fault => .error fault
            | .ok rest => skipFrom steps .value (bracket :: closing) rest

def skipValue (cs : List Char) : Except Fault (List Char) :=
  skipFrom (2 * cs.length + 2) .value [] cs

end CandleFeed.Json
