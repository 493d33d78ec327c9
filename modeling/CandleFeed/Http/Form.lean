import CandleFeed.Json.Quoted
import CandleFeed.Text.Utf8

/-!
# Form data

Fields as they stand in the query of a URI: `name=value` with `&` between them. A `+` stands for a
blank, and `%` with two digits of base 16 for an octet; a `%` without them stands for itself. Octets
that are not UTF-8 become the replacement character.
-/

namespace CandleFeed.Http.Form

def octets : List Char → List UInt8
  | [] => []
  | '+' :: rest => 0x20 :: octets rest
  | '%' :: a :: b :: rest =>
      match Json.hexValue? a, Json.hexValue? b with
      | some a, some b => .ofNat (16 * a + b) :: octets rest
      | _, _ => 0x25 :: octets (a :: b :: rest)
  | c :: rest => Text.Utf8.encodeChar c ++ octets rest

def decode (cs : List Char) : String :=
  String.ofList (Text.Utf8.decodeLossy (octets cs))

def splitAll (mark : Char) : List Char → List (List Char)
  | [] => [[]]
  | c :: rest =>
      let parts := splitAll mark rest
      if c = mark then [] :: parts
      else
        match parts with
        | part :: others => (c :: part) :: others
        | [] => [[c]]

def field (cs : List Char) : String × String :=
  (decode (cs.takeWhile (· ≠ '=')), decode ((cs.dropWhile (· ≠ '=')).drop 1))

def fields (query : List Char) : List (String × String) :=
  ((splitAll '&' query).filter (· ≠ [])).map field

inductive Fault
  | missing
  | repeated
  | malformed
deriving DecidableEq, Repr

def optional (form : List (String × String)) (name : String) (parse : String → Option α) :
    Except Fault (Option α) :=
  match form.filter fun pair => pair.1 == name with
  | [] => .ok none
  | [pair] =>
      match parse pair.2 with
      | some a => .ok (some a)
      | none => .error .malformed
  | _ => .error .repeated

def required (form : List (String × String)) (name : String) (parse : String → Option α) :
    Except Fault α :=
  match optional form name parse with
  | .ok (some a) => .ok a
  | .ok none => .error .missing
  | .error fault => .error fault

end CandleFeed.Http.Form
