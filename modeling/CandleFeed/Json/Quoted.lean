import CandleFeed.Json.Fault

namespace CandleFeed.Json

def hexDigit (n : Nat) : Char :=
  Nat.digitChar n

def hexValue? (c : Char) : Option Nat :=
  if c.isDigit then some (c.toNat - '0'.toNat)
  else if 'a' ≤ c ∧ c ≤ 'f' then some (c.toNat - 'a'.toNat + 10)
  else if 'A' ≤ c ∧ c ≤ 'F' then some (c.toNat - 'A'.toNat + 10)
  else none

def escapeChar (c : Char) : List Char :=
  if c = '"' then ['\\', '"']
  else if c = '\\' then ['\\', '\\']
  else if c = '\x08' then ['\\', 'b']
  else if c = '\x0c' then ['\\', 'f']
  else if c = '\n' then ['\\', 'n']
  else if c = '\r' then ['\\', 'r']
  else if c = '\t' then ['\\', 't']
  else if c.toNat < 0x20 then
    ['\\', 'u', '0', '0', hexDigit (c.toNat / 16), hexDigit (c.toNat % 16)]
  else [c]

def escape (cs : List Char) : List Char :=
  cs.flatMap escapeChar

def quote (s : String) : List Char :=
  '"' :: escape s.toList ++ ['"']

inductive StringState
  | plain
  | escaped
  /-- After `\u`: the digits still owed, their value so far, and the high surrogate before. -/
  | hex (owed value : Nat) (high : Option Nat)
  | lowBackslash (high : Nat)
  | lowMark (high : Nat)
deriving DecidableEq

def simpleEscape? (c : Char) : Option Char :=
  if c = '"' ∨ c = '\\' ∨ c = '/' then some c
  else if c = 'b' then some '\x08'
  else if c = 'f' then some '\x0c'
  else if c = 'n' then some '\n'
  else if c = 'r' then some '\r'
  else if c = 't' then some '\t'
  else none

def finishHex (value : Nat) : Option Nat → Except Fault (List Char × StringState)
  | none =>
      if 0xDC00 ≤ value ∧ value ≤ 0xDFFF then .error .malformed
      else if 0xD800 ≤ value ∧ value ≤ 0xDBFF then .ok ([], .lowBackslash value)
      else .ok ([Char.ofNat value], .plain)
  | some high =>
      if 0xDC00 ≤ value ∧ value ≤ 0xDFFF then
        .ok ([Char.ofNat (0x10000 + (high - 0xD800) * 0x400 + (value - 0xDC00))], .plain)
      else .error .malformed

def StringState.next (c : Char) : StringState → Except Fault (List Char × StringState)
  | .plain =>
      if c = '\\' then .ok ([], .escaped)
      else if c.toNat < 0x20 then .error .malformed
      else .ok ([c], .plain)
  | .escaped =>
      if c = 'u' then .ok ([], .hex 3 0 none)
      else
        match simpleEscape? c with
        | some d => .ok ([d], .plain)
        | none => .error .malformed
  | .hex owed value high =>
      match hexValue? c with
      | none => .error .malformed
      | some d =>
          match owed with
          | 0 => finishHex (value * 16 + d) high
          | owed + 1 => .ok ([], .hex owed (value * 16 + d) high)
  | .lowBackslash high => if c = '\\' then .ok ([], .lowMark high) else .error .malformed
  | .lowMark high => if c = 'u' then .ok ([], .hex 3 0 (some high)) else .error .malformed

def readBody (state : StringState) (found : List Char) : Reader (List Char)
  | [] => .error .malformed
  | c :: rest =>
      if c = '"' ∧ state = .plain then .ok (found.reverse, rest)
      else
        match state.next c with
        | .error fault => .error fault
        | .ok (new, state) => readBody state (new ++ found) rest

def readQuoted : Reader String
  | '"' :: rest => do
      let (cs, rest) ← readBody .plain [] rest
      .ok (String.ofList cs, rest)
  | _ => .error .malformed

/-- The rest of a string whose content does not matter. An escape may name any code unit. -/
def skipBody (state : StringState) : List Char → Except Fault (List Char)
  | [] => .error .malformed
  | c :: rest =>
      match state with
      | .plain =>
          if c = '"' then .ok rest
          else if c = '\\' then skipBody .escaped rest
          else if c.toNat < 0x20 then .error .malformed
          else skipBody .plain rest
      | .hex owed _ _ =>
          if (hexValue? c).isNone then .error .malformed
          else
            match owed with
            | 0 => skipBody .plain rest
            | owed + 1 => skipBody (.hex owed 0 none) rest
      | _ =>
          if c = 'u' then skipBody (.hex 3 0 none) rest
          else if (simpleEscape? c).isSome then skipBody .plain rest
          else .error .malformed

theorem readBody_escapeChar (c : Char) (found rest : List Char) :
    readBody .plain found (escapeChar c ++ rest) = readBody .plain (c :: found) rest := by
  by_cases control : c.toNat < 0x20
  · have small : ∀ n, n < 0x20 →
        readBody .plain found (escapeChar (Char.ofNat n) ++ rest) =
          readBody .plain (Char.ofNat n :: found) rest := by
      intro n hn
      rcases n with _ | _ | _ | _ | _ | _ | _ | _ | _ | _ | _ | _ | _ | _ | _ | _ | _ | _ | _ | _ |
        _ | _ | _ | _ | _ | _ | _ | _ | _ | _ | _ | _ | n
      all_goals first | rfl | (exfalso; omega)
    have same := small c.toNat control
    rwa [Char.ofNat_toNat] at same
  · by_cases quoteMark : c = '"'
    · subst quoteMark
      rfl
    by_cases backslash : c = '\\'
    · subst backslash
      rfl
    have plain : escapeChar c = [c] := by
      unfold escapeChar
      rw [if_neg quoteMark, if_neg backslash]
      have other (d : Char) (small : d.toNat < 0x20) : c ≠ d := by
        rintro rfl
        exact control small
      rw [if_neg (other _ (by decide)), if_neg (other _ (by decide)), if_neg (other _ (by decide)),
        if_neg (other _ (by decide)), if_neg (other _ (by decide)), if_neg control]
    simp [plain, readBody, StringState.next, quoteMark, backslash, control]

theorem readBody_escape (cs found rest : List Char) :
    readBody .plain found (escape cs ++ '"' :: rest) = .ok (found.reverse ++ cs, rest) := by
  induction cs generalizing found with
  | nil => simp [escape, readBody]
  | cons c cs ih =>
      rw [escape, List.flatMap_cons, List.append_assoc, readBody_escapeChar]
      rw [← escape, ih]
      simp

theorem readQuoted_quote (s : String) (rest : List Char) :
    readQuoted (quote s ++ rest) = .ok (s, rest) := by
  simp [quote, readQuoted, readBody_escape, bind, Except.bind]

end CandleFeed.Json
