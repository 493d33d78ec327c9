import CandleFeed.Text.Utf8

/-!
# Targets of calls

What a call is aimed at, written as a URI: a path with a query, the same behind a scheme and an
authority, an authority alone, or `*`. Only the path and the query count. A text with a character
that may not stand in its place is no target.
-/

namespace CandleFeed.Http

structure Target where
  path : String
  query : List Char
deriving DecidableEq

namespace Target

def maxLength : Nat := 65534

def isTooLong (text : String) : Bool :=
  maxLength < Text.Utf8.size text

def isCommonChar (c : Char) : Bool :=
  c.isAlphanum || "!$%&\x27()*+,-./:;=@[\\]^_\x7b|\x7d~".toList.contains c || 0x7F ≤ c.toNat

def isPathChar (c : Char) : Bool :=
  isCommonChar c || c = '"'

def isQueryChar (c : Char) : Bool :=
  isCommonChar c || c = '?' || c = '\x60'

def isSchemeChar (c : Char) : Bool :=
  c.isAlphanum || "+-.~".toList.contains c

def maxScheme : Nat := 64

def isHostChar (c : Char) : Bool :=
  c.isAlphanum || "!$&\x27()*+,-.;=_~".toList.contains c

/-- What a reader of an authority has seen. Colons and percent signs before `@` belong to the user,
and those before `]` to an address; neither counts behind it. -/
structure AuthorityState where
  colons : Nat := 0
  bracket : Bool := false
  closed : Bool := false
  percent : Bool := false

def AuthorityState.next (s : AuthorityState) (c : Char) : Option AuthorityState :=
  if isHostChar c then some s
  else
    match c with
    | ':' => if s.colons < 8 then some { s with colons := s.colons + 1 } else none
    | '[' => if s.percent || s.bracket then none else some { s with bracket := true }
    | ']' =>
        if s.bracket && !s.closed then some { s with closed := true, colons := 0, percent := false }
        else none
    | '@' => some { s with colons := 0, percent := false }
    | '%' => some { s with percent := true }
    | _ => none

def AuthorityState.isEnd (s : AuthorityState) : Bool :=
  s.bracket == s.closed && s.colons ≤ 1 && !s.percent

def isAuthority (cs : List Char) : Bool :=
  cs.getLast? != some '@' && (cs.foldlM AuthorityState.next {}).any AuthorityState.isEnd

def ofPathAndQuery? (cs : List Char) : Option Target :=
  let cs := cs.takeWhile (· ≠ '#')
  let path := cs.takeWhile (· ≠ '?')
  let query := (cs.dropWhile (· ≠ '?')).drop 1
  if path.all isPathChar && query.all isQueryChar then
    some ⟨if path.isEmpty then "/" else String.ofList path, query⟩
  else none

def behindScheme? (cs : List Char) : Option (List Char) :=
  let scheme := cs.takeWhile isSchemeChar
  match cs.drop scheme.length with
  | ':' :: '/' :: '/' :: rest => if scheme.length ≤ maxScheme then some rest else none
  | _ => none

def ofHierarchy? (cs : List Char) : Option Target :=
  let authority := cs.takeWhile fun c => c ≠ '/' && c ≠ '?' && c ≠ '#'
  if !authority.isEmpty && isAuthority authority then
    ofPathAndQuery? (cs.drop authority.length)
  else none

def parse? (text : String) : Option Target :=
  if isTooLong text then none
  else
    match text.toList with
    | [] => none
    | ['*'] => some ⟨"*", []⟩
    | '/' :: rest => ofPathAndQuery? ('/' :: rest)
    | cs =>
        match behindScheme? cs with
        | some rest => ofHierarchy? rest
        | none => if isAuthority cs then some ⟨"", []⟩ else none

example : parse? "/a?b#c" = some ⟨"/a", "b".toList⟩ := by decide +kernel

example : parse? "http://u:p@[::1]:80?b" = some ⟨"/", "b".toList⟩ := by decide +kernel

example : parse? "host:80" = some ⟨"", []⟩ := by decide +kernel

example : parse? "host/a" = none := by decide +kernel

end Target

end CandleFeed.Http
