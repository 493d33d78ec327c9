import CandleFeed.Json.Codec
import CandleFeed.Text.Blank

/-!
# Symbols

The name of a traded pair, such as `BTC-USDT`. Names that are given are checked; those that come
inside a JSON value are taken as they are.
-/

namespace CandleFeed

structure Symbol where
  name : String
deriving DecidableEq, Ord

namespace Symbol

def isSeparator (c : Char) : Bool :=
  c == ':' || Text.isBlank c

def WellFormed (s : Symbol) : Prop :=
  s.name ≠ "" ∧ ∀ c ∈ s.name.toList, isSeparator c = false

def parse? (name : String) : Option Symbol :=
  if name = "" ∨ name.toList.any isSeparator then none else some ⟨name⟩

def ofPair? (pair : String) : Option Symbol :=
  parse? (String.ofList
    ((Text.strip pair.toList).map fun c => if c = '/' then '-' else c))

theorem parse?_eq_some_iff {name : String} {s : Symbol} :
    parse? name = some s ↔ s.name = name ∧ s.WellFormed := by
  obtain ⟨own⟩ := s
  simp only [parse?, WellFormed, Option.ite_none_left_eq_some, not_or, Option.some.injEq, mk.injEq,
    Bool.not_eq_true, List.any_eq_false]
  constructor
  · rintro ⟨⟨nonempty, plain⟩, rfl⟩
    exact ⟨rfl, nonempty, plain⟩
  · rintro ⟨rfl, nonempty, plain⟩
    exact ⟨⟨nonempty, plain⟩, rfl⟩

def codec : Json.Codec Symbol :=
  Json.Codec.text.map mk name

end Symbol

instance : ToString Symbol := ⟨Symbol.name⟩

end CandleFeed
