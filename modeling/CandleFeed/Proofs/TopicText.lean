import CandleFeed.Proofs.Symbol

namespace CandleFeed.Topic

theorem filter_ne_empty_eq_iff {interval interval' : Option String} :
    interval.filter (· ≠ "") = interval'.filter (· ≠ "") ↔
      interval.getD "" = interval'.getD "" := by
  have read (interval : Option String) : interval.filter (· ≠ "") =
      if interval.getD "" = "" then none else some (interval.getD "") := by
    cases interval with
    | none => rfl
    | some text => by_cases empty : text = "" <;> simp [Option.filter, empty]
  rw [read interval, read interval']
  constructor
  · intro same
    split at same <;> split at same <;> simp_all
  · intro same
    rw [same]

section Of

variable {channel channel' : Channel} {symbol symbol' : Symbol} {interval interval' : Option String}

theorem of_eq_of_iff : of channel symbol interval = of channel' symbol' interval' ↔
    channel = channel' ∧ symbol = symbol' ∧ interval.getD "" = interval'.getD "" := by
  rw [of, of, mk.injEq, filter_ne_empty_eq_iff]

theorem key_of_eq_iff {name name' : String} (given : Symbol.parse? name = some symbol)
    (given' : Symbol.parse? name' = some symbol') (channel channel' : Channel)
    (interval interval' : Option String) :
    let a := of channel symbol interval
    let b := of channel' symbol' interval'
    (a.key = b.key ↔ a = b) ∧
      (a.key = b.key ↔ channel = channel' ∧ symbol = symbol' ∧
        interval.getD "" = interval'.getD "") := by
  intro a b
  have wellFormed : a.symbol.WellFormed := (Symbol.parse?_eq_some_iff.mp given).2
  have wellFormed' : b.symbol.WellFormed := (Symbol.parse?_eq_some_iff.mp given').2
  have same : a.key = b.key ↔ a = b := ⟨key_injective wellFormed wellFormed', congrArg key⟩
  exact ⟨same, same.trans of_eq_of_iff⟩

end Of

theorem colon_interval_told :
    let name := "BTC-USDT"
    Symbol.parse? name = some ⟨name⟩ ∧
      (of .depth ⟨name⟩ (some "")).key = (of .depth ⟨name⟩ none).key ∧
      (of .depth ⟨name⟩ (some ":")).key ≠ (of .depth ⟨name⟩ (some "")).key := by
  intro name
  have given : Symbol.parse? name = some ⟨name⟩ := by decide +kernel
  refine ⟨given, (key_of_eq_iff given given _ _ _ _).2.mpr ⟨rfl, rfl, rfl⟩, fun same => ?_⟩
  obtain ⟨-, -, interval⟩ := (key_of_eq_iff given given _ _ _ _).2.mp same
  exact absurd interval (by decide)

end CandleFeed.Topic
