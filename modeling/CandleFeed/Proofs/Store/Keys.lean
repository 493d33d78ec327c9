import CandleFeed.Candle
import CandleFeed.Proofs.Json.Number

namespace CandleFeed.CandleKey

theorem split_last {a a' b b' : List Char} (plain : ':' ∉ b) (plain' : ':' ∉ b')
    (same : a ++ ':' :: b = a' ++ ':' :: b') : a = a' ∧ b = b' := by
  rcases List.append_eq_append_iff.mp same with ⟨c, long, rest⟩ | ⟨c, long, rest⟩
  · cases c with
    | nil =>
        rw [List.append_nil] at long
        exact ⟨long.symm, (List.cons.inj rest).2⟩
    | cons d c =>
        rw [(List.cons.inj rest).2] at plain
        exact absurd (List.mem_append_right c List.mem_cons_self) plain
  · cases c with
    | nil =>
        rw [List.append_nil] at long
        exact ⟨long, (List.cons.inj rest).2.symm⟩
    | cons d c =>
        rw [(List.cons.inj rest).2] at plain'
        exact absurd (List.mem_append_right c List.mem_cons_self) plain'

theorem colon_notMem_code (i : Interval) : ':' ∉ i.code.toList := by
  cases i <;> decide

theorem colon_notMem_signedDigits (n : Int) : ':' ∉ Text.signedDigits n := by
  have plain : ':' ∉ Text.digits n.natAbs := by
    intro mem
    cases Text.isDigit_of_mem_digits mem
  unfold Text.signedDigits
  split
  · intro mem
    rcases List.mem_cons.mp mem with minus | digit
    · cases minus
    · exact plain digit
  · exact plain

theorem signedDigits_injective {m n : Int} (same : Text.signedDigits m = Text.signedDigits n) :
    m = n := by
  have read := Json.scanNumber_signedDigits m Json.ends_nil
  rw [same, Json.scanNumber_signedDigits n Json.ends_nil] at read
  have parts := (Prod.mk.inj (Except.ok.inj read)).1
  have value := Json.integer?_signedDigits m
  rw [← parts, Json.integer?_signedDigits n] at value
  exact (Option.some.inj value).symm

theorem toList_cacheKey (key : CandleKey) :
    key.cacheKey.toList = "market:kline:".toList ++
      ((key.symbol.name.toList ++ ':' :: key.interval.code.toList) ++
        ':' :: Text.signedDigits key.openTime) := by
  unfold cacheKey text Text.showInteger
  simp only [String.toList_append, String.toList_ofList]
  simp

theorem cacheKey_injective {key other : CandleKey} (same : key.cacheKey = other.cacheKey) :
    key = other := by
  have lists := congrArg String.toList same
  rw [toList_cacheKey, toList_cacheKey] at lists
  obtain ⟨series, opening⟩ := split_last (colon_notMem_signedDigits _) (colon_notMem_signedDigits _)
    (List.append_cancel_left lists)
  obtain ⟨symbols, codes⟩ := split_last (colon_notMem_code _) (colon_notMem_code _) series
  obtain ⟨⟨name⟩, interval, openTime⟩ := key
  obtain ⟨⟨name'⟩, interval', openTime'⟩ := other
  obtain rfl := String.toList_inj.mp symbols
  obtain rfl := Interval.code_injective (String.toList_inj.mp codes)
  obtain rfl := signedDigits_injective opening
  rfl

end CandleFeed.CandleKey
