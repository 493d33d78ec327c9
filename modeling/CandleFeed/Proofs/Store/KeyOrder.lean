import CandleFeed.Store.Rows

namespace CandleFeed.CandleKey

theorem compare_eq : (compare : CandleKey → CandleKey → Ordering) =
    compareLex (compareOn fun key => key.symbol.name)
      (compareLex (compareOn fun key => key.interval.ctorIdx) (compareOn openTime)) := by
  funext a b
  simp only [compareLex, compareOn]
  show instOrdCandleKey.ord a b = _
  unfold instOrdCandleKey.ord
  simp only [Ordering.then_eq]
  show (instOrdSymbol.ord _ _).then ((instOrdInterval.ord _ _).then _) = _
  unfold instOrdSymbol.ord instOrdInterval.ord
  simp only [Ordering.then_eq]

instance : Std.TransOrd CandleKey := by
  unfold Std.TransOrd
  rw [compare_eq]
  infer_instance

theorem interval_ctorIdx_inj {i j : Interval} : i.ctorIdx = j.ctorIdx ↔ i = j := by
  constructor
  · intro same
    cases i <;> cases j <;> first | rfl | cases same
  · rintro rfl
    rfl

theorem le_iff {a b : CandleKey} :
    a.le b = true ↔ compare a.symbol.name b.symbol.name = .lt ∨ a.symbol = b.symbol ∧
      (compare a.interval.ctorIdx b.interval.ctorIdx = .lt ∨
        a.interval = b.interval ∧ a.openTime ≤ b.openTime) := by
  obtain ⟨⟨name⟩, interval, opening⟩ := a
  obtain ⟨⟨name'⟩, interval', opening'⟩ := b
  unfold le
  rw [compare_eq]
  simp only [compareLex, compareOn, Ordering.isLE_then_iff_or, Std.LawfulEqCmp.compare_eq_iff_eq,
    Int.isLE_compare, Symbol.mk.injEq, interval_ctorIdx_inj]

theorem lt_iff {a b : CandleKey} :
    a.lt b = true ↔ compare a.symbol.name b.symbol.name = .lt ∨ a.symbol = b.symbol ∧
      (compare a.interval.ctorIdx b.interval.ctorIdx = .lt ∨
        a.interval = b.interval ∧ a.openTime < b.openTime) := by
  obtain ⟨⟨name⟩, interval, opening⟩ := a
  obtain ⟨⟨name'⟩, interval', opening'⟩ := b
  unfold lt
  rw [Ordering.isLT_iff_eq_lt, compare_eq]
  simp only [compareLex, compareOn, Ordering.then_eq_lt, Std.LawfulEqCmp.compare_eq_iff_eq,
    Int.compare_eq_lt, Symbol.mk.injEq, interval_ctorIdx_inj]

theorem le_of_lt {a b : CandleKey} (less : a.lt b = true) : a.le b = true := by
  unfold lt at less
  simp [le, Ordering.isLT_iff_eq_lt.mp less]

theorem eq_of_compare {a b : CandleKey} (same : compare a b = .eq) : a = b := by
  obtain ⟨⟨name⟩, interval, opening⟩ := a
  obtain ⟨⟨name'⟩, interval', opening'⟩ := b
  rw [compare_eq] at same
  simp only [compareLex, compareOn, Ordering.then_eq_eq, Std.LawfulEqCmp.compare_eq_iff_eq] at same
  obtain ⟨rfl, intervals, rfl⟩ := same
  obtain rfl := interval_ctorIdx_inj.mp intervals
  rfl

theorem le_trans (a b c : CandleKey) (ab : a.le b = true) (bc : b.le c = true) : a.le c = true :=
  Std.TransCmp.isLE_trans ab bc

theorem le_total (a b : CandleKey) : (a.le b || b.le a) = true := by
  cases h : a.le b with
  | true => rfl
  | false =>
      have less : compare b a = .lt := Std.OrientedCmp.lt_of_not_isLE (by simpa [le] using h)
      simp [le, less]

theorem lt_of_le_of_ne {a b : CandleKey} (less : a.le b = true) (apart : a ≠ b) :
    a.lt b = true := by
  unfold lt
  cases h : compare a b with
  | lt => rfl
  | eq => exact absurd (eq_of_compare h) apart
  | gt => simp [le, h] at less

variable {symbol : Symbol} {interval : Interval} {start stop : Int} {key : CandleKey}

theorem mk_le_mk :
    (CandleKey.mk symbol interval start).le ⟨symbol, interval, stop⟩ = true ↔ start ≤ stop := by
  simp [le_iff]

theorem mk_lt_mk :
    (CandleKey.mk symbol interval start).lt ⟨symbol, interval, stop⟩ = true ↔ start < stop := by
  simp [lt_iff]

theorem series_of_between (below : (CandleKey.mk symbol interval start).le key = true)
    (above : key.le ⟨symbol, interval, stop⟩ = true) :
    key.symbol = symbol ∧ key.interval = interval := by
  rw [le_iff] at below above
  rcases below with less | ⟨rfl, below⟩
  · rcases above with greater | ⟨rfl, -⟩
    · exact absurd greater (Std.OrientedCmp.not_lt_of_lt less)
    · simp at less
  · rcases below with less | ⟨rfl, -⟩
    · rcases above with greater | ⟨-, greater | ⟨rfl, -⟩⟩
      · simp at greater
      · exact absurd greater (Std.OrientedCmp.not_lt_of_lt less)
      · simp at less
    · exact ⟨rfl, rfl⟩

theorem between_iff :
    (CandleKey.mk symbol interval start).le key = true ∧
        key.le ⟨symbol, interval, stop⟩ = true ↔
      key.symbol = symbol ∧ key.interval = interval ∧ start ≤ key.openTime ∧
        key.openTime ≤ stop := by
  obtain ⟨own, length, opening⟩ := key
  constructor
  · rintro ⟨below, above⟩
    obtain ⟨rfl, rfl⟩ := series_of_between below above
    exact ⟨rfl, rfl, mk_le_mk.mp below, mk_le_mk.mp above⟩
  · rintro ⟨rfl, rfl, below, above⟩
    exact ⟨mk_le_mk.mpr below, mk_le_mk.mpr above⟩

theorem between_open_iff :
    (CandleKey.mk symbol interval start).le key = true ∧
        key.lt ⟨symbol, interval, stop⟩ = true ↔
      key.symbol = symbol ∧ key.interval = interval ∧ start ≤ key.openTime ∧
        key.openTime < stop := by
  obtain ⟨own, length, opening⟩ := key
  constructor
  · rintro ⟨below, above⟩
    obtain ⟨rfl, rfl⟩ := series_of_between below (le_of_lt above)
    exact ⟨rfl, rfl, mk_le_mk.mp below, mk_lt_mk.mp above⟩
  · rintro ⟨rfl, rfl, below, above⟩
    exact ⟨mk_le_mk.mpr below, mk_lt_mk.mpr above⟩

end CandleFeed.CandleKey
