import CandleFeed.Topic

namespace CandleFeed.Topic

theorem compare_eq : (compare : Topic → Topic → Ordering) =
    compareLex (compareOn fun t => t.channel.ctorIdx)
      (compareLex (compareOn fun t => t.symbol.name) (compareOn interval)) := by
  funext a b
  simp only [compareLex, compareOn]
  show instOrdTopic.ord a b = _
  unfold instOrdTopic.ord
  simp only [Ordering.then_eq]
  show (instOrdChannel.ord _ _).then ((instOrdSymbol.ord _ _).then _) = _
  unfold instOrdChannel.ord instOrdSymbol.ord
  simp only [Ordering.then_eq]

instance : Std.TransOrd Topic := by
  unfold Std.TransOrd
  rw [compare_eq]
  infer_instance

theorem ctorIdx_injective {c d : Channel} (same : c.ctorIdx = d.ctorIdx) : c = d := by
  cases c <;> cases d <;> first | rfl | cases same

theorem eq_of_compare {a b : Topic} (same : compare a b = .eq) : a = b := by
  obtain ⟨channel, ⟨name⟩, interval⟩ := a
  obtain ⟨channel', ⟨name'⟩, interval'⟩ := b
  rw [compare_eq] at same
  simp only [compareLex, compareOn, Ordering.then_eq_eq, Std.LawfulEqCmp.compare_eq_iff_eq] at same
  obtain ⟨channels, rfl, rfl⟩ := same
  obtain rfl := ctorIdx_injective channels
  rfl

theorem le_trans (a b c : Topic) (ab : a.le b = true) (bc : b.le c = true) : a.le c = true :=
  Std.TransCmp.isLE_trans ab bc

theorem le_total (a b : Topic) : (a.le b || b.le a) = true := by
  cases h : a.le b with
  | true => rfl
  | false =>
      have less : compare b a = .lt := Std.OrientedCmp.lt_of_not_isLE (by simpa [le] using h)
      simp [le, less]

theorem sorted_mergeSort {topics : List Topic} (distinct : topics.Nodup) :
    (topics.mergeSort le).Pairwise fun a b => compare a b = .lt := by
  have sorted := List.pairwise_mergeSort le_trans le_total topics
  have distinct' := (List.mergeSort_perm topics le).nodup_iff.mpr distinct
  apply (sorted.and distinct').imp
  rintro a b ⟨less, apart⟩
  cases h : compare a b with
  | lt => rfl
  | eq => exact absurd (eq_of_compare h) apart
  | gt => simp [le, h] at less

end CandleFeed.Topic
