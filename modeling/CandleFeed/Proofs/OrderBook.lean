import CandleFeed.Market
import CandleFeed.Proofs.Decimal.Value

/-!
# Books in order

A book is checked from each level to the next, and across only at the two best levels. Prices are
compared by value, which is transitive, so that the check decides the order of all levels.
-/

namespace CandleFeed.Depth

theorem adjacent_iff_isChain {holds : α → α → Bool} {before : α → α → Prop} {levels : List α}
    (decides : ∀ a b, holds a b = true ↔ before a b) :
    adjacent holds levels = true ↔ levels.IsChain before := by
  induction levels with
  | nil => simp [adjacent]
  | cons a rest ih =>
      cases rest with
      | nil => simp [adjacent]
      | cons b rest => rw [adjacent, Bool.and_eq_true, ih, decides, List.isChain_cons_cons]

theorem adjacent_iff_pairwise {holds : α → α → Bool} {before : α → α → Prop} {levels : List α}
    (decides : ∀ a b, holds a b = true ↔ before a b)
    (trans : ∀ {a b c}, before a b → before b c → before a c) :
    adjacent holds levels = true ↔ levels.Pairwise before := by
  have : Trans before before before := ⟨trans⟩
  rw [adjacent_iff_isChain decides, List.isChain_iff_pairwise]

def Falls (levels : List PriceLevel) : Prop :=
  levels.Pairwise fun earlier later => later.price.value < earlier.price.value

def Rises (levels : List PriceLevel) : Prop :=
  levels.Pairwise fun earlier later => earlier.price.value < later.price.value

section Sides

variable {levels : List PriceLevel} {best level : PriceLevel}

theorem adjacent_iff_falls : adjacent (fun a b => b.price < a.price) levels = true ↔ Falls levels :=
  adjacent_iff_pairwise (fun _ _ => by rw [decide_eq_true_eq, Decimal.lt_iff_value])
    fun first second => second.trans first

theorem adjacent_iff_rises : adjacent (fun a b => a.price < b.price) levels = true ↔ Rises levels :=
  adjacent_iff_pairwise (fun _ _ => by rw [decide_eq_true_eq, Decimal.lt_iff_value])
    fun first second => first.trans second

theorem eq_or_before_of_mem {before : PriceLevel → PriceLevel → Prop}
    (order : levels.Pairwise before) (first : levels.head? = some best) (mem : level ∈ levels) :
    level = best ∨ before best level := by
  obtain ⟨rest, rfl⟩ := List.head?_eq_some_iff.mp first
  exact (List.mem_cons.mp mem).imp_right (List.rel_of_pairwise_cons order)

theorem Falls.le_head (falls : Falls levels) (first : levels.head? = some best)
    (mem : level ∈ levels) : level.price.value ≤ best.price.value := by
  rcases eq_or_before_of_mem falls first mem with rfl | below
  · exact le_rfl
  · exact below.le

theorem Rises.head_le (rises : Rises levels) (first : levels.head? = some best)
    (mem : level ∈ levels) : best.price.value ≤ level.price.value := by
  rcases eq_or_before_of_mem rises first mem with rfl | above
  · exact le_rfl
  · exact above.le

end Sides

structure InOrder (d : Depth) : Prop where
  bids : Falls d.bids
  asks : Rises d.asks
  uncrossed : ∀ bid ∈ d.bids, ∀ ask ∈ d.asks, bid.price.value < ask.price.value

theorem uncrossed_iff {d : Depth} (falls : Falls d.bids) (rises : Rises d.asks) :
    (match d.bestBid, d.bestAsk with
      | some bid, some ask => decide (bid.price < ask.price)
      | _, _ => true) = true ↔
    ∀ bid ∈ d.bids, ∀ ask ∈ d.asks, bid.price.value < ask.price.value := by
  cases bid : d.bestBid with
  | none => simp [List.head?_eq_none_iff.mp bid]
  | some best =>
      cases ask : d.bestAsk with
      | none => simp [List.head?_eq_none_iff.mp ask]
      | some best' =>
          simp only [decide_eq_true_eq, Decimal.lt_iff_value]
          constructor
          · intro apart level mem level' mem'
            exact ((falls.le_head bid mem).trans_lt apart).trans_le (rises.head_le ask mem')
          · intro apart
            exact apart best (List.mem_of_head? bid) best' (List.mem_of_head? ask)

theorem isOrdered_iff (d : Depth) : d.isOrdered = true ↔ d.InOrder := by
  rw [isOrdered, Bool.and_eq_true, Bool.and_eq_true, adjacent_iff_falls, adjacent_iff_rises]
  constructor
  · rintro ⟨⟨falls, rises⟩, best⟩
    exact ⟨falls, rises, (uncrossed_iff falls rises).mp best⟩
  · rintro ⟨falls, rises, uncrossed⟩
    exact ⟨⟨falls, rises⟩, (uncrossed_iff falls rises).mpr uncrossed⟩

-- one price twice, with and without places
example : isOrdered ⟨⟨"BTC-USDT"⟩, [⟨⟨false, 100, 0, by decide, by decide⟩, .zero⟩,
    ⟨⟨false, 1000, 1, by decide, by decide⟩, .zero⟩], [], 0⟩ = false := by decide

end CandleFeed.Depth
