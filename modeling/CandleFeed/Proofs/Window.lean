import CandleFeed.Ingester
import CandleFeed.Proofs.Recent

namespace CandleFeed.Window

variable {w : Window} {capacity : Nat} {ids : List String} {id : String}

structure Recalls (w : Window) (capacity : Nat) (ids : List String) : Prop where
  sized : w.capacity = max 1 capacity
  last : w.order = ids.rtake (max 1 capacity)
  distinct : w.order.Nodup
  seen : ∀ id, w.seen.contains id = true ↔ id ∈ w.order

theorem recalls_empty (capacity : Nat) : (empty capacity).Recalls capacity [] where
  sized := rfl
  last := (List.rtake_nil _).symm
  distinct := List.nodup_nil
  seen id := by simp [empty, Table.contains]

theorem Recalls.bounded (recalls : w.Recalls capacity ids) :
    w.order.length ≤ max 1 capacity := by
  rw [recalls.last, length_rtake]
  exact Nat.min_le_left _ _

theorem contains_erase (seen : Table String Unit) (own other : String) :
    (seen.erase own).contains other = true ↔ other ≠ own ∧ seen.contains other = true := by
  unfold Table.contains
  rw [Table.get?_erase]
  split <;> simp_all

theorem contains_insert (seen : Table String Unit) (own other : String) :
    (seen.insert own ()).contains other = true ↔ other = own ∨ seen.contains other = true := by
  unfold Table.contains
  rw [Table.get?_insert]
  split <;> simp_all

theorem order_evict (w : Window) :
    w.evict.order = if w.capacity ≤ w.order.length then w.order.tail else w.order := by
  unfold evict
  by_cases full : w.capacity ≤ w.order.length
  · rw [if_pos full, if_pos full]
    split
    · rename_i nothing
      rw [nothing, List.tail_nil]
    · rename_i nonempty
      rw [nonempty, List.tail_cons]
  · rw [if_neg full, if_neg full]

theorem Recalls.agree_evict (recalls : w.Recalls capacity ids) :
    w.evict.order.Nodup ∧ ∀ id, w.evict.seen.contains id = true ↔ id ∈ w.evict.order := by
  have distinct := recalls.distinct
  have seen := recalls.seen
  unfold evict
  split
  · split
    · exact ⟨distinct, seen⟩
    · rename_i oldest rest nonempty
      rw [nonempty] at distinct seen
      obtain ⟨once, distinct⟩ := List.nodup_cons.mp distinct
      refine ⟨distinct, ?_⟩
      intro id
      rw [contains_erase, seen, List.mem_cons]
      constructor
      · rintro ⟨other, same | mem⟩
        · exact absurd same other
        · exact mem
      · intro mem
        exact ⟨fun same => once (same ▸ mem), .inr mem⟩
  · exact ⟨distinct, seen⟩

theorem Recalls.remember_old (recalls : w.Recalls capacity ids)
    (old : id ∈ ids.rtake (max 1 capacity)) : w.remember id = none := by
  rw [← recalls.last, ← recalls.seen] at old
  exact remember_of_seen old

theorem Recalls.remember_new (recalls : w.Recalls capacity ids)
    (new : id ∉ ids.rtake (max 1 capacity)) :
    ∃ after, w.remember id = some after ∧ after.Recalls capacity (ids ++ [id]) := by
  rw [← recalls.last, ← recalls.seen] at new
  obtain ⟨distinct, seen⟩ := recalls.agree_evict
  refine ⟨_, if_neg new, ?_⟩
  have order : (w.evict.push id).order = (ids ++ [id]).rtake (max 1 capacity) := by
    change w.evict.order ++ [id] = _
    rw [order_evict, recalls.sized, recalls.last, rtake_concat (by omega)]
  -- what an eviction leaves was in the window before, so the new id is not among it
  have fresh : id ∉ w.evict.order := by
    intro mem
    have part : w.evict.order ⊆ w.order := by
      rw [order_evict]
      split
      · exact (List.tail_sublist _).subset
      · exact List.Subset.refl _
    exact new ((recalls.seen id).mpr (part mem))
  constructor
  case sized => exact w.capacity_evict.trans recalls.sized
  case last => exact order
  case distinct =>
    change (w.evict.order ++ [id]).Nodup
    rw [List.nodup_append]
    refine ⟨distinct, by simp, ?_⟩
    intro other mem own single
    rw [List.mem_singleton.mp single]
    rintro rfl
    exact fresh mem
  case seen =>
    intro other
    change (w.evict.seen.insert id ()).contains other = true ↔ other ∈ w.evict.order ++ [id]
    rw [contains_insert, seen, List.mem_append, List.mem_singleton, or_comm]

end CandleFeed.Window
