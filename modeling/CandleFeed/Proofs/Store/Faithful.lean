import CandleFeed.Proofs.Store.Failing

namespace CandleFeed

theorem Cache.find_of_live {c d : Cache} {now : Nat} {key : CandleKey}
    (same : c.live? now key.cacheKey = d.live? now key.cacheKey) : c.find now key = d.find now key := by
  unfold find
  rw [same]

theorem Cache.find_put {c after : Cache} {now later : Nat} (order : now ≤ later) {candle : Candle}
    (fits : candle.Fits) {ttl : Nat} (done : c.put now candle ttl = some after) (key : CandleKey) :
    after.find later key =
      if key = candle.key then .ok (if later < now + ttl then some candle.signedByValue else none)
      else c.find later key := by
  obtain ⟨-, rfl⟩ := put_eq_some_iff.mp done
  split
  · rename_i own
    unfold find
    rw [own, live_keep_self c order]
    by_cases alive : later < now + ttl
    · rw [if_pos alive, if_pos alive]
      dsimp only
      rw [(Candle.restores_fitting fits).decode]
    · rw [if_neg alive, if_neg alive]
  · rename_i other
    exact find_of_live (live_keep_other c order (mt CandleKey.cacheKey_injective other) _)

theorem Cache.get?_evict_other (c : Cache) (now : Nat) {key other : CandleKey} (apart : other ≠ key) :
    (c.evict now key).entries.get? other.cacheKey = c.entries.get? other.cacheKey := by
  unfold evict
  split
  · rw [Table.get?_erase, if_neg (mt CandleKey.cacheKey_injective apart)]
  · rfl

theorem CandleKey.cacheKey_faithful (key other : CandleKey) :
    (key.cacheKey = other.cacheKey ↔ key = other) ∧
    ∀ (c : Cache) (now : Nat),
      (∀ later, now ≤ later → ∀ candle : Candle, candle.Fits → candle.key = key → ∀ ttl after,
        c.put now candle ttl = some after → after.find later other =
          if key = other then .ok (if later < now + ttl then some candle.signedByValue else none)
          else c.find later other) ∧
      (key ≠ other → (c.evict now key).entries.get? other.cacheKey = c.entries.get? other.cacheKey) := by
  refine ⟨⟨cacheKey_injective, congrArg cacheKey⟩, fun c now => ⟨?_, ?_⟩⟩
  · rintro later order candle fits rfl ttl after done
    rw [Cache.find_put order fits done]
    simp only [eq_comm]
  · intro apart
    exact c.get?_evict_other now apart.symm

end CandleFeed
