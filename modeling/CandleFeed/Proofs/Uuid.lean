import CandleFeed.Uuid

namespace CandleFeed.Uuid

theorem length_hexDigits (n count : Nat) : (hexDigits n count).length = count := by
  induction count generalizing n with
  | zero => rfl
  | succ count ih => rw [hexDigits, List.length_append, ih, List.length_singleton]

theorem hexValue?_hexDigit {d : Nat} (small : d < 16) :
    Json.hexValue? (Json.hexDigit d) = some d := by
  have all : ∀ d, d < 16 → Json.hexValue? (Json.hexDigit d) = some d := by decide
  exact all d small

theorem ofHex?_hexDigits (n count : Nat) :
    ofHex? (hexDigits n count) = some (n % Nat.pow 16 count) := by
  induction count generalizing n with
  | zero => simp [hexDigits, ofHex?, Nat.mod_one]
  | succ count ih =>
      have digit := hexValue?_hexDigit (Nat.mod_lt n (by decide : 0 < 16))
      have value : 16 * (n / 16 % Nat.pow 16 count) + n % 16 = n % Nat.pow 16 (count + 1) := by
        rw [Nat.pow_eq, Nat.pow_eq, Nat.pow_succ', Nat.mod_mul, Nat.add_comm]
      unfold ofHex? at ih ⊢
      rw [hexDigits, List.foldlM_append, ih, ← value]
      simp [digit]

theorem exists_digit_of_mem {n count : Nat} {c : Char} (mem : c ∈ hexDigits n count) :
    ∃ d, d < 16 ∧ c = Json.hexDigit d := by
  induction count generalizing n with
  | zero => cases mem
  | succ count ih =>
      rcases List.mem_append.mp mem with before | last
      · exact ih before
      · exact ⟨n % 16, Nat.mod_lt n (by decide), List.mem_singleton.mp last⟩

theorem plain_of_digit {d : Nat} (small : d < 16) :
    (Json.hexDigit d).toLower ≠ 'u' ∧ Json.hexDigit d ≠ '\x7b' := by
  have all : ∀ d, d < 16 → (Json.hexDigit d).toLower ≠ 'u' ∧ Json.hexDigit d ≠ '\x7b' := by decide
  exact all d small

theorem unhyphenate?_hyphenate {sizes : List Nat} {ds : List Char}
    (length : ds.length = sizes.foldr (· + ·) 0) (some : sizes ≠ []) :
    unhyphenate? sizes (hyphenate sizes ds) = .some ds := by
  induction sizes generalizing ds with
  | nil => exact absurd rfl some
  | cons size sizes ih =>
      cases sizes with
      | nil =>
          have exact : ds.length = size := by simpa using length
          exact if_pos exact
      | cons next sizes =>
          have enough : size ≤ ds.length := by
            rw [length, List.foldr_cons]
            exact Nat.le_add_right _ _
          have own : (ds.take size).length = size := List.length_take_of_le enough
          have later : unhyphenate? (next :: sizes) (hyphenate (next :: sizes) (ds.drop size)) =
              .some (ds.drop size) := ih (by simp [length]) (by simp)
          rw [hyphenate, unhyphenate?]
          · rw [List.drop_left' own, List.take_left' own]
            simp only [later, Option.map_some, List.take_append_drop]
          · simp
          · simp

theorem parse?_hyphenate {d : Nat} (small : d < 16) {ds : List Char} (length : ds.length = 31) :
    parse? (hyphenate groups (Json.hexDigit d :: ds)) =
      (ofHex? (Json.hexDigit d :: ds)).map fun n => ⟨BitVec.ofNat 128 n⟩ := by
  obtain ⟨noUrn, noBrace⟩ := plain_of_digit small
  have whole : (Json.hexDigit d :: ds).length = groups.foldr (· + ·) 0 := by
    rw [List.length_cons, length]
    rfl
  have grouped := unhyphenate?_hyphenate whole (by decide)
  have long : (hyphenate groups (Json.hexDigit d :: ds)).length ≠ 32 := by
    simp [groups, hyphenate, length]
  have text : ∃ cs, hyphenate groups (Json.hexDigit d :: ds) = Json.hexDigit d :: cs := ⟨_, rfl⟩
  obtain ⟨cs, text⟩ := text
  have other : isUrn (Json.hexDigit d :: cs) = false := by
    have start : urnStart = 'u' :: "rn:uuid:".toList := rfl
    rw [isUrn, start, List.map_cons, List.isPrefixOf, beq_false_of_ne noUrn.symm, Bool.false_and]
  rw [text] at grouped long ⊢
  unfold parse?
  rw [if_neg long, if_neg (by rw [other]; decide)]
  split
  · rename_i brace
    exact absurd (List.cons.inj brace).1 noBrace
  · rw [grouped]
    dsimp only [bind, Option.bind]
    cases ofHex? (Json.hexDigit d :: ds) <;> rfl

theorem parse?_render (id : Uuid) : parse? id.render = some id := by
  have length := length_hexDigits id.value.toNat 32
  have value := ofHex?_hexDigits id.value.toNat 32
  have small : id.value.toNat < Nat.pow 16 32 := id.value.isLt
  rw [Nat.mod_eq_of_lt small] at value
  unfold render
  cases shape : hexDigits id.value.toNat 32 with
  | nil =>
      rw [shape] at length
      cases length
  | cons c ds =>
      obtain ⟨d, small, rfl⟩ := exists_digit_of_mem (shape ▸ List.mem_cons_self)
      rw [shape] at length value
      rw [parse?_hyphenate small (Nat.succ.inj length), value, Option.map_some, BitVec.ofNat_toNat,
        BitVec.setWidth_eq]

end CandleFeed.Uuid
