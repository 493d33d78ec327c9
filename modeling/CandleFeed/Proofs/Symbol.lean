import CandleFeed.Proofs.Documents
import CandleFeed.Topic

namespace CandleFeed

namespace Symbol

variable {s : Symbol}

theorem exists_parse?_iff : (∃ name, parse? name = some s) ↔ s.WellFormed := by
  constructor
  · rintro ⟨name, parsed⟩
    exact (parse?_eq_some_iff.mp parsed).2
  · intro wellFormed
    exact ⟨s.name, parse?_eq_some_iff.mpr ⟨rfl, wellFormed⟩⟩

theorem wellFormed_of_ofPair? {pair : String} (found : ofPair? pair = some s) :
    s.WellFormed ∧ '/' ∉ s.name.toList := by
  obtain ⟨name, wellFormed⟩ := parse?_eq_some_iff.mp found
  refine ⟨wellFormed, ?_⟩
  rw [name, String.toList_ofList, List.mem_map]
  rintro ⟨c, -, slash⟩
  split at slash
  · cases slash
  · rename_i other
    exact other slash

theorem ofPair?_name (wellFormed : s.WellFormed) (plain : '/' ∉ s.name.toList) :
    ofPair? s.name = some s := by
  have dark : ∀ c ∈ s.name.toList, Text.isBlank c = false := by
    intro c mem
    exact (Bool.or_eq_false_iff.mp (wellFormed.2 c mem)).2
  have kept : ∀ c ∈ s.name.toList, (if c = '/' then '-' else c) = c := by
    intro c mem
    apply if_neg
    rintro rfl
    exact plain mem
  rw [ofPair?, Text.strip_of_dark dark, List.map_congr_left kept, List.map_id', String.ofList_toList]
  exact parse?_eq_some_iff.mpr ⟨rfl, wellFormed⟩

theorem exists_ofPair?_iff : (∃ pair, ofPair? pair = some s) ↔ s.WellFormed ∧ '/' ∉ s.name.toList := by
  constructor
  · rintro ⟨pair, found⟩
    exact wellFormed_of_ofPair? found
  · rintro ⟨wellFormed, plain⟩
    exact ⟨s.name, ofPair?_name wellFormed plain⟩

theorem WellFormed.colon_notMem (wellFormed : s.WellFormed) : ':' ∉ s.name.toList := by
  intro mem
  cases wellFormed.2 ':' mem

end Symbol

namespace Topic

theorem takeWhile_until_colon {part rest : List Char} (plain : ':' ∉ part)
    (ends : ∀ c ∈ rest.head?, c = ':') : (part ++ rest).takeWhile (· ≠ ':') = part := by
  have all : ∀ c ∈ part, decide (c ≠ ':') = true := by
    intro c mem
    apply decide_eq_true
    rintro rfl
    exact plain mem
  rw [List.takeWhile_append_of_pos all]
  cases rest with
  | nil => exact List.append_nil part
  | cons c rest =>
      obtain rfl := ends c rfl
      rw [List.takeWhile_cons_of_neg (by simp), List.append_nil]

def suffix (t : Topic) : List Char :=
  match t.interval with
  | some interval => ':' :: interval.toList
  | none => []

theorem toList_key (t : Topic) :
    t.key.toList = t.channel.code.toList ++ ':' :: (t.symbol.name.toList ++ t.suffix) := by
  obtain ⟨channel, symbol, interval⟩ := t
  cases interval <;> simp [key, suffix, String.toList_append]

theorem colon_of_mem_head?_suffix (t : Topic) : ∀ c ∈ t.suffix.head?, c = ':' := by
  obtain ⟨channel, symbol, _ | interval⟩ := t
  · exact nofun
  · intro c first
    exact (Option.some.inj first).symm

theorem colon_notMem_code (c : Channel) : ':' ∉ c.code.toList := by
  cases c <;> decide

theorem key_injective {a b : Topic} (wellFormed : a.symbol.WellFormed)
    (wellFormed' : b.symbol.WellFormed) (same : a.key = b.key) : a = b := by
  have texts := congrArg String.toList same
  rw [toList_key, toList_key] at texts
  have codes := congrArg (List.takeWhile (· ≠ ':')) texts
  rw [takeWhile_until_colon (colon_notMem_code _) (by simp),
    takeWhile_until_colon (colon_notMem_code _) (by simp)] at codes
  rw [codes] at texts
  have rests := (List.cons.inj (List.append_cancel_left texts)).2
  have names := congrArg (List.takeWhile (· ≠ ':')) rests
  rw [takeWhile_until_colon wellFormed.colon_notMem a.colon_of_mem_head?_suffix,
    takeWhile_until_colon wellFormed'.colon_notMem b.colon_of_mem_head?_suffix] at names
  rw [names] at rests
  have suffixes := List.append_cancel_left rests
  obtain ⟨channel, ⟨name⟩, interval⟩ := a
  obtain ⟨channel', ⟨name'⟩, interval'⟩ := b
  obtain rfl := Channel.code_injective (String.toList_inj.mp codes)
  obtain rfl := String.toList_inj.mp names
  cases interval <;> cases interval' <;> simp_all [suffix, String.toList_inj]

example : key ⟨.depth, ⟨"BTC:1m"⟩, none⟩ = key ⟨.depth, ⟨"BTC"⟩, some "1m"⟩ := by decide

end Topic

theorem Symbol.decode_codec_iff {cs : List Char} {s : Symbol} :
    codec.decode cs = .ok s ↔ Json.Codec.text.decode cs = .ok s.name := by
  unfold codec Json.Codec.map Json.Codec.decode
  dsimp only
  cases Json.Codec.text.read cs with
  | error fault => exact ⟨nofun, nofun⟩
  | ok done =>
      obtain ⟨name, rest⟩ := done
      obtain ⟨own⟩ := s
      simp only [Except.map, bind, Except.bind]
      split <;> simp

theorem Symbol.exists_unchecked :
    ¬ ∀ (cs : List Char) (s : Symbol), codec.decode cs = .ok s → s.WellFormed := by
  intro checked
  have wellFormed := checked "\"BTC:USDT\"".toList ⟨"BTC:USDT"⟩ rfl
  exact wellFormed.colon_notMem (by decide)

def DecodesWell (codec : Json.Codec α) (symbol : α → Symbol) (cs : List Char) : Prop :=
  ∀ a, codec.decode cs = .ok a → (symbol a).WellFormed

/-- Nothing is asked of the symbol when a value is decoded. -/
structure Unchecked (codec : Json.Codec α) (fits : α → Prop) (symbol : α → Symbol)
    (rename : α → Symbol → α) : Prop where
  decodesWell_iff : ∀ cs, DecodesWell codec symbol cs ↔
    ∀ a, codec.decode cs = .ok a → ∃ s, Symbol.parse? (symbol a).name = some s
  takesAny : ∀ a, fits a → ∀ s, ∃ b,
    codec.decode (codec.encode (rename a s)).toList = .ok b ∧ symbol b = s

theorem unchecked_of_restores {codec : Json.Codec α} {fits : α → Prop} {symbol : α → Symbol}
    {rename read : α → Symbol → α}
    (restores : ∀ a s, fits a → codec.Restores (rename a s) (read a s))
    (kept : ∀ a s, symbol (read a s) = s) : Unchecked codec fits symbol rename where
  decodesWell_iff cs := by
    refine forall₂_congr fun a _ => ?_
    constructor
    · intro wellFormed
      exact ⟨symbol a, Symbol.parse?_eq_some_iff.mpr ⟨rfl, wellFormed⟩⟩
    · rintro ⟨s, parsed⟩
      obtain ⟨name, wellFormed⟩ := Symbol.parse?_eq_some_iff.mp parsed
      have same : s = symbol a := congrArg Symbol.mk name
      exact same ▸ wellFormed
  takesAny a fit s := ⟨read a s, (restores a s fit).decode, kept a s⟩

theorem Symbol.unchecked : Unchecked codec (fun _ => True) (fun s => s) fun _ s => s :=
  unchecked_of_restores (fun _ s _ => s.restores_codec) fun _ _ => rfl

theorem CandleKey.unchecked : Unchecked codec Fits symbol fun key s => { key with symbol := s } :=
  unchecked_of_restores (fun key s fits => @restores_codec { key with symbol := s } fits)
    fun _ _ => rfl

theorem Candle.unchecked : Unchecked codec Fits symbol fun c s => { c with symbol := s } :=
  unchecked_of_restores
    (fun c s fits => @restores_fitting { c with symbol := s } { fits with }) fun _ _ => rfl

theorem Tick.unchecked :
    Unchecked codec (fun _ => True) symbol fun tick s => { tick with symbol := s } :=
  unchecked_of_restores (fun tick s _ => restores_codec { tick with symbol := s }) fun _ _ => rfl

theorem PublicTrade.unchecked :
    Unchecked codec Fits symbol fun report s => { report with symbol := s } :=
  unchecked_of_restores (fun report s fits => @restores_codec { report with symbol := s } fits)
    fun _ _ => rfl

theorem Depth.unchecked : Unchecked codec Fits symbol fun book s => { book with symbol := s } :=
  unchecked_of_restores (fun book s fits => @restores_codec { book with symbol := s } fits)
    fun _ _ => rfl

theorem Ticker.unchecked : Unchecked codec Fits symbol fun stats s => { stats with symbol := s } :=
  unchecked_of_restores (fun stats s fits => @restores_codec { stats with symbol := s } fits)
    fun _ _ => rfl

end CandleFeed
