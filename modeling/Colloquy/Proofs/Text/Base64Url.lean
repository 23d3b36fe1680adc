import Mathlib.Logic.Basic
import Colloquy.Proofs.Outcome
import Colloquy.Text.Base64Url
import Colloquy.Text.Utf8

/-!
# Reading base64 accepts exactly what writing produces

`Base64Url.decode` works on the bytes of a text and `Base64Url.encode` writes characters, so the
two meet in `Base64Url.written`, the bytes of an encoding. `decode_eq_ok_iff` says that a text is
read as some bytes exactly if it is written from them: no other spelling of the same bytes, with
padding or with stray low bits, is read.
-/

namespace Colloquy.Base64Url

/-! ### Symbols -/

/-- The byte of a character below 256. -/
def byteOf (c : Char) : UInt8 := c.val.toUInt8

/-- A plain sign is the byte of its number. -/
lemma toNat_byteOf {c : Char} (h : c.toNat < 128) : (byteOf c).toNat = c.toNat :=
  Nat.mod_eq_of_lt (Nat.lt_trans h (by decide))

/-- The bytes of the encoding of `bytes`. -/
def written (bytes : List UInt8) : List UInt8 := (encode bytes).map byteOf

/-- The symbol of a six-bit value is an ASCII character and is read as that value. -/
lemma symbol_spec {v : Nat} (hv : v < 64) :
    (symbol v).toNat < 128 ∧ value? (byteOf (symbol v)) = some v := by
  have h : ∀ v < 64, (symbol v).toNat < 128 ∧ value? (byteOf (symbol v)) = some v := by decide
  exact h v hv

/-- Only the symbol of a value is read as that value. -/
lemma eq_symbol_of_value? {b : UInt8} {v : Nat} (h : value? b = some v) :
    v < 64 ∧ b = byteOf (symbol v) := by
  have hall : ∀ n < 256, ∀ v ∈ value? (UInt8.ofNat n),
      v < 64 ∧ UInt8.ofNat n = byteOf (symbol v) := by decide +kernel
  have hb := hall b.toNat b.toNat_lt v
  rw [UInt8.ofNat_toNat] at hb
  exact hb h

/-- A symbol has its value. -/
lemma valueAt_symbol {v : Nat} (hv : v < 64) (offset : Nat) :
    valueAt offset (byteOf (symbol v)) = .ok v := by
  rw [valueAt, (symbol_spec hv).2]

/-- A byte with a value is the symbol of that value. -/
lemma eq_symbol_of_valueAt {offset v : Nat} {b : UInt8} (h : valueAt offset b = .ok v) :
    v < 64 ∧ b = byteOf (symbol v) := by
  unfold valueAt at h
  cases hb : value? b with
  | none => rw [hb] at h; simp at h
  | some w =>
    rw [hb] at h
    obtain rfl : w = v := by simpa using h
    exact eq_symbol_of_value? hb

/-- No symbol is the padding. -/
lemma symbol_ne_padding {v : Nat} (hv : v < 64) : byteOf (symbol v) ≠ padding := by
  intro h
  have := (symbol_spec hv).2
  rw [h] at this
  simp [value?, padding] at this

/-- The first symbol of an encoding has the high bits of the first byte. -/
lemma exists_encode_cons (b : UInt8) (rest : List UInt8) :
    ∃ more, encode (b :: rest) = symbol (b.toNat / 4) :: more := by
  match rest with
  | [] => exact ⟨_, rfl⟩
  | [_] => exact ⟨_, rfl⟩
  | _ :: _ :: _ => exact ⟨_, rfl⟩

/-- The symbols of small values are letters. -/
lemma symbol_ne_hyphen {v : Nat} (hv : v < 32) : symbol v ≠ '-' := by
  have hall : ∀ v < 32, symbol v ≠ '-' := by decide
  exact hall v hv

/-- Encodings are made of symbols. -/
lemma exists_symbol_of_mem_encode {c : Char} {bytes : List UInt8} (h : c ∈ encode bytes) :
    ∃ v < 64, c = symbol v := by
  fun_induction encode bytes with
  | case1 => simp at h
  | case2 a =>
    have ha := a.toNat_lt
    simp only [List.mem_cons, List.not_mem_nil, or_false] at h
    rcases h with rfl | rfl <;> exact ⟨_, by omega, rfl⟩
  | case3 a b =>
    have ha := a.toNat_lt
    have hb := b.toNat_lt
    simp only [List.mem_cons, List.not_mem_nil, or_false] at h
    rcases h with rfl | rfl | rfl <;> exact ⟨_, by omega, rfl⟩
  | case4 a b c rest x y z ih =>
    have ha := a.toNat_lt
    have hb := b.toNat_lt
    have hc := c.toNat_lt
    simp only [List.mem_cons] at h
    rcases h with rfl | rfl | rfl | rfl | h
    case inr.inr.inr.inr => exact ih h
    all_goals exact ⟨_, by omega, rfl⟩

/-! ### Groups -/

/-- The symbols of a group of three bytes are written again: their values, cut into bytes, give
these symbols. -/
lemma written_three {w x y z : Nat} (hw : w < 64) (hx : x < 64) (hy : y < 64) (hz : z < 64) :
    written [.ofNat (w * 4 + x / 16), .ofNat (x % 16 * 16 + y / 4), .ofNat (y % 4 * 64 + z)] =
      [byteOf (symbol w), byteOf (symbol x), byteOf (symbol y), byteOf (symbol z)] := by
  simp only [written, encode, List.map, UInt8.toNat_ofNat', List.cons.injEq, and_true]
  refine ⟨?_, ?_, ?_, ?_⟩ <;> congr 2 <;> omega

/-- The symbols of a group of two bytes are written again if the low bits to spare are zero. -/
lemma written_two {w x y : Nat} (hw : w < 64) (hx : x < 64) (hy : y < 64) (hspare : y % 4 = 0) :
    written [.ofNat (w * 4 + x / 16), .ofNat (x % 16 * 16 + y / 4)] =
      [byteOf (symbol w), byteOf (symbol x), byteOf (symbol y)] := by
  simp only [written, encode, List.map, UInt8.toNat_ofNat', List.cons.injEq, and_true]
  refine ⟨?_, ?_, ?_⟩ <;> congr 2 <;> omega

/-- The symbols of a group of one byte are written again if the low bits to spare are zero. -/
lemma written_one {w x : Nat} (hw : w < 64) (hx : x < 64) (hspare : x % 16 = 0) :
    written [.ofNat (w * 4 + x / 16)] = [byteOf (symbol w), byteOf (symbol x)] := by
  simp only [written, encode, List.map, UInt8.toNat_ofNat', List.cons.injEq, and_true]
  refine ⟨?_, ?_⟩ <;> congr 2 <;> omega

/-- A full group is read as three bytes exactly if it is written from them. -/
lemma decodeGroup_eq_ok_iff {offset : Nat} {p q r s : UInt8} {bytes : List UInt8} :
    decodeGroup offset p q r s = .ok bytes ↔
      ∃ a b c, bytes = [a, b, c] ∧ [p, q, r, s] = written [a, b, c] := by
  unfold decodeGroup
  simp only [bind_eq_ok_iff, pure_eq_ok_iff]
  constructor
  · rintro ⟨w, hw, x, hx, y, hy, z, hz, rfl⟩
    obtain ⟨hw64, rfl⟩ := eq_symbol_of_valueAt hw
    obtain ⟨hx64, rfl⟩ := eq_symbol_of_valueAt hx
    obtain ⟨hy64, rfl⟩ := eq_symbol_of_valueAt hy
    obtain ⟨hz64, rfl⟩ := eq_symbol_of_valueAt hz
    exact ⟨_, _, _, rfl, (written_three hw64 hx64 hy64 hz64).symm⟩
  · rintro ⟨a, b, c, rfl, h⟩
    have ha := a.toNat_lt
    have hb := b.toNat_lt
    have hc := c.toNat_lt
    simp only [written, encode, List.map, List.cons.injEq, and_true] at h
    obtain ⟨rfl, rfl, rfl, rfl⟩ := h
    refine ⟨_, valueAt_symbol (by omega) _, _, valueAt_symbol (by omega) _, _,
      valueAt_symbol (by omega) _, _, valueAt_symbol (by omega) _, ?_⟩
    simp only [List.cons.injEq, and_true]
    refine ⟨?_, ?_, ?_⟩ <;> rw [← UInt8.toNat_inj, UInt8.toNat_ofNat'] <;> omega

/-- The symbols of values are all taken into the last group, and none of them is padding. -/
lemma lastSymbols_symbols (offset place : Nat) (values : List Nat) (h : ∀ v ∈ values, v < 64) :
    lastSymbols offset place none (values.map fun v => byteOf (symbol v)) =
      .ok (values.map fun v => (byteOf (symbol v), v), none) := by
  induction values generalizing place with
  | nil => rfl
  | cons v rest ih =>
    have hv : v < 64 := h v List.mem_cons_self
    rw [List.map_cons, lastSymbols, if_neg (symbol_ne_padding hv), valueAt_symbol hv]
    simp [ih (place + 1) fun v hv => h v (List.mem_cons_of_mem _ hv), bind, Except.bind, pure,
      Except.pure]

/-- Padding that was met is remembered to the end of the group. -/
lemma lastSymbols_some {offset place first : Nat} {last : Option Nat} {group : List UInt8}
    {symbols : List (UInt8 × Nat)}
    (h : lastSymbols offset place (some first) group = .ok (symbols, last)) :
    last = some first := by
  induction group generalizing place symbols with
  | nil =>
    simp only [lastSymbols, Except.ok.injEq, Prod.mk.injEq] at h
    exact h.2.symm
  | cons b rest ih =>
    unfold lastSymbols at h
    by_cases hb : b = padding
    · rw [if_pos hb] at h
      by_cases hp : place < 2
      · simp [hp] at h
      · rw [if_neg hp] at h
        exact ih h
    · simp [hb] at h

/-- A last group that is read without padding is made of the symbols that are found in it. -/
lemma eq_symbols_of_lastSymbols {offset place : Nat} {group : List UInt8}
    {symbols : List (UInt8 × Nat)}
    (h : lastSymbols offset place none group = .ok (symbols, none)) :
    (∀ s ∈ symbols, s.2 < 64 ∧ s.1 = byteOf (symbol s.2)) ∧ group = symbols.map Prod.fst := by
  induction group generalizing place symbols with
  | nil =>
    obtain rfl : [] = symbols := by simpa [lastSymbols] using h
    simp
  | cons b rest ih =>
    unfold lastSymbols at h
    by_cases hb : b = padding
    · rw [if_pos hb] at h
      by_cases hp : place < 2
      · simp [hp] at h
      · rw [if_neg hp] at h
        have := lastSymbols_some h
        simp at this
    · simp only [if_neg hb, bind_eq_ok_iff, pure_eq_ok_iff, Prod.mk.injEq] at h
      obtain ⟨v, hv, ⟨more, last⟩, hmore, rfl, rfl⟩ := h
      obtain ⟨hall, rfl⟩ := ih hmore
      refine ⟨?_, rfl⟩
      intro s hs
      rcases List.mem_cons.mp hs with rfl | hs
      · exact eq_symbol_of_valueAt hv
      · exact hall s hs

/-- What a last group is read as is one to three bytes, and the group is written from them. -/
lemma eq_written_of_decodeLast {offset : Nat} {group bytes : List UInt8}
    (h : decodeLast offset group = .ok bytes) :
    (0 < bytes.length ∧ bytes.length ≤ 3) ∧ group = written bytes := by
  simp only [decodeLast, bind_eq_ok_iff] at h
  obtain ⟨⟨symbols, pad⟩, hs, h⟩ := h
  by_cases hlen : symbols.length < 2
  · simp [hlen] at h
  rw [if_neg hlen] at h
  cases pad with
  | some first => simp at h
  | none =>
    rw [if_neg (by simp)] at h
    obtain ⟨hall, rfl⟩ := eq_symbols_of_lastSymbols hs
    -- the unused low bits decide for two and for three symbols; four have none
    rcases symbols with _ | ⟨⟨_, w⟩, _ | ⟨⟨_, x⟩, _ | ⟨⟨_, y⟩, _ | ⟨⟨_, z⟩, _ | _⟩⟩⟩⟩
    · simp at hlen
    · simp at hlen
    · obtain ⟨⟨hw, rfl⟩, hx, rfl⟩ : _ ∧ _ := by simpa using hall
      by_cases hspare : x % 16 = 0
      · dsimp only at h
        rw [if_pos hspare] at h
        obtain rfl := Except.ok.inj h
        exact ⟨by simp, (written_one hw hx hspare).symm⟩
      · simp [hspare] at h
    · obtain ⟨⟨hw, rfl⟩, ⟨hx, rfl⟩, hy, rfl⟩ : _ ∧ _ ∧ _ := by simpa using hall
      by_cases hspare : y % 4 = 0
      · dsimp only at h
        rw [if_pos hspare] at h
        obtain rfl := Except.ok.inj h
        exact ⟨by simp, (written_two hw hx hy hspare).symm⟩
      · simp [hspare] at h
    · obtain ⟨⟨hw, rfl⟩, ⟨hx, rfl⟩, ⟨hy, rfl⟩, hz, rfl⟩ : _ ∧ _ ∧ _ ∧ _ := by simpa using hall
      obtain rfl := Except.ok.inj h
      exact ⟨by simp, (written_three hw hx hy hz).symm⟩
    · simp at h

/-- The encoding of one to three bytes is read as a last group. -/
lemma decodeLast_written (offset : Nat) {bytes : List UInt8} (hpos : 0 < bytes.length)
    (hle : bytes.length ≤ 3) : decodeLast offset (written bytes) = .ok bytes := by
  simp only [decodeLast, bind_eq_ok_iff]
  rcases bytes with _ | ⟨a, _ | ⟨b, _ | ⟨c, _ | ⟨d, rest⟩⟩⟩⟩
  · simp at hpos
  · have ha := a.toNat_lt
    refine ⟨_, lastSymbols_symbols offset 0 [a.toNat / 4, a.toNat % 4 * 16] (by simp; omega), ?_⟩
    rw [if_neg (by simp), if_neg (by simp)]
    dsimp only [List.map]
    rw [if_pos (by omega)]
    simp only [Except.ok.injEq, List.cons.injEq, and_true]
    rw [← UInt8.toNat_inj, UInt8.toNat_ofNat']
    omega
  · have ha := a.toNat_lt
    have hb := b.toNat_lt
    refine ⟨_, lastSymbols_symbols offset 0
      [a.toNat / 4, a.toNat % 4 * 16 + b.toNat / 16, b.toNat % 16 * 4] (by simp; omega), ?_⟩
    rw [if_neg (by simp), if_neg (by simp)]
    dsimp only [List.map]
    rw [if_pos (by omega)]
    simp only [Except.ok.injEq, List.cons.injEq, and_true]
    refine ⟨?_, ?_⟩ <;> rw [← UInt8.toNat_inj, UInt8.toNat_ofNat'] <;> omega
  · have ha := a.toNat_lt
    have hb := b.toNat_lt
    have hc := c.toNat_lt
    refine ⟨_, lastSymbols_symbols offset 0
      [a.toNat / 4, a.toNat % 4 * 16 + b.toNat / 16, b.toNat % 16 * 4 + c.toNat / 64,
        c.toNat % 64] (by simp; omega), ?_⟩
    rw [if_neg (by simp), if_neg (by simp)]
    simp only [List.map, Except.ok.injEq, List.cons.injEq, and_true]
    refine ⟨?_, ?_, ?_⟩ <;> rw [← UInt8.toNat_inj, UInt8.toNat_ofNat'] <;> omega
  · simp only [List.length_cons] at hle
    omega

/-- A last group is read as one to three bytes exactly if it is written from them. -/
lemma decodeLast_eq_ok_iff {offset : Nat} {group bytes : List UInt8} :
    decodeLast offset group = .ok bytes ↔
      (0 < bytes.length ∧ bytes.length ≤ 3) ∧ group = written bytes := by
  refine ⟨eq_written_of_decodeLast, ?_⟩
  rintro ⟨⟨hpos, hle⟩, rfl⟩
  exact decodeLast_written offset hpos hle

/-! ### Whole texts -/

/-- The encoding of three bytes and more is a full group and the encoding of the rest. -/
lemma written_cons (a b c : UInt8) (rest : List UInt8) :
    written (a :: b :: c :: rest) = written [a, b, c] ++ written rest := by
  simp [written, encode]

/-- Bytes have an encoding that is empty only if there are none. -/
lemma written_eq_nil_iff {bytes : List UInt8} : written bytes = [] ↔ bytes = [] := by
  rcases bytes with _ | ⟨a, _ | ⟨b, _ | ⟨c, rest⟩⟩⟩ <;> simp [written, encode]

/-- Group after group, a text is read as bytes exactly if it is written from them. -/
lemma decodeFrom_eq_ok_iff {offset : Nat} {text bytes : List UInt8} (ht : text ≠ []) :
    decodeFrom offset text = .ok bytes ↔ text = written bytes := by
  fun_induction decodeFrom offset text generalizing bytes with
  | case1 offset p q r s e rest ih =>
    simp only [bind_eq_ok_iff, pure_eq_ok_iff, decodeGroup_eq_ok_iff]
    constructor
    · rintro ⟨_, ⟨a, b, c, rfl, hgroup⟩, more, hmore, rfl⟩
      have hrest := (ih (by simp)).mp hmore
      rw [List.cons_append, List.cons_append, List.cons_append, List.nil_append, written_cons,
        ← hgroup, ← hrest]
      simp
    · intro h
      rcases bytes with _ | ⟨a, _ | ⟨b, _ | ⟨c, more⟩⟩⟩
      · simp [written, encode] at h
      · simp [written, encode] at h
      · simp [written, encode] at h
      · rw [written_cons] at h
        obtain ⟨hgroup, hrest⟩ :=
          List.append_inj (show [p, q, r, s] ++ e :: rest = _ from h) rfl
        exact ⟨_, ⟨a, b, c, rfl, hgroup⟩, more, (ih (by simp)).mpr hrest, rfl⟩
  | case2 offset group hgroup =>
    rw [decodeLast_eq_ok_iff, and_iff_right_iff_imp]
    intro h
    rcases bytes with _ | ⟨a, _ | ⟨b, _ | ⟨c, _ | ⟨d, more⟩⟩⟩⟩
    · exact absurd h ht
    · simp
    · simp
    · simp
    · -- four bytes and more need a fifth symbol, which a last group does not have
      obtain ⟨e, rest, he⟩ := List.exists_cons_of_ne_nil
        (written_eq_nil_iff.not.mpr (List.cons_ne_nil d more))
      rw [written_cons, he] at h
      exact absurd h (hgroup _ _ _ _ _ _)

/-- Every byte of an encoding belongs to the alphabet. -/
lemma value?_ne_none_of_mem_written {bytes : List UInt8} {b : UInt8} (h : b ∈ written bytes) :
    value? b ≠ none := by
  obtain ⟨c, hc, rfl⟩ := List.mem_map.mp h
  obtain ⟨v, hv, rfl⟩ := exists_symbol_of_mem_encode hc
  simp [(symbol_spec hv).2]

/-- A text is read as bytes exactly if it is written from them. -/
lemma decode_eq_ok_iff {text bytes : List UInt8} :
    decode text = .ok bytes ↔ text = written bytes := by
  unfold decode
  cases text with
  | nil => rw [eq_comm (a := []), written_eq_nil_iff]; simp [eq_comm]
  | cons b rest =>
    have hne : b :: rest ≠ [] := List.cons_ne_nil b rest
    rw [List.getLast?_eq_some_getLast hne]
    dsimp only
    split
    next hlast =>
      refine iff_of_false (by simp) fun h => ?_
      have hmem : (b :: rest).getLast hne ∈ written bytes := by
        rw [← h]
        exact List.getLast_mem hne
      exact value?_ne_none_of_mem_written hmem (Option.isNone_iff_eq_none.mp hlast.2.1)
    next => exact decodeFrom_eq_ok_iff hne

/-- The bytes of an ASCII text are its characters. -/
lemma utf8_ofList {cs : List Char} (h : ∀ c ∈ cs, c.toNat < 128) :
    Text.utf8 (String.ofList cs) = cs.map byteOf := by
  have hone : ∀ c ∈ cs, String.utf8EncodeChar c = [byteOf c] := fun c hc =>
    String.utf8EncodeChar_eq_singleton (Char.utf8Size_eq_one_iff.mpr
      (UInt32.le_iff_toNat_le.mpr (Nat.le_of_lt_succ (h c hc))))
  have hbytes : Text.utf8 (String.ofList cs) = cs.flatMap String.utf8EncodeChar := by
    simp [Text.utf8, List.utf8Encode]
  rw [hbytes, List.map_eq_flatMap, List.flatMap_def, List.flatMap_def, List.map_congr_left hone]

/-- A text is read as bytes exactly if it is the text that is written from them. -/
lemma decode_utf8_eq_ok_iff {text : String} {bytes : List UInt8} :
    decode (Text.utf8 text) = .ok bytes ↔ text = String.ofList (encode bytes) := by
  have hascii : ∀ c ∈ encode bytes, c.toNat < 128 := by
    intro c hc
    obtain ⟨v, hv, rfl⟩ := exists_symbol_of_mem_encode hc
    exact (symbol_spec hv).1
  rw [decode_eq_ok_iff, written, ← utf8_ofList hascii, Text.utf8_inj]

end Colloquy.Base64Url
