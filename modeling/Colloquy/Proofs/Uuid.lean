import Mathlib.Tactic.Ring
import Colloquy.Uuid

/-!
# Written identifiers

An identifier is read back from its written form (`ofChars?_chars`), and the written forms are
ordered like the identifiers (`compare_text`). Both follow the hexadecimal digits, and the hyphens
stand at the same places in every form. The bytes are digits too, in base 256, so that they are
ordered like the identifiers for the same reason (`compare_bytes`).
-/

namespace Colloquy.Uuid

/-! ### Hexadecimal digits -/

/-- A number is written with as many hexadecimal digits as are asked for. -/
@[simp] lemma length_hexDigits (width n : Nat) : (hexDigits width n).length = width := by
  induction width generalizing n with
  | zero => rfl
  | succ width ih => simp [hexDigits, ih]

/-- A hexadecimal digit is read as its value. -/
lemma hexDigit?_digitChar {d : Nat} (hd : d < 16) : hexDigit? (Nat.digitChar d) = some d := by
  have h : ∀ d < 16, hexDigit? (Nat.digitChar d) = some d := by decide
  exact h d hd

/-- Digits in two parts are read one after the other. -/
lemma continueHex?_append (acc : Nat) (cs ds : List Char) :
    continueHex? acc (cs ++ ds) = (continueHex? acc cs).bind fun n => continueHex? n ds := by
  induction cs generalizing acc with
  | nil => rfl
  | cons c rest ih =>
    rw [List.cons_append, continueHex?, continueHex?, Option.bind_assoc]
    exact congrArg _ (funext fun d => ih _)

/-- Digits are read as the low part of the number that they are written from. -/
lemma continueHex?_hexDigits (acc width n : Nat) :
    continueHex? acc (hexDigits width n) = some (acc * 16 ^ width + n % 16 ^ width) := by
  induction width generalizing n with
  | zero => simp [hexDigits, continueHex?, Nat.mod_one]
  | succ width ih =>
    have hd : n % 16 < 16 := Nat.mod_lt n (by decide)
    rw [hexDigits, continueHex?_append, ih]
    simp only [continueHex?, hexDigit?_digitChar hd, Option.bind_some, Option.some.injEq]
    rw [show 16 ^ (width + 1) = 16 * 16 ^ width by ring, Nat.mod_mul]
    ring

/-! ### Hyphens -/

/-- Between groups of the right lengths the hyphens are found, and the digits are what is left. -/
lemma ofHyphenated?_groups {a b c d e : List Char} (ha : a.length = 8) (hb : b.length = 4)
    (hc : c.length = 4) (hd : d.length = 4) (he : e.length = 12) :
    ofHyphenated? (a ++ '-' :: b ++ '-' :: c ++ '-' :: d ++ '-' :: e) =
      ofDigits? (a ++ b ++ c ++ d ++ e) := by
  unfold ofHyphenated?
  rw [if_pos]
  · congr 1
    simp (disch := omega) [List.drop_append, List.drop_of_length_le, ha, hb, hc, hd]
  · simp [ha, hb, hc, hd, he]

/-- What stands between the hyphens of a written form. -/
lemma ofHyphenated?_hyphenate {ds : List Char} (h : ds.length = 32) :
    ofHyphenated? (hyphenate ds) = ofDigits? ds := by
  unfold hyphenate
  rw [ofHyphenated?_groups (by simp [h]) (by simp [h]) (by simp [h]) (by simp [h]) (by simp [h])]
  congr 1
  rw [← List.take_add, ← List.take_add, ← List.take_add, List.take_append_drop]

/-- An id is written with 36 signs. -/
lemma length_hyphenate {ds : List Char} (h : ds.length = 32) : (hyphenate ds).length = 36 := by
  simp [hyphenate, h]

/-- An identifier is read back from its written form. -/
theorem ofChars?_chars (id : Uuid) : ofChars? id.chars = some id := by
  have hlen : (hexDigits 32 id.toNat).length = 32 := length_hexDigits 32 id.toNat
  have hnone : ofDigits? id.chars = none := by
    rw [ofDigits?, chars, if_neg (by rw [length_hyphenate hlen]; decide)]
  have hread : ofHyphenated? id.chars = some id := by
    have hlt : id.toNat < 16 ^ 32 := id.isLt
    rw [chars, ofHyphenated?_hyphenate hlen, ofDigits?, if_pos hlen, continueHex?_hexDigits,
      Nat.mod_eq_of_lt hlt]
    have hnat : ofNat id.toNat = id := by
      obtain ⟨n, hn⟩ := id
      simp only [ofNat, Nat.mod_eq_of_lt hn]
    simp [hnat]
  rw [ofChars?, hnone, hread]
  rfl

/-- What is written in hexadecimal digits are digits. -/
lemma mem_hexDigits {width n : Nat} {c : Char} (h : c ∈ hexDigits width n) :
    ∃ d < 16, c = Nat.digitChar d := by
  induction width generalizing n with
  | zero => simp [hexDigits] at h
  | succ width ih =>
    rcases List.mem_append.mp h with h | h
    · exact ih h
    · exact ⟨n % 16, Nat.mod_lt n (by decide), List.mem_singleton.mp h⟩

/-- A written form holds lower-case hexadecimal digits and hyphens. -/
lemma mem_chars {id : Uuid} {c : Char} (h : c ∈ id.chars) :
    c = '-' ∨ ∃ d < 16, c = Nat.digitChar d := by
  simp only [chars, hyphenate, List.mem_append, List.mem_cons] at h
  rcases h with (((h | rfl | h) | rfl | h) | rfl | h) | rfl | h
  case inr.inl | inl.inr.inl | inl.inl.inr.inl | inl.inl.inl.inr.inl => exact .inl rfl
  · exact .inr (mem_hexDigits (List.mem_of_mem_take h))
  · exact .inr (mem_hexDigits (List.mem_of_mem_drop (List.mem_of_mem_take h)))
  · exact .inr (mem_hexDigits (List.mem_of_mem_drop (List.mem_of_mem_take h)))
  · exact .inr (mem_hexDigits (List.mem_of_mem_drop (List.mem_of_mem_take h)))
  · exact .inr (mem_hexDigits (List.mem_of_mem_drop h))

/-- An id is written as plain text. -/
lemma toNat_lt_of_mem_chars {id : Uuid} {c : Char} (h : c ∈ id.chars) : c.toNat < 128 := by
  have hdigit : ∀ d < 16, (Nat.digitChar d).toNat < 128 := by decide
  rcases mem_chars h with rfl | ⟨d, hd, rfl⟩
  · decide
  · exact hdigit d hd

/-! ### Order -/

/-- Texts are compared character by character. -/
lemma compare_ofList (cs ds : List Char) :
    compare (String.ofList cs) (String.ofList ds) = compare cs ds := by
  have hunfold : ∀ as bs : List Char, compare (String.ofList as) (String.ofList bs) =
      if as < bs then .lt else if as = bs then .eq else .gt := fun as bs => by
    change compareOfLessAndEq (String.ofList as) (String.ofList bs) = _
    simp only [compareOfLessAndEq, String.lt_iff, String.toList_ofList, String.ofList_inj]
  induction cs generalizing ds with
  | nil => cases ds <;> rw [hunfold] <;> simp
  | cons c cs ih =>
    cases ds with
    | nil => rw [hunfold]; simp
    | cons d ds =>
      rw [List.compare_eq_compareLex, List.compareLex_cons_cons, ← List.compare_eq_compareLex, ← ih,
        hunfold, hunfold]
      change _ = (compareOfLessAndEq c d).then _
      by_cases hlt : c < d
      · simp [compareOfLessAndEq, List.cons_lt_cons_iff, hlt]
      · by_cases heq : c = d
        · subst heq
          simp [compareOfLessAndEq]
        · simp [compareOfLessAndEq, List.cons_lt_cons_iff, hlt, heq]

/-- Between lists whose first parts are equally long, the second parts decide only if the first
parts are equal. -/
lemma compare_append {α : Type} [Ord α] {cs cs' ds ds' : List α} (h : cs.length = ds.length) :
    compare (cs ++ cs') (ds ++ ds') = (compare cs ds).then (compare cs' ds') := by
  induction cs generalizing ds with
  | nil =>
    obtain rfl := List.length_eq_zero_iff.mp h.symm
    simp
  | cons c cs ih =>
    cases ds with
    | nil => simp at h
    | cons d ds =>
      have := ih (Nat.succ.inj h)
      simp only [List.compare_eq_compareLex, List.cons_append, List.compareLex_cons_cons] at this ⊢
      rw [this, Ordering.then_assoc]

/-- The leading digits decide first, and the last digit between equal ones. -/
lemma compare_div_mod (base m n : Nat) :
    (compare (m / base) (n / base)).then (compare (m % base) (n % base)) = compare m n := by
  have hm : base * (m / base) + m % base = m := Nat.div_add_mod m base
  have hn : base * (n / base) + n % base = n := Nat.div_add_mod n base
  rcases Nat.lt_trichotomy (m / base) (n / base) with h | h | h
  · have hmn : m < n := Nat.lt_of_div_lt_div h
    rw [Nat.compare_eq_lt.mpr h, Nat.compare_eq_lt.mpr hmn, Ordering.lt_then]
  · rw [Nat.compare_eq_eq.mpr h, Ordering.eq_then]
    rw [h] at hm
    rcases Nat.lt_trichotomy (m % base) (n % base) with h' | h' | h'
    · rw [Nat.compare_eq_lt.mpr h', Nat.compare_eq_lt.mpr (by omega)]
    · rw [Nat.compare_eq_eq.mpr h', Nat.compare_eq_eq.mpr (by omega)]
    · rw [Nat.compare_eq_gt.mpr h', Nat.compare_eq_gt.mpr (by omega)]
  · have hmn : n < m := Nat.lt_of_div_lt_div h
    rw [Nat.compare_eq_gt.mpr h, Nat.compare_eq_gt.mpr hmn, Ordering.gt_then]

section Numeral

variable {α : Type} {base : Nat} {digit : Nat → α}

/-- A numeral has as many digits as are asked for. -/
@[simp] lemma length_numeral (width n : Nat) : (numeral base digit width n).length = width := by
  induction width generalizing n with
  | zero => rfl
  | succ width ih => simp [numeral, ih]

/-- Digits of equal width that are ordered like their values are ordered like what they are written
from. -/
lemma compare_numeral [Ord α] (hbase : 0 < base)
    (hdigit : ∀ m < base, ∀ n < base, compare (digit m) (digit n) = compare m n)
    {width m n : Nat} (hm : m < base ^ width) (hn : n < base ^ width) :
    compare (numeral base digit width m) (numeral base digit width n) = compare m n := by
  induction width generalizing m n with
  | zero =>
    obtain rfl : m = 0 := by simpa using hm
    obtain rfl : n = 0 := by simpa using hn
    rfl
  | succ width ih =>
    have hm' : m / base < base ^ width := Nat.div_lt_of_lt_mul (by rwa [Nat.pow_succ'] at hm)
    have hn' : n / base < base ^ width := Nat.div_lt_of_lt_mul (by rwa [Nat.pow_succ'] at hn)
    rw [numeral, numeral, compare_append (by simp), ih hm' hn', List.compare_eq_compareLex,
      List.compareLex_cons_cons, List.compareLex_nil_nil, Ordering.then_eq,
      hdigit _ (Nat.mod_lt m hbase) _ (Nat.mod_lt n hbase), compare_div_mod]

end Numeral

/-- Hexadecimal digits are a numeral to the base 16. -/
lemma hexDigits_eq_numeral (width n : Nat) :
    hexDigits width n = numeral 16 Nat.digitChar width n := by
  induction width generalizing n with
  | zero => rfl
  | succ width ih => rw [hexDigits, numeral, ih]

/-- Digits of equal width are ordered like what they are written from. -/
lemma compare_hexDigits {width m n : Nat} (hm : m < 16 ^ width) (hn : n < 16 ^ width) :
    compare (hexDigits width m) (hexDigits width n) = compare m n := by
  have hdigit : ∀ m < 16, ∀ n < 16,
      compare (Nat.digitChar m) (Nat.digitChar n) = compare m n := by decide
  rw [hexDigits_eq_numeral, hexDigits_eq_numeral, compare_numeral (by decide) hdigit hm hn]

/-- Hyphens at the same places do not change the order. -/
lemma compare_hyphenate {cs ds : List Char} (hcs : cs.length = 32) (hds : ds.length = 32) :
    compare (hyphenate cs) (hyphenate ds) = compare cs ds := by
  have hsplit : ∀ (k : Nat) (as bs : List Char), as.length = bs.length →
      compare as bs = (compare (as.take k) (bs.take k)).then (compare (as.drop k) (bs.drop k)) := by
    intro k as bs h
    rw [← compare_append (by simp [h]), List.take_append_drop, List.take_append_drop]
  have hcons : ∀ as bs : List Char, compare ('-' :: as) ('-' :: bs) = compare as bs := by
    intro as bs
    rw [List.compare_eq_compareLex, List.compareLex_cons_cons,
      Std.ReflOrd.compare_self (a := '-'), Ordering.eq_then]
  rw [hyphenate, hyphenate, compare_append (by simp [hcs, hds]),
    compare_append (by simp [hcs, hds]), compare_append (by simp [hcs, hds]),
    compare_append (by simp [hcs, hds]), hcons, hcons, hcons,
    hcons, hsplit 20 cs ds (by simp [hcs, hds]), hsplit 16 (cs.take 20) (ds.take 20)
      (by simp [hcs, hds]), hsplit 12 ((cs.take 20).take 16) ((ds.take 20).take 16)
      (by simp [hcs, hds]), hsplit 8 (((cs.take 20).take 16).take 12)
      (((ds.take 20).take 16).take 12) (by simp [hcs, hds])]
  simp [List.take_take, List.drop_take]

/-- The texts of identifiers are ordered like the identifiers. -/
theorem compare_text (a b : Uuid) : compare a.text b.text = compare a b := by
  have ha : a.toNat < 16 ^ 32 := a.isLt
  have hb : b.toNat < 16 ^ 32 := b.isLt
  rw [text, text, compare_ofList, chars, chars,
    compare_hyphenate (length_hexDigits 32 _) (length_hexDigits 32 _), compare_hexDigits ha hb]
  rfl

/-! ### Bytes -/

/-- The bytes of a numeral are folded back into the number. -/
lemma foldl_numeral (acc width n : Nat) :
    (numeral 256 UInt8.ofNat width n).foldl (fun m b => m * 256 + b.toNat) acc =
      acc * 256 ^ width + n % 256 ^ width := by
  induction width generalizing n with
  | zero => simp [numeral, Nat.mod_one]
  | succ width ih =>
    have hbyte : (UInt8.ofNat (n % 256)).toNat = n % 256 := by
      rw [UInt8.toNat_ofNat', Nat.mod_mod]
    rw [numeral, List.foldl_append, ih, List.foldl_cons, List.foldl_nil, hbyte,
      show 256 ^ (width + 1) = 256 * 256 ^ width by ring, Nat.mod_mul]
    ring

/-- An identifier is made of its bytes. -/
theorem ofBytes_bytes (id : Uuid) : ofBytes id.bytes = id := by
  have hlt : id.toNat < 256 ^ 16 := id.isLt
  obtain ⟨n, hn⟩ := id
  rw [ofBytes, bytes, foldl_numeral, Nat.mod_eq_of_lt hlt, Nat.zero_mul, Nat.zero_add, ofNat]
  simp only [Nat.mod_eq_of_lt hn]

/-- Identifiers are ordered like their bytes. -/
theorem compare_bytes (a b : Uuid) : compare a.bytes b.bytes = compare a b := by
  have ha : a.toNat < 256 ^ 16 := a.isLt
  have hb : b.toNat < 256 ^ 16 := b.isLt
  have hdigit : ∀ m < 256, ∀ n < 256, compare (UInt8.ofNat m) (UInt8.ofNat n) = compare m n := by
    intro m hm n hn
    change compareOfLessAndEq (UInt8.ofNat m) (UInt8.ofNat n) = compareOfLessAndEq m n
    simp only [compareOfLessAndEq, UInt8.lt_iff_toNat_lt, ← UInt8.toNat_inj, UInt8.toNat_ofNat']
    rw [Nat.mod_eq_of_lt hm, Nat.mod_eq_of_lt hn]
  rw [bytes, bytes, compare_numeral (by decide) hdigit ha hb]
  rfl

end Colloquy.Uuid
