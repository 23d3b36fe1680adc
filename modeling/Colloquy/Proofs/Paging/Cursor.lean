import Mathlib.Data.Set.Subsingleton
import Colloquy.Paging.Cursor
import Colloquy.Proofs.Instant
import Colloquy.Proofs.Text.Base64Url
import Colloquy.Proofs.Text.Decimal
import Colloquy.Proofs.Uuid

/-!
# Cursors name positions one to one

A text is read as a position exactly if it is the cursor of that position, and the empty text alone
names none (`decode_eq_ok_some_iff`, `decode_eq_ok_none_iff`). The readers of the two fields take
more than the writers give, so what makes this true is that both fields are written again and
compared.
-/

namespace Colloquy.Cursor

/-! ### Fields -/

/-- A text has at least one field. -/
lemma fields_ne_nil (text : List Char) : fields text ≠ [] := by
  cases text with
  | nil => simp [fields]
  | cons c rest =>
    unfold fields
    split
    · simp
    · split <;> simp

/-- With delimiters between them, the fields of a text make the text. -/
lemma intercalate_fields (text : List Char) : [delimiter].intercalate (fields text) = text := by
  induction text with
  | nil => rfl
  | cons c rest ih =>
    rw [fields]
    by_cases hc : c = delimiter
    · obtain ⟨field, more, hf⟩ := List.exists_cons_of_ne_nil (fields_ne_nil rest)
      rw [hf] at ih
      rw [if_pos hc, hc, hf]
      simp [← ih]
    · obtain ⟨field, more, hf⟩ := List.exists_cons_of_ne_nil (fields_ne_nil rest)
      rw [hf] at ih
      rw [if_neg hc, hf]
      cases more <;> simp [← ih]

/-- A text with two fields has them on both sides of a delimiter. -/
lemma eq_append_of_fields {text a b : List Char} (h : fields text = [a, b]) :
    text = a ++ delimiter :: b := by
  rw [← intercalate_fields text, h]
  simp

/-- A text without delimiter is one field. -/
lemma fields_of_not_mem {text : List Char} (h : delimiter ∉ text) : fields text = [text] := by
  induction text with
  | nil => rfl
  | cons c rest ih =>
    obtain ⟨hc, hrest⟩ : delimiter ≠ c ∧ delimiter ∉ rest := by simpa using h
    rw [fields, if_neg hc.symm, ih hrest]

/-- Two texts without delimiter are the fields of what they make with a delimiter between them. -/
lemma fields_append {a b : List Char} (ha : delimiter ∉ a) (hb : delimiter ∉ b) :
    fields (a ++ delimiter :: b) = [a, b] := by
  induction a with
  | nil => rw [List.nil_append, fields, if_pos rfl, fields_of_not_mem hb]
  | cons c rest ih =>
    obtain ⟨hc, hrest⟩ : delimiter ≠ c ∧ delimiter ∉ rest := by simpa using ha
    rw [List.cons_append, fields, if_neg hc.symm, ih hrest]

/-- A count has no delimiter. -/
lemma delimiter_not_mem_ofInt (n : Int) : delimiter ∉ Decimal.ofInt n := by
  intro h
  rcases Decimal.mem_ofInt h with h | h
  · exact absurd h (by decide)
  · exact absurd h (by decide)

/-- An id has no delimiter. -/
lemma delimiter_not_mem_chars (id : Uuid) : delimiter ∉ id.chars := by
  intro h
  rcases Uuid.mem_chars h with h | ⟨d, hd, h⟩
  · exact absurd h (by decide)
  · have hall : ∀ d < 16, delimiter ≠ Nat.digitChar d := by decide
    exact hall d hd h

/-- The two fields are read as a position exactly if they are written from it. -/
lemma ofFields_eq_ok_iff {nanosText idText : List Char} {key : SortKey} :
    ofFields nanosText idText = .ok key ↔
      ∃ n, key.createdAt = .ofNanos n ∧ nanosText = Decimal.ofInt n.1 ∧ idText = key.id.chars := by
  unfold ofFields
  constructor
  · intro h
    cases hn : Decimal.readInt64 nanosText with
    | error fault => simp [hn] at h
    | ok n =>
    cases hid : Uuid.ofChars? idText with
    | none => simp [hn, hid] at h
    | some id =>
    rw [hn, hid] at h
    dsimp only at h
    split at h
    next => simp at h
    next hnanos =>
      split at h
      next => simp at h
      next hchars =>
        rw [Except.ok.injEq] at h
        subst h
        rw [not_not] at hnanos hchars
        exact ⟨n, rfl, hnanos.symm, hchars.symm⟩
  · rintro ⟨n, hkey, hnanos, hid⟩
    rw [hnanos, hid, Decimal.readInt64_ofInt, Uuid.ofChars?_chars]
    simp [← hkey]

/-! ### Whole cursors -/

/-- The cursor of an instant that has a count of its own. -/
lemma encode_ofNanos (n : Decimal.Int64) (id : Uuid) :
    encode (.ofNanos n) id =
      .ok (String.ofList (Base64Url.encode (Text.utf8 (String.ofList (payload n.1 id))))) := by
  rw [encode, Instant.nanos?_ofNanos]

/-- A text is read as a position exactly if it is written from it. -/
lemma read_eq_ok_iff {text : String} {key : SortKey} :
    read text = .ok key ↔
      (∃ n, key.createdAt = .ofNanos n) ∧ encode key.createdAt key.id = .ok text := by
  unfold read
  constructor
  · intro h
    cases hb : Base64Url.decode (Text.utf8 text) with
    | error fault => simp [hb] at h
    | ok bytes =>
    rw [hb] at h
    dsimp only at h
    cases hp : Text.ofUtf8? bytes with
    | none => simp [hp] at h
    | some written =>
    rw [hp] at h
    dsimp only at h
    split at h
    next nanosText idText hf =>
      obtain ⟨n, hn, hnanos, hid⟩ := ofFields_eq_ok_iff.mp h
      have hwritten : written.toList = payload n.1 key.id := by
        rw [eq_append_of_fields hf, hnanos, hid, payload]
      refine ⟨⟨n, hn⟩, ?_⟩
      rw [hn, encode_ofNanos, ← hwritten, String.ofList_toList, Text.utf8_of_ofUtf8? hp,
        ← Base64Url.decode_utf8_eq_ok_iff.mp hb]
    next => simp at h
  · rintro ⟨⟨n, hn⟩, h⟩
    rw [hn, encode_ofNanos, Except.ok.injEq] at h
    rw [Base64Url.decode_utf8_eq_ok_iff.mpr h.symm]
    dsimp only
    rw [Text.ofUtf8?_utf8]
    dsimp only
    rw [String.toList_ofList, payload,
      fields_append (delimiter_not_mem_ofInt n.1) (delimiter_not_mem_chars key.id)]
    exact ofFields_eq_ok_iff.mpr ⟨n, hn, rfl, rfl⟩

/-- No cursor is empty. -/
lemma ne_empty_of_encode {createdAt : Instant} {id : Uuid} {text : String}
    (h : encode createdAt id = .ok text) : text ≠ "" := by
  rintro rfl
  unfold encode at h
  split at h
  next nanos _ =>
    have hread := Base64Url.decode_utf8_eq_ok_iff.mpr (Except.ok.inj h).symm
    rw [show Text.utf8 "" = [] from rfl, Base64Url.decode, Except.ok.injEq,
      show [] = Text.utf8 "" from rfl, Text.utf8_inj] at hread
    have hnil := congrArg String.toList hread
    simp [payload] at hnil
  next => simp at h

/-- A text names a position exactly if it is the cursor of that position. -/
theorem decode_eq_ok_some_iff {text : String} {key : SortKey} :
    decode text = .ok (some key) ↔
      (∃ n, key.createdAt = .ofNanos n) ∧ encode key.createdAt key.id = .ok text := by
  rw [← read_eq_ok_iff, decode]
  split
  next h =>
    refine iff_of_false (by simp) fun hread => ?_
    exact ne_empty_of_encode (read_eq_ok_iff.mp hread).2 h
  next => cases read text <;> simp

/-- Only the empty text names no position. -/
theorem decode_eq_ok_none_iff {text : String} : decode text = .ok none ↔ text = "" := by
  unfold decode
  split
  next h => simp [h]
  next h => cases read text <;> simp [h]

/-- Reading a cursor takes exactly what writing one gives. A text is the cursor of the position that
it is read as, only the empty text stands for no position, and every other text is refused as a
cursor, which is the caller's fault; so a position has no second cursor. -/
theorem decode_exact (text : String) :
    (∀ key : SortKey, decode text = .ok (some key) ↔
      (∃ n, key.createdAt = .ofNanos n) ∧ encode key.createdAt key.id = .ok text) ∧
    (decode text = .ok none ↔ text = "") ∧
    ((∃ fault, decode text = .error (.invalidCursor fault) ∧
        (PagingError.invalidCursor fault).isClientError = true) ↔
      text ≠ "" ∧ ¬∃ key : SortKey,
        (∃ n, key.createdAt = .ofNanos n) ∧ encode key.createdAt key.id = .ok text) ∧
    ∀ key : SortKey, {other | decode other = .ok (some key)}.Subsingleton := by
  refine ⟨fun key => decode_eq_ok_some_iff, decode_eq_ok_none_iff, ?_, ?_⟩
  · simp only [← decode_eq_ok_some_iff, ne_eq, ← decode_eq_ok_none_iff]
    unfold decode
    split
    next => simp
    next => cases read text <;> simp [PagingError.isClientError]
  · intro key s hs t ht
    have hs := (decode_eq_ok_some_iff.mp hs).2
    have ht := (decode_eq_ok_some_iff.mp ht).2
    exact Except.ok.inj (hs.symm.trans ht)

end Colloquy.Cursor
