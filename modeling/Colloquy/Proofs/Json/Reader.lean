import Colloquy.Json.Reader
import Colloquy.Proofs.Json.Token

/-!
# Reading what was written

Reading the tokens of a document gives the document, whatever arrays and objects are open around it
(`Document.value_tokens`). So a document that is written on one line is read back from the text
(`Document.ofString?_compact`).
-/

namespace Colloquy.Json

namespace Document

/-- A comma in an array is followed by its next item. -/
lemma after_comma_array {done : List Document} {stack : List Frame} {v : Document}
    {ts : List Token} (hts : ∀ key rest, ts ≠ .string key :: .colon :: rest) :
    after (.array done :: stack) v (.comma :: ts) = value (.array (v :: done) :: stack) ts := by
  rw [after.eq_def]
  split
  next heq => simp at heq
  next heq => exact absurd (List.cons.inj heq).2 (hts _ _)
  next heq =>
    obtain rfl := (List.cons.inj heq).2
    rfl
  next heq => simp at heq
  next heq => simp at heq
  next hcomma _ _ => exact (hcomma ts rfl).elim

/-- A document does not start like a field of an object. -/
lemma tokens_ne_field : ∀ (d : Document) (ts : List Token), (∀ rest, ts ≠ .colon :: rest) →
    ∀ key rest, d.tokens ++ ts ≠ .string key :: .colon :: rest
  | .string s, ts, hts, key, rest => by
    intro h
    exact hts rest (List.cons.inj h).2
  | .null, _, _, _, _ => by simp [tokens]
  | .bool _, _, _, _, _ => by simp [tokens]
  | .number _, _, _, _, _ => by simp [tokens]
  | .array _, _, _, _, _ => by simp [tokens]
  | .object _, _, _, _, _ => by simp [tokens]

/-- Items start with the first of them, and go on with a comma or the end of the array. -/
lemma exists_itemsTokens (v : Document) (items : List Document) (rest : List Token) :
    ∃ t ts, (t = .comma ∨ t = .closeArray) ∧
      itemsTokens (v :: items) ++ .closeArray :: rest = v.tokens ++ t :: ts := by
  cases items with
  | nil => exact ⟨_, _, .inr rfl, rfl⟩
  | cons w items => exact ⟨_, _, .inl rfl, by rw [itemsTokens, List.append_assoc]; rfl⟩

/-- Fields start with the key of the first of them. -/
lemma exists_fieldsTokens (k : Option String) (v : Document)
    (fields : List (Option String × Document)) (rest : List Token) :
    ∃ ts, fieldsTokens ((k, v) :: fields) ++ rest = .string k :: .colon :: ts := by
  cases fields with
  | nil => exact ⟨_, rfl⟩
  | cons f fields => exact ⟨_, rfl⟩

/-- A document does not start with the end of an array. -/
lemma tokens_ne_close (d : Document) (ts rest : List Token) :
    d.tokens ++ ts ≠ .closeArray :: rest := by
  cases d <;> simp [tokens]

/-- An array that is not closed at once has a first item. -/
lemma value_openArray {stack : List Frame} {ts : List Token}
    (hts : ∀ rest, ts ≠ .closeArray :: rest) :
    value stack (.openArray :: ts) = value (.array [] :: stack) ts := by
  rw [value.eq_def]
  split
  case h_5 heq => exact absurd (List.cons.inj heq).2 (hts _)
  case h_6 heq =>
    obtain rfl := (List.cons.inj heq).2
    rfl
  all_goals simp_all

mutual

/-- The tokens of a document are read as the document, and then the rest is read behind it. -/
lemma value_tokens : ∀ (d : Document) (stack : List Frame) (rest : List Token),
    value stack (d.tokens ++ rest) = after stack d rest
  | .null, _, _ => rfl
  | .bool _, _, _ => rfl
  | .number _, _, _ => rfl
  | .string _, _, _ => rfl
  | .array [], _, _ => rfl
  | .array (v :: items), stack, rest => by
    have hitems := value_itemsTokens (v :: items) [] stack rest (List.cons_ne_nil _ _)
    have hopen : ∀ more, itemsTokens (v :: items) ++ .closeArray :: rest ≠ .closeArray :: more := by
      obtain ⟨t, ts, -, hts⟩ := exists_itemsTokens v items rest
      rw [hts]
      exact tokens_ne_close v _
    rw [tokens, List.append_assoc, List.singleton_append, List.cons_append, value_openArray hopen,
      hitems]
    rfl
  | .object [], _, _ => rfl
  | .object ((k, v) :: fields), stack, rest => by
    obtain ⟨ts, hts⟩ := exists_fieldsTokens k v fields (.closeObject :: rest)
    have hfields := value_fieldsTokens ((k, v) :: fields) [] stack k ts rest hts
    rw [tokens, List.append_assoc, List.singleton_append, List.cons_append, hts]
    exact hfields

/-- The same of the items of an array. -/
lemma value_itemsTokens : ∀ (items done : List Document) (stack : List Frame) (rest : List Token),
    items ≠ [] → value (.array done :: stack) (itemsTokens items ++ .closeArray :: rest) =
      after stack (.array (done.reverse ++ items)) rest
  | [], _, _, _, hne => absurd rfl hne
  | [v], done, stack, rest, _ => by
    rw [itemsTokens, value_tokens v, ← List.reverse_cons]
    rfl
  | v :: w :: items, done, stack, rest, _ => by
    obtain ⟨t, ts, ht, hts⟩ := exists_itemsTokens w items rest
    have hitem : ∀ key more,
        itemsTokens (w :: items) ++ .closeArray :: rest ≠ .string key :: .colon :: more := by
      rw [hts]
      exact tokens_ne_field w _ (fun _ => by rcases ht with rfl | rfl <;> simp)
    rw [itemsTokens, List.append_assoc, value_tokens v, List.cons_append, after_comma_array hitem,
      value_itemsTokens (w :: items) (v :: done) stack rest (List.cons_ne_nil _ _)]
    simp

/-- The same of the fields of an object, after the first key. -/
lemma value_fieldsTokens : ∀ (fields done : List (Option String × Document)) (stack : List Frame)
    (key : Option String) (ts rest : List Token),
    fieldsTokens fields ++ .closeObject :: rest = .string key :: .colon :: ts →
      value (.object done key :: stack) ts = after stack (.object (done.reverse ++ fields)) rest
  | [], _, _, _, _, _, hts => by simp [fieldsTokens] at hts
  | [(k, v)], done, stack, key, ts, rest, hts => by
    obtain ⟨rfl, rfl⟩ : k = key ∧ v.tokens ++ .closeObject :: rest = ts := by
      simpa [fieldsTokens] using hts
    rw [value_tokens v, ← List.reverse_cons]
    rfl
  | (k, v) :: (k', v') :: fields, done, stack, key, ts, rest, hts => by
    obtain ⟨rfl, rfl⟩ : k = key ∧ v.tokens ++ .comma :: (fieldsTokens ((k', v') :: fields) ++
        .closeObject :: rest) = ts := by
      simpa [fieldsTokens] using hts
    obtain ⟨ts, hts⟩ := exists_fieldsTokens k' v' fields (.closeObject :: rest)
    have hfields := value_fieldsTokens ((k', v') :: fields) ((k, v) :: done) stack k' ts rest hts
    rw [value_tokens v, hts]
    refine hfields.trans ?_
    simp

end

/-- A document that is written on one line is read back. -/
theorem parse_chars {d : Document} (hd : d.WellFormed) : parse d.chars = some d := by
  have hvalue := value_tokens d [] []
  rw [List.append_nil] at hvalue
  rw [parse, tokens_chars_self hd, Option.bind_some, hvalue]
  rfl

/-- The text of a document is read as the document. -/
theorem ofString?_compact {d : Document} (hd : d.WellFormed) :
    ofString? d.compact = some d := by
  rw [ofString?, compact, String.toList_ofList, parse_chars hd]

end Document

end Colloquy.Json
