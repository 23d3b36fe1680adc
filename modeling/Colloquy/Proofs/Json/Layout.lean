import Colloquy.Proofs.Json.Reader

/-!
# Reading what was laid out on lines

White space between tokens is passed over. So a document that is written over several lines is cut
into the same tokens as on one line (`Document.tokens_prettyChars`), and it is read back from both
texts.
-/

namespace Colloquy.Json

/-- A blank is passed over. -/
lemma tokens_space {c : Char} (hspace : isSpace c = true) (cs : List Char) :
    tokens (c :: cs) = tokens cs := by
  rw [tokens, if_pos hspace]

/-- The break between two lines is passed over. -/
lemma tokens_newLine (level : Nat) (cs : List Char) :
    tokens (Document.newLine level ++ cs) = tokens cs := by
  have hblanks : ∀ n, tokens (List.replicate n ' ' ++ cs) = tokens cs := by
    intro n
    induction n with
    | zero => rfl
    | succ n ih => rw [List.replicate_succ, List.cons_append, tokens_space (by decide), ih]
  rw [Document.newLine, List.cons_append, tokens_space (by decide), hblanks]

/-- The end of a line ends a number. -/
lemma endsNumber_newLine (level : Nat) (cs : List Char) :
    EndsNumber (Document.newLine level ++ cs) := by
  intro c hc
  obtain rfl : '\n' = c := by simpa [Document.newLine] using hc
  decide

/-- A mark at the end of a line is cut off. -/
lemma tokens_mark_newLine (c : Char) (t : Token) (hspace : isSpace c = false)
    (ht : ∀ cs, scanToken c cs = some (t, cs)) (level : Nat) (cs : List Char) :
    tokens (c :: (Document.newLine level ++ cs)) = (tokens cs).map (t :: ·) := by
  rw [tokens_mark c t hspace ht, tokens_newLine]

/-- A colon is cut off with the blank behind it. -/
lemma tokens_colon_blank (cs : List Char) :
    tokens (':' :: ' ' :: cs) = (tokens cs).map (.colon :: ·) := by
  have hblank : tokens (' ' :: cs) = tokens cs := tokens_space (by decide) cs
  rw [tokens_mark ':' .colon rfl (fun _ => rfl), hblank]

mutual

/-- A document that is laid out on lines is cut into its tokens, and then the text behind it is
cut. -/
lemma Document.tokens_prettyChars : ∀ (d : Document) (level : Nat), d.WellFormed →
    ∀ rest, EndsNumber rest →
      Json.tokens (d.prettyChars level ++ rest) = (Json.tokens rest).map (d.tokens ++ ·)
  | .null, _, _, rest, _ => tokens_literal rfl (fun rest => rfl) rest
  | .bool true, _, _, rest, _ => tokens_literal rfl (fun rest => rfl) rest
  | .bool false, _, _, rest, _ => tokens_literal rfl (fun rest => rfl) rest
  | .number n, _, hn, rest, hrest => Document.tokens_chars (.number n) hn rest hrest
  | .string s, _, _, rest, _ => tokens_stringChars s rest
  | .array [], _, _, rest, hrest => Document.tokens_chars (.array []) trivial rest hrest
  | .object [], _, _, rest, hrest => Document.tokens_chars (.object []) trivial rest hrest
  | .array (v :: items), level, hitems, rest, _ => by
    have hchars : (Document.array (v :: items)).prettyChars level ++ rest =
        '[' :: (newLine (level + 1) ++ (prettyItems (level + 1) (v :: items) ++
          (newLine level ++ ']' :: rest))) := by
      simp [Document.prettyChars]
    have hend := endsNumber_newLine level (']' :: rest)
    rw [hchars, tokens_mark_newLine '[' .openArray rfl (fun _ => rfl),
      Document.tokens_prettyItems (v :: items) (level + 1) hitems _ hend, tokens_newLine,
      tokens_mark ']' .closeArray rfl (fun _ => rfl)]
    simp [Document.tokens, Function.comp_def]
  | .object (f :: fields), level, hfields, rest, _ => by
    have hchars : (Document.object (f :: fields)).prettyChars level ++ rest =
        '\x7b' :: (newLine (level + 1) ++ (prettyFields (level + 1) (f :: fields) ++
          (newLine level ++ '\x7d' :: rest))) := by
      simp [Document.prettyChars]
    have hend := endsNumber_newLine level ('\x7d' :: rest)
    rw [hchars, tokens_mark_newLine '\x7b' .openObject rfl (fun _ => rfl),
      Document.tokens_prettyFields (f :: fields) (level + 1) hfields _ hend, tokens_newLine,
      tokens_mark '\x7d' .closeObject rfl (fun _ => rfl)]
    simp [Document.tokens, Function.comp_def]

/-- The same of the items of an array. -/
lemma Document.tokens_prettyItems : ∀ (items : List Document) (level : Nat),
    ItemsWellFormed items → ∀ rest, EndsNumber rest →
      Json.tokens (prettyItems level items ++ rest) =
        (Json.tokens rest).map (itemsTokens items ++ ·)
  | [], _, _, rest, _ => by simp [prettyItems, itemsTokens]
  | [v], level, hv, rest, hrest => by
    rw [prettyItems, Document.tokens_prettyChars v level hv.1 rest hrest, itemsTokens]
  | v :: w :: more, level, hitems, rest, hrest => by
    have hchars : prettyItems level (v :: w :: more) ++ rest = v.prettyChars level ++
        ',' :: (newLine level ++ (prettyItems level (w :: more) ++ rest)) := by
      simp [prettyItems]
    have hend := endsNumber_cons (c := ',') (.inl rfl)
      (newLine level ++ (prettyItems level (w :: more) ++ rest))
    rw [hchars, Document.tokens_prettyChars v level hitems.1 _ hend,
      tokens_mark_newLine ',' .comma rfl (fun _ => rfl),
      Document.tokens_prettyItems (w :: more) level hitems.2 rest hrest]
    simp [itemsTokens, Function.comp_def]

/-- The same of the fields of an object. -/
lemma Document.tokens_prettyFields : ∀ (fields : List (Option String × Document)) (level : Nat),
    FieldsWellFormed fields → ∀ rest, EndsNumber rest →
      Json.tokens (prettyFields level fields ++ rest) =
        (Json.tokens rest).map (fieldsTokens fields ++ ·)
  | [], _, _, rest, _ => by simp [prettyFields, fieldsTokens]
  | [(k, v)], level, hv, rest, hrest => by
    have hchars : prettyFields level [(k, v)] ++ rest =
        stringChars k ++ ':' :: ' ' :: (v.prettyChars level ++ rest) := by
      simp [prettyFields]
    rw [hchars, tokens_stringChars, tokens_colon_blank,
      Document.tokens_prettyChars v level hv.1 rest hrest]
    simp [fieldsTokens, Function.comp_def]
  | (k, v) :: f :: more, level, hfields, rest, hrest => by
    have hchars : prettyFields level ((k, v) :: f :: more) ++ rest =
        stringChars k ++ ':' :: ' ' :: (v.prettyChars level ++
          ',' :: (newLine level ++ (prettyFields level (f :: more) ++ rest))) := by
      simp [prettyFields]
    have hend := endsNumber_cons (c := ',') (.inl rfl)
      (newLine level ++ (prettyFields level (f :: more) ++ rest))
    rw [hchars, tokens_stringChars, tokens_colon_blank,
      Document.tokens_prettyChars v level hfields.1 _ hend,
      tokens_mark_newLine ',' .comma rfl (fun _ => rfl),
      Document.tokens_prettyFields (f :: more) level hfields.2 rest hrest]
    simp [fieldsTokens, Function.comp_def]

end

/-- The text of a document over several lines is read as the document, with blanks behind it or
without. -/
lemma Document.ofString?_pretty_append {d : Document} (hd : d.WellFormed) {blanks : List Char}
    (hend : EndsNumber blanks) (hblanks : Json.tokens blanks = some []) :
    ofString? (d.pretty ++ .ofList blanks) = some d := by
  have htokens := d.tokens_prettyChars 0 hd blanks hend
  have hvalue := value_tokens d [] []
  rw [List.append_nil] at hvalue
  rw [ofString?, pretty, String.toList_append, String.toList_ofList, String.toList_ofList, parse,
    htokens, hblanks]
  simp only [Option.map_some, List.append_nil, Option.bind_some, hvalue]
  rfl

/-- The text of a document over several lines is read as the document. -/
theorem Document.ofString?_pretty {d : Document} (hd : d.WellFormed) :
    ofString? d.pretty = some d := by
  have hblank : Json.tokens [] = some [] := by rw [Json.tokens]
  simpa using ofString?_pretty_append hd (fun c hc => by simp at hc) hblank

/-- A document that stands on lines of its own is read as the document. -/
lemma Document.ofString?_pretty_line {d : Document} (hd : d.WellFormed) :
    ofString? (d.pretty ++ "\n") = some d := by
  have hblank : Json.tokens ['\n'] = some [] := by
    rw [tokens_space (by decide), Json.tokens]
  exact ofString?_pretty_append hd (endsNumber_newLine 0 []) hblank

end Colloquy.Json
