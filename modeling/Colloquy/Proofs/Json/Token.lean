import Mathlib.Tactic.Lemma
import Mathlib.Tactic.SplitIfs
import Colloquy.Json.Printer
import Colloquy.Json.Token

/-!
# Cutting what was written

What is written on one line is cut into the tokens that it was written from: strings come back
through their escapes, and the digits of a number are all taken as long as what follows cannot
belong to it (`Document.tokens_chars`).
-/

namespace Colloquy.Json

/-! ### Strings -/

/-- The sign of a hexadecimal digit has the value of the digit. -/
lemma hexValue?_digitChar {n : Nat} (h : n < 16) : hexValue? (Nat.digitChar n) = some n := by
  revert n
  decide

/-- A control character is read from its number. -/
lemma unitOf?_hexPair {c : Char} (h : c.toNat < 0x20) (a b : Char)
    (hab : hexPair c.toNat = [a, b]) :
    unitOf? '0' '0' a b = some (.char c) := by
  obtain ⟨rfl, rfl⟩ : Nat.digitChar (c.toNat / 16) = a ∧ Nat.digitChar (c.toNat % 16) = b := by
    simpa [hexPair] using hab
  have hhigh := hexValue?_digitChar (n := c.toNat / 16) (by omega)
  have hlow := hexValue?_digitChar (n := c.toNat % 16) (by omega)
  have hzero : hexValue? '0' = some 0 := by decide
  have hvalue : (0 * 16 + 0) * 256 + c.toNat / 16 * 16 + c.toNat % 16 = c.toNat := by omega
  simp only [unitOf?, hhigh, hlow, hzero, Option.bind_eq_bind, Option.bind_some, Option.pure_def,
    hvalue]
  rw [if_neg (by omega), Char.ofNat_toNat]

/-- A character that needs no escape is read as itself. -/
lemma scanString_plain {c : Char} (hquote : c ≠ '"') (hslash : c ≠ '\\')
    (hcontrol : ¬c.toNat < 0x20) (rest : List Char) :
    scanString (c :: rest) = (scanString rest).map fun r => (.char c :: r.1, r.2) := by
  rw [scanString.eq_def]
  split
  next heq => exact absurd (List.cons.inj heq).1 hquote
  next heq => exact absurd (List.cons.inj heq).1 hslash
  next heq => exact absurd (List.cons.inj heq).1 hslash
  next heq =>
    obtain ⟨rfl, rfl⟩ := List.cons.inj heq
    have hplain : (decide (c.toNat < 0x20) || c == '\\') = false := by simp [hcontrol, hslash]
    rw [if_neg (by simp [hplain])]
    cases scanString rest <;> rfl
  next heq => simp at heq

/-- An escape of one letter is read as the character that it stands for. -/
lemma scanString_short {e c : Char} (he : shortEscape? e = some c) (hu : e ≠ 'u')
    (rest : List Char) :
    scanString ('\\' :: e :: rest) = (scanString rest).map fun r => (.char c :: r.1, r.2) := by
  rw [scanString.eq_def]
  split
  next heq => simp at heq
  next heq => exact absurd (List.cons.inj (List.cons.inj heq).2).1 hu
  next heq =>
    obtain ⟨rfl, rfl⟩ : e = _ ∧ rest = _ := by simpa using heq
    rw [he]
    cases scanString rest <;> rfl
  next hother heq =>
    obtain ⟨rfl, rfl⟩ := List.cons.inj heq
    exact absurd rfl (hother _ _ rfl)
  next heq => simp at heq

/-- A character is read back from how it is written. -/
lemma scanString_escapeChar (c : Char) (rest : List Char) :
    scanString (escapeChar c ++ rest) =
      (scanString rest).map fun r => (.char c :: r.1, r.2) := by
  unfold escapeChar
  split_ifs with hquote hslash hback hform hline hreturn htab hcontrol
  · subst hquote
    exact scanString_short rfl (by decide) rest
  · subst hslash
    exact scanString_short rfl (by decide) rest
  · subst hback
    exact scanString_short rfl (by decide) rest
  · subst hform
    exact scanString_short rfl (by decide) rest
  · subst hline
    exact scanString_short rfl (by decide) rest
  · subst hreturn
    exact scanString_short rfl (by decide) rest
  · subst htab
    exact scanString_short rfl (by decide) rest
  · rw [hexPair]
    have hunit := unitOf?_hexPair hcontrol _ _ rfl
    simp only [List.cons_append, List.nil_append, scanString, hunit]
    cases scanString rest <;> rfl
  · exact scanString_plain hquote hslash hcontrol rest

/-- A string is read back from what is written up to its closing quotation mark. -/
lemma scanString_flatMap (cs rest : List Char) :
    scanString (cs.flatMap escapeChar ++ '"' :: rest) = some (cs.map .char, rest) := by
  induction cs with
  | nil => simp [scanString]
  | cons c more ih =>
    rw [List.flatMap_cons, List.append_assoc, scanString_escapeChar, ih]
    rfl

/-- Characters are joined to themselves. -/
lemma joinUnits_char (cs : List Char) : joinUnits (cs.map .char) = some cs := by
  induction cs with
  | nil => rfl
  | cons c rest ih => simp [joinUnits, ih]

/-- A string token is read back from how it is written. -/
lemma scanToken_stringChars (s : Option String) (rest : List Char) :
    ∃ cs, stringChars s = '"' :: cs ∧ scanToken '"' (cs ++ rest) = some (.string s, rest) := by
  cases s with
  | none =>
    refine ⟨"\\ud800".toList ++ ['"'], rfl, ?_⟩
    have hread : scanString ("\\ud800".toList ++ ['"'] ++ rest) = some ([.half 0xd800], rest) := by
      have hunit : unitOf? 'd' '8' '0' '0' = some (.half 0xd800) := by decide
      simp [scanString, hunit]
    rw [scanToken, hread]
    rfl
  | some s =>
    refine ⟨s.toList.flatMap escapeChar ++ ['"'], rfl, ?_⟩
    rw [List.append_assoc, List.singleton_append, scanToken, scanString_flatMap, Option.map_some]
    dsimp only
    rw [joinUnits_char, Option.map_some, String.ofList_toList]

/-! ### Numbers -/

/-- Digits, at least one. -/
def IsDigits (ds : List Char) : Prop := ds ≠ [] ∧ ∀ c ∈ ds, c.isDigit = true

/-- A number as numbers are written: digits in all its places, and none before the point with a zero
in front of others. -/
structure Numeral.WellFormed (n : Numeral) : Prop where
  whole : n.whole = ['0'] ∨ IsDigits n.whole ∧ n.whole.head? ≠ some '0'
  fraction : ∀ ds, n.fraction = some ds → IsDigits ds
  exponent : ∀ e, n.exponent = some e → IsDigits e.digits

/-- A text that does not go on with digits. -/
def NoDigit (rest : List Char) : Prop := ∀ c ∈ rest.head?, c.isDigit = false

/-- A text that a number in front of it ends at. -/
def EndsNumber (rest : List Char) : Prop :=
  ∀ c ∈ rest.head?, c.isDigit = false ∧ c ≠ '.' ∧ c ≠ 'e' ∧ c ≠ 'E'

/-- A text that a number ends at does not go on with digits. -/
lemma EndsNumber.noDigit {rest : List Char} (h : EndsNumber rest) : NoDigit rest :=
  fun c hc => (h c hc).1

/-- Digits are scanned as far as they go. -/
lemma scanDigits_append {ds rest : List Char} (hds : IsDigits ds) (hrest : NoDigit rest) :
    scanDigits (ds ++ rest) = some (ds, rest) := by
  have htake : (ds ++ rest).takeWhile Char.isDigit = ds := by
    rw [List.takeWhile_append_of_pos hds.2]
    cases rest with
    | nil => simp
    | cons c more => simp [hrest c rfl]
  have hdrop : (ds ++ rest).dropWhile Char.isDigit = rest := by
    rw [List.dropWhile_append_of_pos hds.2]
    cases rest with
    | nil => rfl
    | cons c more => simp [hrest c rfl]
  rw [scanDigits, htake, hdrop, if_neg (by simpa using hds.1)]

/-- The whole part of a number is scanned as far as it goes. -/
lemma scanWhole_append {n : Numeral} (hn : n.WellFormed) {rest : List Char} (hrest : NoDigit rest) :
    scanWhole (n.whole ++ rest) = some (n.whole, rest) := by
  rcases hn.whole with hzero | ⟨hdigits, hhead⟩
  · rw [hzero]
    rfl
  · unfold scanWhole
    split
    next more heq =>
      obtain ⟨c, cs, hwhole⟩ := List.exists_cons_of_ne_nil hdigits.1
      rw [hwhole, List.cons_append] at heq
      rw [hwhole, (List.cons.inj heq).1] at hhead
      exact absurd rfl hhead
    next => exact scanDigits_append hdigits hrest

/-- What is written after the point, if anything is. -/
def fractionChars : Option (List Char) → List Char
  | some digits => '.' :: digits
  | none => []

/-- What is written after the fraction, if anything is. -/
def exponentChars : Option Exponent → List Char
  | some e => 'e' :: signChars e.sign ++ e.digits
  | none => []

/-- A number is written as its sign, whole part, fraction and exponent. -/
lemma Numeral.chars_eq (n : Numeral) : n.chars =
    (if n.negative then ['-'] else []) ++ (n.whole ++ (fractionChars n.fraction ++
      exponentChars n.exponent)) := by
  unfold Numeral.chars
  rw [List.append_assoc, List.append_assoc]
  rfl

/-- An exponent does not begin with a digit. -/
lemma noDigit_exponentChars (e : Option Exponent) {rest : List Char} (hrest : NoDigit rest) :
    NoDigit (exponentChars e ++ rest) := by
  cases e with
  | none => exact hrest
  | some e =>
    intro c hc
    obtain rfl : 'e' = c := by simpa [exponentChars] using hc
    decide

/-- A fraction does not begin with a digit. -/
lemma noDigit_fractionChars (f : Option (List Char)) {rest : List Char} (hrest : NoDigit rest) :
    NoDigit (fractionChars f ++ rest) := by
  cases f with
  | none => exact hrest
  | some ds =>
    intro c hc
    obtain rfl : '.' = c := by simpa [fractionChars] using hc
    decide

/-- A fraction is scanned as far as it goes. -/
lemma scanFraction_append {f : Option (List Char)} (hf : ∀ ds, f = some ds → IsDigits ds)
    {rest : List Char} (hrest : NoDigit rest) (hpoint : '.' ∉ rest.head?) :
    scanFraction (fractionChars f ++ rest) = some (f, rest) := by
  cases f with
  | none =>
    unfold scanFraction
    split
    next heq => exact absurd (by rw [show rest = _ from heq]; rfl) hpoint
    next => rfl
  | some ds =>
    change (scanDigits (ds ++ rest)).map _ = _
    rw [scanDigits_append (hf ds rfl) hrest]
    rfl

/-- The sign of an exponent is told from its digits. -/
lemma scanSign_append (sign : Option Bool) {ds : List Char} (hds : IsDigits ds) (rest : List Char) :
    scanSign (signChars sign ++ (ds ++ rest)) = (sign, ds ++ rest) := by
  match sign with
  | some true => rfl
  | some false => rfl
  | none =>
    obtain ⟨c, cs, rfl⟩ := List.exists_cons_of_ne_nil hds.1
    have hc : c.isDigit = true := hds.2 c List.mem_cons_self
    change scanSign (c :: (cs ++ rest)) = _
    unfold scanSign
    split
    next heq =>
      rw [(List.cons.inj heq).1] at hc
      exact absurd hc (by decide)
    next heq =>
      rw [(List.cons.inj heq).1] at hc
      exact absurd hc (by decide)
    next => rfl

/-- An exponent is scanned as far as it goes. -/
lemma scanExponent_append {e : Option Exponent} (he : ∀ x, e = some x → IsDigits x.digits)
    {rest : List Char} (hrest : EndsNumber rest) :
    scanExponent (exponentChars e ++ rest) = some (e, rest) := by
  cases e with
  | none =>
    change scanExponent rest = _
    unfold scanExponent
    split
    next => exact absurd rfl (hrest 'e' rfl).2.2.1
    next => exact absurd rfl (hrest 'E' rfl).2.2.2
    next => rfl
  | some e =>
    change scanMarked (signChars e.sign ++ e.digits ++ rest) = _
    rw [List.append_assoc, scanMarked, scanSign_append e.sign (he e rfl),
      scanDigits_append (he e rfl) hrest.noDigit]
    rfl

/-- A number is read back from how it is written after its sign. -/
lemma scanNumeral_append {n : Numeral} (hn : n.WellFormed) {rest : List Char}
    (hrest : EndsNumber rest) :
    scanNumeral n.negative (n.whole ++ (fractionChars n.fraction ++
      (exponentChars n.exponent ++ rest))) = some (n, rest) := by
  have hexponent := noDigit_exponentChars n.exponent hrest.noDigit
  have hpoint : '.' ∉ (exponentChars n.exponent ++ rest).head? := by
    cases n.exponent with
    | none => exact fun h => (hrest '.' h).2.1 rfl
    | some e => simp [exponentChars]
  rw [scanNumeral, scanWhole_append hn (noDigit_fractionChars n.fraction hexponent)]
  simp only [Option.bind_eq_bind, Option.bind_some,
    scanFraction_append hn.fraction hexponent hpoint, scanExponent_append hn.exponent hrest]
  rfl

/-- What begins with a digit is scanned as a number. -/
lemma scanToken_of_isDigit {c : Char} (hc : c.isDigit = true) (rest : List Char) :
    scanToken c rest = (scanNumeral false (c :: rest)).map fun r => (.number r.1, r.2) := by
  unfold scanToken
  split <;> first | rfl | exact absurd hc (by decide)

/-- A digit is no white space. -/
lemma isSpace_of_isDigit {c : Char} (hc : c.isDigit = true) : isSpace c = false := by
  have hne : ∀ d, d.isDigit = false → (c == d) = false := by
    intro d hd
    rw [beq_eq_false_iff_ne]
    rintro rfl
    simp [hc] at hd
  simp [isSpace, hne]

/-- A number token is read back from how it is written. -/
lemma scanToken_numeral {n : Numeral} (hn : n.WellFormed) {rest : List Char}
    (hrest : EndsNumber rest) :
    ∃ c cs, n.chars = c :: cs ∧ isSpace c = false ∧
      scanToken c (cs ++ rest) = some (.number n, rest) := by
  have hscan := scanNumeral_append hn hrest
  cases hsign : n.negative with
  | true =>
    refine ⟨'-', n.whole ++ (fractionChars n.fraction ++ exponentChars n.exponent), ?_, rfl, ?_⟩
    · rw [n.chars_eq, hsign]
      rfl
    · rw [hsign] at hscan
      rw [scanToken, List.append_assoc, List.append_assoc, hscan]
      rfl
  | false =>
    obtain ⟨c, cs, hwhole, hc⟩ : ∃ c cs, n.whole = c :: cs ∧ c.isDigit = true := by
      rcases hn.whole with hzero | ⟨hdigits, -⟩
      · exact ⟨'0', [], hzero, by decide⟩
      · obtain ⟨c, cs, hwhole⟩ := List.exists_cons_of_ne_nil hdigits.1
        exact ⟨c, cs, hwhole, hdigits.2 c (hwhole ▸ List.mem_cons_self)⟩
    refine ⟨c, cs ++ (fractionChars n.fraction ++ exponentChars n.exponent), ?_,
      isSpace_of_isDigit hc, ?_⟩
    · rw [n.chars_eq, hsign, hwhole]
      rfl
    · rw [hsign, hwhole] at hscan
      rw [scanToken_of_isDigit hc, List.append_assoc, List.append_assoc]
      rw [List.cons_append] at hscan
      rw [hscan]
      rfl

/-! ### Documents -/

namespace Document

mutual

/-- A document of which all numbers are as numbers are written. -/
def WellFormed : Document → Prop
  | .number n => n.WellFormed
  | .array items => ItemsWellFormed items
  | .object fields => FieldsWellFormed fields
  | .null | .bool _ | .string _ => True

/-- Items of which all numbers are as numbers are written. -/
def ItemsWellFormed : List Document → Prop
  | [] => True
  | v :: rest => WellFormed v ∧ ItemsWellFormed rest

/-- Fields of which all numbers are as numbers are written. -/
def FieldsWellFormed : List (Option String × Document) → Prop
  | [] => True
  | (_, v) :: rest => WellFormed v ∧ FieldsWellFormed rest

end

mutual

/-- The tokens that a document is written with. -/
def tokens : Document → List Token
  | .null => [.null]
  | .bool b => [.bool b]
  | .number n => [.number n]
  | .string s => [.string s]
  | .array items => .openArray :: itemsTokens items ++ [.closeArray]
  | .object fields => .openObject :: fieldsTokens fields ++ [.closeObject]

/-- The tokens of the items of an array. -/
def itemsTokens : List Document → List Token
  | [] => []
  | [v] => tokens v
  | v :: w :: rest => tokens v ++ .comma :: itemsTokens (w :: rest)

/-- The tokens of the fields of an object. -/
def fieldsTokens : List (Option String × Document) → List Token
  | [] => []
  | [(k, v)] => .string k :: .colon :: tokens v
  | (k, v) :: f :: rest => .string k :: .colon :: tokens v ++ .comma :: fieldsTokens (f :: rest)

end

end Document

/-- A token is cut off, and then the rest is cut. -/
lemma tokens_cons {c : Char} {cs rest : List Char} {t : Token} (hspace : isSpace c = false)
    (ht : scanToken c cs = some (t, rest)) : tokens (c :: cs) = (tokens rest).map (t :: ·) := by
  rw [tokens, if_neg (by simp [hspace])]
  split
  next hnone => simp [ht] at hnone
  next heq =>
    rw [ht] at heq
    cases heq
    rfl

/-- A comma, or the end of an array or object, ends a number. -/
lemma endsNumber_cons {c : Char} (hc : c = ',' ∨ c = ']' ∨ c = '\x7d') (rest : List Char) :
    EndsNumber (c :: rest) := by
  intro d hd
  obtain rfl : c = d := by simpa using hd
  rcases hc with rfl | rfl | rfl <;> decide

/-- A mark is cut off. -/
lemma tokens_mark (c : Char) (t : Token) (hspace : isSpace c = false)
    (ht : ∀ cs, scanToken c cs = some (t, cs)) (cs : List Char) :
    tokens (c :: cs) = (tokens cs).map (t :: ·) :=
  tokens_cons hspace (ht cs)

/-- A literal is cut off as a whole. -/
lemma tokens_literal {c : Char} {literal : List Char} {t : Token} (hspace : isSpace c = false)
    (ht : ∀ rest, scanToken c (literal ++ rest) = some (t, rest)) (rest : List Char) :
    tokens (c :: literal ++ rest) = (tokens rest).map (t :: ·) :=
  tokens_cons hspace (ht rest)

/-- A string is cut off as a whole. -/
lemma tokens_stringChars (s : Option String) (rest : List Char) :
    tokens (stringChars s ++ rest) = (tokens rest).map (.string s :: ·) := by
  obtain ⟨cs, hchars, hscan⟩ := scanToken_stringChars s rest
  rw [hchars, List.cons_append]
  exact tokens_cons rfl hscan

mutual

/-- A document is cut into its tokens, and then the text behind it is cut. -/
lemma Document.tokens_chars : ∀ d : Document, d.WellFormed → ∀ rest, EndsNumber rest →
    Json.tokens (d.chars ++ rest) = (Json.tokens rest).map (d.tokens ++ ·)
  | .null, _, rest, _ => tokens_literal rfl (fun rest => rfl) rest
  | .bool true, _, rest, _ => tokens_literal rfl (fun rest => rfl) rest
  | .bool false, _, rest, _ => tokens_literal rfl (fun rest => rfl) rest
  | .number n, hn, rest, hrest => by
    obtain ⟨c, cs, hchars, hspace, hscan⟩ := scanToken_numeral hn hrest
    rw [Document.chars, hchars, List.cons_append]
    exact tokens_cons hspace hscan
  | .string s, _, rest, _ => tokens_stringChars s rest
  | .array items, hitems, rest, _ => by
    have hclose := tokens_mark ']' .closeArray rfl (fun _ => rfl) rest
    have hopen := tokens_mark '[' .openArray rfl (fun _ => rfl) (itemsChars items ++ ']' :: rest)
    have hend := endsNumber_cons (c := ']') (.inr (.inl rfl)) rest
    have hchars : (Document.array items).chars ++ rest =
        '[' :: (itemsChars items ++ ']' :: rest) := by
      simp [Document.chars]
    rw [hchars, hopen, Document.tokens_itemsChars items hitems _ hend, hclose]
    simp [Document.tokens, Function.comp_def]
  | .object fields, hfields, rest, _ => by
    have hclose := tokens_mark '\x7d' .closeObject rfl (fun _ => rfl) rest
    have hopen := tokens_mark '\x7b' .openObject rfl (fun _ => rfl)
      (fieldsChars fields ++ '\x7d' :: rest)
    have hend := endsNumber_cons (c := '\x7d') (.inr (.inr rfl)) rest
    have hchars : (Document.object fields).chars ++ rest =
        '\x7b' :: (fieldsChars fields ++ '\x7d' :: rest) := by
      simp [Document.chars]
    rw [hchars, hopen, Document.tokens_fieldsChars fields hfields _ hend, hclose]
    simp [Document.tokens, Function.comp_def]

/-- The same of the items of an array. -/
lemma Document.tokens_itemsChars : ∀ items, ItemsWellFormed items → ∀ rest, EndsNumber rest →
    Json.tokens (itemsChars items ++ rest) = (Json.tokens rest).map (itemsTokens items ++ ·)
  | [], _, rest, _ => by simp [itemsChars, itemsTokens]
  | [v], hv, rest, hrest => by
    rw [itemsChars, Document.tokens_chars v hv.1 rest hrest, itemsTokens]
  | v :: w :: more, hitems, rest, hrest => by
    have hcomma := tokens_mark ',' .comma rfl (fun _ => rfl) (itemsChars (w :: more) ++ rest)
    have hend := endsNumber_cons (c := ',') (.inl rfl) (itemsChars (w :: more) ++ rest)
    have hchars : itemsChars (v :: w :: more) ++ rest =
        v.chars ++ ',' :: (itemsChars (w :: more) ++ rest) := by
      simp [itemsChars]
    rw [hchars, Document.tokens_chars v hitems.1 _ hend, hcomma,
      Document.tokens_itemsChars (w :: more) hitems.2 rest hrest]
    simp [itemsTokens, Function.comp_def]

/-- The same of the fields of an object. -/
lemma Document.tokens_fieldsChars : ∀ fields, FieldsWellFormed fields → ∀ rest, EndsNumber rest →
    Json.tokens (fieldsChars fields ++ rest) = (Json.tokens rest).map (fieldsTokens fields ++ ·)
  | [], _, rest, _ => by simp [fieldsChars, fieldsTokens]
  | [(k, v)], hv, rest, hrest => by
    have hcolon := tokens_mark ':' .colon rfl (fun _ => rfl) (v.chars ++ rest)
    have hchars : fieldsChars [(k, v)] ++ rest = stringChars k ++ ':' :: (v.chars ++ rest) := by
      simp [fieldsChars]
    rw [hchars, tokens_stringChars, hcolon, Document.tokens_chars v hv.1 rest hrest]
    simp [fieldsTokens, Function.comp_def]
  | (k, v) :: f :: more, hfields, rest, hrest => by
    have hcomma := tokens_mark ',' .comma rfl (fun _ => rfl) (fieldsChars (f :: more) ++ rest)
    have hend := endsNumber_cons (c := ',') (.inl rfl) (fieldsChars (f :: more) ++ rest)
    have hcolon := tokens_mark ':' .colon rfl (fun _ => rfl)
      (v.chars ++ ',' :: (fieldsChars (f :: more) ++ rest))
    have hchars : fieldsChars ((k, v) :: f :: more) ++ rest =
        stringChars k ++ ':' :: (v.chars ++ ',' :: (fieldsChars (f :: more) ++ rest)) := by
      simp [fieldsChars]
    rw [hchars, tokens_stringChars, hcolon, Document.tokens_chars v hfields.1 _ hend, hcomma,
      Document.tokens_fieldsChars (f :: more) hfields.2 rest hrest]
    simp [fieldsTokens, Function.comp_def]

end

/-- A document that is written on one line is cut into its tokens. -/
theorem Document.tokens_chars_self {d : Document} (hd : d.WellFormed) :
    Json.tokens d.chars = some d.tokens := by
  have h := d.tokens_chars hd [] (fun c hc => by simp at hc)
  simpa [Json.tokens] using h

end Colloquy.Json
