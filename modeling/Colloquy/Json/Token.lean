import Colloquy.Json.Document

/-!
# Tokens of a JSON text

`Json.tokens` cuts a text into brackets, marks, literals, numbers and strings. Each scanner takes a
token off the front of a text and leaves a shorter rest, which is why cutting ends. A string is
read in two steps: its escapes give characters and halves of surrogate pairs, and then the halves
are joined.
-/

namespace Colloquy.Json

/-- A token of a JSON text. -/
inductive Token where
  | openArray
  | closeArray
  | openObject
  | closeObject
  | comma
  | colon
  | null
  | bool (b : Bool)
  | number (n : Numeral)
  | string (s : Option String)
  deriving DecidableEq

/-! ### Strings -/

/-- What an escape or a plain character of a string stands for. -/
inductive Unit16 where
  | char (c : Char)
  /-- Half of a surrogate pair, by its number. -/
  | half (n : Nat)
  deriving DecidableEq

/-- The value of a hexadecimal digit of either case. -/
def hexValue? (c : Char) : Option Nat :=
  let n := c.toNat
  if 48 ≤ n ∧ n ≤ 57 then some (n - 48)
  else if 97 ≤ n ∧ n ≤ 102 then some (n - 87)
  else if 65 ≤ n ∧ n ≤ 70 then some (n - 55)
  else none

/-- The code unit of four hexadecimal digits. -/
def unitOf? (a b c d : Char) : Option Unit16 := do
  let n := ((← hexValue? a) * 16 + (← hexValue? b)) * 256 + (← hexValue? c) * 16 + (← hexValue? d)
  return if 0xd800 ≤ n ∧ n ≤ 0xdfff then .half n else .char (Char.ofNat n)

/-- The character of an escape of one letter. -/
def shortEscape? : Char → Option Char
  | '"' => some '"'
  | '\\' => some '\\'
  | '/' => some '/'
  | 'b' => some '\x08'
  | 'f' => some '\x0c'
  | 'n' => some '\n'
  | 'r' => some '\r'
  | 't' => some '\t'
  | _ => none

/-- Reads a string up to its closing quotation mark. -/
def scanString : List Char → Option (List Unit16 × List Char)
  | '"' :: rest => some ([], rest)
  | '\\' :: 'u' :: a :: b :: c :: d :: rest =>
    match unitOf? a b c d, scanString rest with
    | some u, some (units, rest) => some (u :: units, rest)
    | _, _ => none
  | '\\' :: e :: rest =>
    match shortEscape? e, scanString rest with
    | some c, some (units, rest) => some (.char c :: units, rest)
    | _, _ => none
  | c :: rest =>
    if c.toNat < 0x20 || c == '\\' then none
    else match scanString rest with
      | some (units, rest) => some (.char c :: units, rest)
      | none => none
  | [] => none

/-- Joins the halves of surrogate pairs; there is no text if one stands alone. -/
def joinUnits : List Unit16 → Option (List Char)
  | [] => some []
  | .char c :: rest => (joinUnits rest).map (c :: ·)
  | .half hi :: .half lo :: rest =>
    if hi < 0xdc00 ∧ 0xdc00 ≤ lo then
      (joinUnits rest).map (Char.ofNat (0x10000 + (hi - 0xd800) * 0x400 + (lo - 0xdc00)) :: ·)
    else none
  | .half _ :: _ => none

/-! ### Numbers -/

/-- Reads a run of digits, which must not be empty. -/
def scanDigits (cs : List Char) : Option (List Char × List Char) :=
  if (cs.takeWhile Char.isDigit).isEmpty then none
  else some (cs.takeWhile Char.isDigit, cs.dropWhile Char.isDigit)

/-- Reads the part of a number before the point: zero, or digits that do not start with zero. -/
def scanWhole : List Char → Option (List Char × List Char)
  | '0' :: rest => some (['0'], rest)
  | cs => scanDigits cs

/-- Reads a fraction, if the text goes on with a point. -/
def scanFraction : List Char → Option (Option (List Char) × List Char)
  | '.' :: rest => (scanDigits rest).map fun (digits, rest) => (some digits, rest)
  | cs => some (none, cs)

/-- Reads the sign of an exponent, if there is one. -/
def scanSign : List Char → Option Bool × List Char
  | '-' :: rest => (some true, rest)
  | '+' :: rest => (some false, rest)
  | cs => (none, cs)

/-- Reads an exponent after its letter. -/
def scanMarked (cs : List Char) : Option (Option Exponent × List Char) :=
  (scanDigits (scanSign cs).2).map fun (digits, rest) => (some ⟨(scanSign cs).1, digits⟩, rest)

/-- Reads an exponent, if the text goes on with its letter. -/
def scanExponent : List Char → Option (Option Exponent × List Char)
  | 'e' :: rest => scanMarked rest
  | 'E' :: rest => scanMarked rest
  | cs => some (none, cs)

/-- Reads the rest of a number after its sign. -/
def scanNumeral (negative : Bool) (cs : List Char) : Option (Numeral × List Char) := do
  let (whole, cs) ← scanWhole cs
  let (fraction, cs) ← scanFraction cs
  let (exponent, cs) ← scanExponent cs
  return (⟨negative, whole, fraction, exponent⟩, cs)

/-! ### Cutting a text -/

/-- The white space of JSON. -/
def isSpace (c : Char) : Bool :=
  c == ' ' || c == '\n' || c == '\t' || c == '\r'

/-- The text after a literal, if the text starts with it. -/
def afterLiteral? : List Char → List Char → Option (List Char)
  | [], cs => some cs
  | l :: literal, c :: cs => if l = c then afterLiteral? literal cs else none
  | _ :: _, [] => none

/-- Reads the token that starts with `c`. -/
def scanToken (c : Char) (rest : List Char) : Option (Token × List Char) :=
  match c with
  | '[' => some (.openArray, rest)
  | ']' => some (.closeArray, rest)
  | '\x7b' => some (.openObject, rest)
  | '\x7d' => some (.closeObject, rest)
  | ',' => some (.comma, rest)
  | ':' => some (.colon, rest)
  | '"' => (scanString rest).map fun (units, rest) =>
      (.string ((joinUnits units).map String.ofList), rest)
  | 'n' => (afterLiteral? "ull".toList rest).map fun rest => (.null, rest)
  | 't' => (afterLiteral? "rue".toList rest).map fun rest => (.bool true, rest)
  | 'f' => (afterLiteral? "alse".toList rest).map fun rest => (.bool false, rest)
  | '-' => (scanNumeral true rest).map fun (n, rest) => (.number n, rest)
  | c => (scanNumeral false (c :: rest)).map fun (n, rest) => (.number n, rest)

/-! The rest that a scanner leaves is a part of what it was given. -/

/-- Scanning a string uses up text. -/
theorem scanString_length {cs : List Char} {r : List Unit16 × List Char}
    (h : scanString cs = some r) : r.2.length < cs.length := by
  fun_induction scanString cs generalizing r with
  | case1 => simp_all; grind
  | case2 | case4 | case7 => grind
  | case3 | case5 | case6 | case8 | case9 => simp_all

/-- Scanning digits uses up text. -/
theorem scanDigits_length {cs digits rest : List Char}
    (h : scanDigits cs = some (digits, rest)) : rest.length < cs.length := by
  unfold scanDigits at h
  split at h
  · simp at h
  · next hne =>
    simp only [Option.some.injEq, Prod.mk.injEq] at h
    obtain ⟨rfl, rfl⟩ := h
    have hs := congrArg List.length (List.takeWhile_append_dropWhile (p := Char.isDigit) (l := cs))
    rw [List.length_append] at hs
    have : 0 < (cs.takeWhile Char.isDigit).length :=
      List.length_pos_iff.mpr (by simpa using hne)
    omega

/-- Scanning the whole part of a number uses up text. -/
theorem scanWhole_length {cs digits rest : List Char}
    (h : scanWhole cs = some (digits, rest)) : rest.length < cs.length := by
  unfold scanWhole at h
  split at h
  · simp_all
  · exact scanDigits_length h

/-- Scanning a fraction adds no text. -/
theorem scanFraction_length {cs rest : List Char} {digits : Option (List Char)}
    (h : scanFraction cs = some (digits, rest)) : rest.length ≤ cs.length := by
  unfold scanFraction at h
  split at h
  · simp only [Option.map_eq_some_iff, Prod.exists, Prod.mk.injEq] at h
    obtain ⟨d, r, h, _, rfl⟩ := h
    have := scanDigits_length h
    simp; omega
  · simp_all

/-- Scanning a sign adds no text. -/
theorem scanSign_length (cs : List Char) : (scanSign cs).2.length ≤ cs.length := by
  unfold scanSign; split <;> simp

/-- Scanning a marked exponent adds no text. -/
theorem scanMarked_length {cs rest : List Char} {e : Option Exponent}
    (h : scanMarked cs = some (e, rest)) : rest.length ≤ cs.length := by
  simp only [scanMarked, Option.map_eq_some_iff, Prod.exists, Prod.mk.injEq] at h
  obtain ⟨d, r, h, _, rfl⟩ := h
  have := scanDigits_length h
  have := scanSign_length cs
  omega

/-- Scanning an exponent adds no text. -/
theorem scanExponent_length {cs rest : List Char} {e : Option Exponent}
    (h : scanExponent cs = some (e, rest)) : rest.length ≤ cs.length := by
  unfold scanExponent at h
  split at h
  · have := scanMarked_length h; simp; omega
  · have := scanMarked_length h; simp; omega
  · simp_all

/-- Scanning a number uses up text. -/
theorem scanNumeral_length {negative : Bool} {cs rest : List Char} {n : Numeral}
    (h : scanNumeral negative cs = some (n, rest)) : rest.length < cs.length := by
  simp only [scanNumeral, Option.bind_eq_bind, Option.bind_eq_some_iff, Prod.exists,
    Option.pure_def, Option.some.injEq, Prod.mk.injEq] at h
  obtain ⟨w, r₁, h₁, f, r₂, h₂, e, r₃, h₃, _, rfl⟩ := h
  have := scanWhole_length h₁
  have := scanFraction_length h₂
  have := scanExponent_length h₃
  omega

/-- Scanning a literal adds no text. -/
theorem afterLiteral?_length {literal cs rest : List Char}
    (h : afterLiteral? literal cs = some rest) : rest.length ≤ cs.length := by
  fun_induction afterLiteral? literal cs with
  | case1 => simp_all
  | case2 l cs literal ih => have := ih h; simp; omega
  | case3 => simp_all
  | case4 => simp_all

/-- Scanning a token adds no text. -/
theorem scanToken_length {c : Char} {cs rest : List Char} {t : Token}
    (h : scanToken c cs = some (t, rest)) : rest.length ≤ cs.length := by
  unfold scanToken at h
  split at h
  case h_7 =>
    simp only [Option.map_eq_some_iff, Prod.exists, Prod.mk.injEq] at h
    obtain ⟨u, r, h, _, rfl⟩ := h
    exact Nat.le_of_lt (scanString_length h)
  case h_8 | h_9 | h_10 =>
    simp only [Option.map_eq_some_iff, Prod.mk.injEq] at h
    obtain ⟨r, h, _, rfl⟩ := h
    exact afterLiteral?_length h
  case h_11 =>
    simp only [Option.map_eq_some_iff, Prod.exists, Prod.mk.injEq] at h
    obtain ⟨n, r, h, _, rfl⟩ := h
    exact Nat.le_of_lt (scanNumeral_length h)
  case h_12 =>
    simp only [Option.map_eq_some_iff, Prod.exists, Prod.mk.injEq] at h
    obtain ⟨n, r, h, _, rfl⟩ := h
    have := scanNumeral_length h
    simp at this; omega
  all_goals simp_all

/-- Cuts a text into tokens, passing over white space. -/
def tokens (cs : List Char) : Option (List Token) :=
  match cs with
  | [] => some []
  | c :: rest =>
    if isSpace c then tokens rest
    else match _h : scanToken c rest with
      | none => none
      | some (t, rest') => (tokens rest').map (t :: ·)
termination_by cs.length
decreasing_by
  · simp
  · have := scanToken_length _h
    simp; omega

end Colloquy.Json
