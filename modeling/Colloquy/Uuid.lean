import Colloquy.Text.Utf8

/-!
# Universally unique identifiers

A `Uuid` is a number of 128 bits. It is written as 32 lower-case hexadecimal digits in groups of
8, 4, 4, 4 and 12 (`Uuid.chars`), so that the order of the texts is the order of the numbers.
Reading (`Uuid.read`) is more liberal: digits in either case, with hyphens or without, in braces or
after `urn:uuid:`. A text that is none of these is refused with the fault that `Uuid.fault` finds.
-/

namespace Colloquy

/-- A 128-bit identifier. -/
structure Uuid where
  /-- The identifier as a number, its first byte being the most significant. -/
  toNat : Nat
  isLt : toNat < Nat.pow 2 128
  deriving DecidableEq

namespace Uuid

instance : Ord Uuid where
  compare a b := compare a.toNat b.toNat

instance : Inhabited Uuid := ⟨⟨0, by decide⟩⟩

/-- The identifier of a number, reduced to 128 bits. -/
def ofNat (n : Nat) : Uuid :=
  ⟨n % Nat.pow 2 128, Nat.mod_lt _ (by decide)⟩

/-- The identifier of 16 bytes, the most significant one first. -/
def ofBytes (bytes : List UInt8) : Uuid :=
  ofNat (bytes.foldl (fun n b => n * 256 + b.toNat) 0)

/-- The digits of a number in a base, `width` of them, most significant first. -/
def numeral {α : Type} (base : Nat) (digit : Nat → α) : Nat → Nat → List α
  | 0, _ => []
  | width + 1, n => numeral base digit width (n / base) ++ [digit (n % base)]

/-- The 16 bytes of an identifier, the most significant one first. -/
def bytes (id : Uuid) : List UInt8 :=
  numeral 256 UInt8.ofNat 16 id.toNat

/-- The identifier of version 4 that is made of random bits: all but the six bits of the version and
the variant are taken. -/
def ofRandomBits (bits : Nat) : Uuid :=
  ofNat (bits / Nat.pow 2 80 * Nat.pow 2 80 + 4 * Nat.pow 2 76 +
    bits / Nat.pow 2 64 % Nat.pow 2 12 * Nat.pow 2 64 + 2 * Nat.pow 2 62 + bits % Nat.pow 2 62)

/-! ### Writing -/

/-- The hexadecimal digits of a number, `width` of them, most significant first. -/
def hexDigits : Nat → Nat → List Char
  | 0, _ => []
  | width + 1, n => hexDigits width (n / 16) ++ [Nat.digitChar (n % 16)]

/-- Puts hyphens between the five groups of 32 digits. -/
def hyphenate (digits : List Char) : List Char :=
  digits.take 8 ++ '-' :: (digits.drop 8).take 4 ++ '-' :: (digits.drop 12).take 4 ++
    '-' :: (digits.drop 16).take 4 ++ '-' :: digits.drop 20

/-- The written form of an identifier. -/
def chars (id : Uuid) : List Char :=
  hyphenate (hexDigits 32 id.toNat)

instance : ToString Uuid where
  toString id := String.ofList id.chars

/-- The written form of an identifier as a string. -/
def text (id : Uuid) : String :=
  String.ofList id.chars

/-! ### Reading -/

/-- The value of one hexadecimal digit of either case. -/
def hexDigit? (c : Char) : Option Nat :=
  let n := c.toNat
  if 48 ≤ n ∧ n ≤ 57 then some (n - 48)
  else if 97 ≤ n ∧ n ≤ 102 then some (n - 87)
  else if 65 ≤ n ∧ n ≤ 70 then some (n - 55)
  else none

/-- The value of a sequence of hexadecimal digits, continuing from `acc`. -/
def continueHex? (acc : Nat) : List Char → Option Nat
  | [] => some acc
  | c :: rest => (hexDigit? c).bind fun d => continueHex? (acc * 16 + d) rest

/-- Reads 32 hexadecimal digits. -/
def ofDigits? (cs : List Char) : Option Uuid :=
  if cs.length = 32 then (continueHex? 0 cs).map ofNat else none

/-- Reads five groups of hexadecimal digits with hyphens between them. -/
def ofHyphenated? (cs : List Char) : Option Uuid :=
  if cs.length = 36 ∧ cs[8]? = some '-' ∧ cs[13]? = some '-' ∧ cs[18]? = some '-' ∧
      cs[23]? = some '-' then
    ofDigits? (cs.take 8 ++ (cs.drop 9).take 4 ++ (cs.drop 14).take 4 ++ (cs.drop 19).take 4 ++
      cs.drop 24)
  else none

/-- The text inside braces. -/
def inBraces? : List Char → Option (List Char)
  | '\x7b' :: rest =>
    match rest.getLast? with
    | some '\x7d' => some rest.dropLast
    | _ => none
  | _ => none

/-- What marks the identifier in a uniform resource name. -/
def urnMark : List Char := "urn:uuid:".toList

/-- The text after `urn:uuid:`, whose letters may be of either case. -/
def afterUrn? (cs : List Char) : Option (List Char) :=
  if (cs.take 9).map Char.toLower = urnMark then some (cs.drop 9) else none

/-- Reads an identifier in any of its accepted forms. -/
def ofChars? (cs : List Char) : Option Uuid :=
  (ofDigits? cs).or <| (ofHyphenated? cs).or <|
    ((inBraces? cs).bind ofHyphenated?).or <| (afterUrn? cs).bind ofHyphenated?

/-- Why a text is not an identifier. -/
inductive Fault where
  | invalidLength (found : Nat)
  | invalidCharacter (found : Char) (offset : Nat)
  | invalidGroupCount (found : Nat)
  | invalidGroupLength (group expected found : Nat)
  deriving DecidableEq, Repr

/-- The wording of each fault. -/
def Fault.message : Fault → String
  | .invalidLength found => s!"invalid length: found {found}"
  | .invalidCharacter found offset =>
    "invalid character: found " ++ String.ofList ['\x60', found, '\x60'] ++ s!" at {offset}"
  | .invalidGroupCount found => s!"invalid group count: expected 5, found {found}"
  | .invalidGroupLength group expected found =>
    s!"invalid group length in group {group}: expected {expected}, found {found}"

/-- Characters with the byte offsets at which they start. -/
def withOffsets (offset : Nat) : List Char → List (Char × Nat)
  | [] => []
  | c :: rest => (c, offset) :: withOffsets (offset + c.utf8Size) rest

/-- Where the hyphen after each of the first four groups belongs, the offset at which the group
starts, and the length of the group. -/
def groupBounds : List (Nat × Nat × Nat) :=
  [(8, 0, 8), (13, 9, 4), (18, 14, 4), (23, 19, 4)]

/-- The first group that is too long or too short, given the offsets of the four hyphens. -/
def wrongGroup? (hyphens : List Nat) : Option Fault :=
  (groupBounds.zip hyphens).zipIdx.findSome? fun (((place, start, expected), hyphen), group) =>
    if hyphen = place then none
    else some (.invalidGroupLength group expected (hyphen - start))

/-- The fault of the part of a text that is to hold the digits, where `size` is the length of the
text and the part starts at the offset `start`. `grouped` says that groups are asked for, so that
without a hyphen it is their number that is wrong, and not the length. -/
def faultOf (size : Nat) (body : List Char) (start : Nat) (grouped : Bool) : Fault :=
  match (withOffsets start body).find? fun (c, _) => (hexDigit? c).isNone && c != '-' with
  | some (c, offset) => .invalidCharacter c offset
  | none =>
    let hyphens := ((withOffsets 0 body).filter fun (c, _) => c == '-').map (·.2)
    if hyphens.isEmpty && !grouped then .invalidLength size
    else if hyphens.length ≠ 4 then .invalidGroupCount (hyphens.length + 1)
    else (wrongGroup? hyphens).getD (.invalidGroupLength 4 12 (size - 24))

/-- The fault of a refused text. A text that has the length of one of the grouped forms is judged by
that form: 36 bytes should be groups, and where braces or `urn:uuid:` wrap 36 bytes these are judged
by themselves. Of any other text the braces or `urn:uuid:` are passed over. -/
def fault (cs : List Char) : Fault :=
  let size := Text.byteCount cs
  if size = 0 ∨ 45 < size then .invalidLength size
  else match size, inBraces? cs, afterUrn? cs with
    | 36, _, _ => faultOf size cs 0 true
    | 38, some groups, _ => faultOf 36 groups 0 true
    | 45, _, some groups => faultOf 36 groups 0 true
    | _, some body, _ => faultOf size body 1 true
    | _, none, some body => faultOf size body 9 true
    | _, none, none => faultOf size cs 0 false

/-- Reads an identifier. -/
def read (s : String) : Except Fault Uuid :=
  match ofChars? s.toList with
  | some id => .ok id
  | none => .error (fault s.toList)

/-- The identifier that a text stands for, if it stands for one. -/
def read? (s : String) : Option Uuid :=
  ofChars? s.toList

end Uuid

end Colloquy
