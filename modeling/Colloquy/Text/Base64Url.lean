/-!
# URL-safe base64 without padding

`Base64Url.encode` writes three bytes as four symbols of six bits; a last group of one or two bytes
takes two or three symbols, whose unused low bits are zero. `Base64Url.decode` reads the symbols of
a text, given as its bytes, and refuses whatever `encode` does not write: foreign symbols, padding,
a lone last symbol, and unused bits that are not zero. A fault names the symbol and its offset.
-/

namespace Colloquy.Base64Url

/-- The symbol of a six-bit value: upper case, lower case, digits, `-` and `_`. -/
def symbol (v : Nat) : Char :=
  if v < 26 then Char.ofNat (v + 65)
  else if v < 52 then Char.ofNat (v + 71)
  else if v < 62 then Char.ofNat (v - 4)
  else if v = 62 then '-'
  else '_'

/-- The six-bit value of a symbol, given as a byte. -/
def value? (b : UInt8) : Option Nat :=
  let n := b.toNat
  if 65 ≤ n ∧ n ≤ 90 then some (n - 65)
  else if 97 ≤ n ∧ n ≤ 122 then some (n - 71)
  else if 48 ≤ n ∧ n ≤ 57 then some (n + 4)
  else if n = 45 then some 62
  else if n = 95 then some 63
  else none

/-- The padding byte `=`, which is never written and never accepted. -/
def padding : UInt8 := 61

/-- Writes bytes as symbols. -/
def encode : List UInt8 → List Char
  | [] => []
  | [a] =>
    let x := a.toNat
    [symbol (x / 4), symbol (x % 4 * 16)]
  | [a, b] =>
    let x := a.toNat
    let y := b.toNat
    [symbol (x / 4), symbol (x % 4 * 16 + y / 16), symbol (y % 16 * 4)]
  | a :: b :: c :: rest =>
    let x := a.toNat
    let y := b.toNat
    let z := c.toNat
    symbol (x / 4) :: symbol (x % 4 * 16 + y / 16) :: symbol (y % 16 * 4 + z / 64) ::
      symbol (z % 64) :: encode rest

/-- Why a text is not the base64 form of any bytes. -/
inductive Fault where
  | invalidSymbol (byte : UInt8) (offset : Nat)
  | invalidLength (symbols : Nat)
  | invalidPadding
  | invalidLastSymbol (byte : UInt8) (offset : Nat)
  deriving DecidableEq, Repr

/-- The wording of each fault. -/
def Fault.message : Fault → String
  | .invalidSymbol byte offset => s!"Invalid symbol {byte.toNat}, offset {offset}."
  | .invalidLength symbols => s!"Invalid input length: {symbols}"
  | .invalidPadding => "Invalid padding"
  | .invalidLastSymbol byte offset => s!"Invalid last symbol {byte.toNat}, offset {offset}."

/-- The value of the symbol at an offset. -/
def valueAt (offset : Nat) (b : UInt8) : Except Fault Nat :=
  match value? b with
  | some v => .ok v
  | none => .error (.invalidSymbol b offset)

/-- The three bytes of a full group of symbols that others follow. -/
def decodeGroup (offset : Nat) (a b c d : UInt8) : Except Fault (List UInt8) := do
  let w ← valueAt offset a
  let x ← valueAt (offset + 1) b
  let y ← valueAt (offset + 2) c
  let z ← valueAt (offset + 3) d
  return [.ofNat (w * 4 + x / 16), .ofNat (x % 16 * 16 + y / 4), .ofNat (y % 4 * 64 + z)]

/-- The symbols of the last group, and the offset of its first padding byte. Padding is refused at
once in the first two places; later it is remembered, and then only more padding may follow. -/
def lastSymbols (offset : Nat) : Nat → Option Nat → List UInt8 →
    Except Fault (List (UInt8 × Nat) × Option Nat)
  | _, pad, [] => .ok ([], pad)
  | place, pad, b :: rest =>
    if b = padding then
      if place < 2 then .error (.invalidSymbol b (offset + place))
      else lastSymbols offset (place + 1) (pad.or (some (offset + place))) rest
    else match pad with
      | some first => .error (.invalidSymbol padding first)
      | none => do
        let v ← valueAt (offset + place) b
        let (symbols, last) ← lastSymbols offset (place + 1) none rest
        return ((b, v) :: symbols, last)

/-- The bytes of the last group, of one to four symbols. -/
def decodeLast (offset : Nat) (group : List UInt8) : Except Fault (List UInt8) := do
  let (symbols, pad) ← lastSymbols offset 0 none group
  if symbols.length < 2 then .error (.invalidLength (offset + symbols.length))
  else if pad.isSome then .error .invalidPadding
  else match symbols with
    | [(_, w), (b, x)] =>
      if x % 16 = 0 then .ok [.ofNat (w * 4 + x / 16)]
      else .error (.invalidLastSymbol b (offset + 1))
    | [(_, w), (_, x), (b, y)] =>
      if y % 4 = 0 then .ok [.ofNat (w * 4 + x / 16), .ofNat (x % 16 * 16 + y / 4)]
      else .error (.invalidLastSymbol b (offset + 2))
    | [(_, w), (_, x), (_, y), (_, z)] =>
      .ok [.ofNat (w * 4 + x / 16), .ofNat (x % 16 * 16 + y / 4), .ofNat (y % 4 * 64 + z)]
    | _ => .error (.invalidLength (offset + symbols.length))

/-- Reads group after group; `offset` counts the symbols already read. -/
def decodeFrom (offset : Nat) : List UInt8 → Except Fault (List UInt8)
  | a :: b :: c :: d :: e :: rest => do
    let bytes ← decodeGroup offset a b c d
    let more ← decodeFrom (offset + 4) (e :: rest)
    return bytes ++ more
  | group => decodeLast offset group

/-- Reads the bytes that a text stands for. A single last symbol outside the alphabet is reported
before anything else. -/
def decode (text : List UInt8) : Except Fault (List UInt8) :=
  match text with
  | [] => .ok []
  | _ =>
    match text.getLast? with
    | some b =>
      if text.length % 4 = 1 ∧ (value? b).isNone ∧ b ≠ padding then
        .error (.invalidSymbol b (text.length - 1))
      else decodeFrom 0 text
    | none => decodeFrom 0 text

end Colloquy.Base64Url
