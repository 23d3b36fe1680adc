import Colloquy.Paging.Error
import Colloquy.Paging.Key

/-!
# Cursors

A cursor is the text of a position: the nanoseconds of its time, a bar and its id, in URL-safe
base64. `Cursor.encode` writes it and `Cursor.decode` reads it. Decoding accepts nothing but what
encoding writes, because both fields are written again and compared; the empty text stands for no
position.
-/

namespace Colloquy.Cursor

/-- What stands between the two fields of a cursor. -/
def delimiter : Char := '|'

/-- The text of a position before it is put into base64. -/
def payload (nanos : Int) (id : Uuid) : List Char :=
  Decimal.ofInt nanos ++ delimiter :: id.chars

/-- The cursor of a time and an id. -/
def encode (createdAt : Instant) (id : Uuid) : Except PagingError String :=
  match createdAt.nanos? with
  | some nanos =>
    .ok (String.ofList (Base64Url.encode (Text.utf8 (String.ofList (payload nanos id)))))
  | none => .error .timestampOutOfRange

/-- The parts of a text between delimiters. -/
def fields : List Char → List (List Char)
  | [] => [[]]
  | c :: rest =>
    if c = delimiter then [] :: fields rest
    else match fields rest with
      | field :: more => (c :: field) :: more
      | [] => [[c]]

/-- Reads the two fields of a cursor. -/
def ofFields (nanosText idText : List Char) : Except CursorFault SortKey :=
  match Decimal.readInt64 nanosText with
  | .error fault => .error (.badTimestamp (String.ofList nanosText) fault)
  | .ok nanos =>
    match Uuid.ofChars? idText with
    | none => .error (.badId (String.ofList idText) (Uuid.fault idText))
    | some id =>
      if Decimal.ofInt nanos.1 ≠ nanosText then
        .error (.nonCanonicalTimestamp (String.ofList nanosText))
      else if id.chars ≠ idText then .error (.nonCanonicalId (String.ofList idText))
      else .ok ⟨.ofNanos nanos, id⟩

/-- Reads a cursor that is not empty. -/
def read (text : String) : Except CursorFault SortKey :=
  match Base64Url.decode (Text.utf8 text) with
  | .error fault => .error (.notBase64 fault)
  | .ok bytes =>
    match Text.ofUtf8? bytes with
    | none => .error .notUtf8
    | some payload =>
      match fields payload.toList with
      | [nanosText, idText] => ofFields nanosText idText
      | _ => .error .wrongFieldCount

/-- The position that a cursor names. -/
def decode (text : String) : Except PagingError (Option SortKey) :=
  if text = "" then .ok none
  else match read text with
    | .ok key => .ok (some key)
    | .error fault => .error (.invalidCursor fault)

end Colloquy.Cursor

namespace Colloquy

/-- The cursor of a position. -/
def SortKey.cursor (key : SortKey) : Except PagingError String :=
  Cursor.encode key.createdAt key.id

end Colloquy
