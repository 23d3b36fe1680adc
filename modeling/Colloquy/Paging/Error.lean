import Colloquy.Text.Base64Url
import Colloquy.Text.Decimal
import Colloquy.Text.Quoted
import Colloquy.Uuid

/-!
# What can be wrong with a page request

A `PagingError` names the cause, and `PagingError.message` words it. Cursors and limits come from
the caller; a position whose time does not fit a cursor comes from the stored data.
-/

namespace Colloquy

/-- Why a text is no cursor, in the order in which the checks are made. -/
inductive CursorFault where
  | notBase64 (fault : Base64Url.Fault)
  | notUtf8
  | wrongFieldCount
  | badTimestamp (text : String) (fault : Decimal.Fault)
  | badId (text : String) (fault : Uuid.Fault)
  /-- The timestamp can be read but is not how the encoder writes it. -/
  | nonCanonicalTimestamp (text : String)
  | nonCanonicalId (text : String)
  deriving DecidableEq

/-- The wording of each fault. -/
def CursorFault.message : CursorFault → String
  | .notBase64 fault => "not base64url: " ++ fault.message
  | .notUtf8 => "payload is not utf-8"
  | .wrongFieldCount => "expected exactly two delimited fields"
  | .badTimestamp text fault => "bad timestamp " ++ Text.quote text ++ ": " ++ fault.message
  | .badId text fault => "bad id " ++ Text.quote text ++ ": " ++ fault.message
  | .nonCanonicalTimestamp text => "non-canonical timestamp " ++ Text.quote text
  | .nonCanonicalId text => "non-canonical id " ++ Text.quote text

/-- Why a page cannot be asked for or delivered. -/
inductive PagingError where
  | invalidCursor (fault : CursorFault)
  | invalidLimit (limit max : Nat)
  /-- The time of a position is not a signed 64-bit count of nanoseconds. -/
  | timestampOutOfRange
  deriving DecidableEq

namespace PagingError

/-- The wording of each error. -/
def message : PagingError → String
  | .invalidCursor fault => "invalid cursor: " ++ fault.message
  | .invalidLimit limit max => s!"invalid limit {limit}: expected 1..={max}"
  | .timestampOutOfRange => "timestamp does not fit a nanosecond cursor"

/-- Whether the caller's input is the cause, and not the stored data. -/
def isClientError : PagingError → Bool
  | .invalidCursor _ | .invalidLimit _ _ => true
  | .timestampOutOfRange => false

end PagingError

end Colloquy
