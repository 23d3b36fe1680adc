import Colloquy.Json.Token

/-!
# Reading documents

`Document.parse` builds a document from the tokens of a text. It works with a stack of the arrays
and objects that are still open: `Document.value` stands before a value, `Document.after` behind
one, and each token is looked at once. Nesting is not limited here; readers of values limit it.
-/

namespace Colloquy.Json

/-- An array or object that is still open, with what it holds so far in reverse. -/
inductive Frame where
  | array (done : List Document)
  /-- An object whose next value belongs to `key`. -/
  | object (done : List (Option String × Document)) (key : Option String)

namespace Document

mutual

/-- Reads the value that comes next, and then the rest of the text. -/
def value (stack : List Frame) : List Token → Option Document
  | .null :: rest => after stack .null rest
  | .bool b :: rest => after stack (.bool b) rest
  | .number n :: rest => after stack (.number n) rest
  | .string s :: rest => after stack (.string s) rest
  | .openArray :: .closeArray :: rest => after stack (.array []) rest
  | .openArray :: rest => value (.array [] :: stack) rest
  | .openObject :: .closeObject :: rest => after stack (.object []) rest
  | .openObject :: .string key :: .colon :: rest => value (.object [] key :: stack) rest
  | _ => none
termination_by structural ts => ts

/-- Goes on behind the value `v`, which belongs to the innermost open array or object. -/
def after (stack : List Frame) (v : Document) : List Token → Option Document
  | [] => if stack.isEmpty then some v else none
  | .comma :: .string key :: .colon :: rest =>
    match stack with
    | .object done last :: stack => value (.object ((last, v) :: done) key :: stack) rest
    | _ => none
  | .comma :: rest =>
    match stack with
    | .array done :: stack => value (.array (v :: done) :: stack) rest
    | _ => none
  | .closeArray :: rest =>
    match stack with
    | .array done :: stack => after stack (.array (v :: done).reverse) rest
    | _ => none
  | .closeObject :: rest =>
    match stack with
    | .object done last :: stack => after stack (.object ((last, v) :: done).reverse) rest
    | _ => none
  | _ => none
termination_by structural ts => ts

end

/-- Reads a JSON text. -/
def parse (cs : List Char) : Option Document :=
  (tokens cs).bind (value [])

/-- Reads a JSON text given as a string. -/
def ofString? (s : String) : Option Document :=
  parse s.toList

end Document

end Colloquy.Json
