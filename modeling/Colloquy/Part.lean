import Colloquy.Label

/-!
# Parts of messages

A message is made of parts: text, media that point to a stored asset, calls of tools and their
results, and free data. What a part must carry depends on its kind; `Part.validate` checks it and
names the first thing that is missing.
-/

namespace Colloquy

/-- A stored file that a part points to. -/
structure Asset where
  bucket : String
  s3Key : String
  etag : String
  sha256 : String
  mime : String
  /-- Size in bytes. -/
  sizeB : Nat
  deriving DecidableEq

/-- A part of a message. -/
structure Part where
  kind : PartKind
  text : Option String := none
  asset : Option Asset := none
  filename : Option String := none
  metadata : Option JsonObject := none

/-- What a part lacks. -/
inductive PartFault where
  /-- A text part without text. -/
  | noText
  | noMeta (kind : PartKind)
  | noKey (kind : PartKind) (key : String)
  deriving DecidableEq, Repr

/-- The wording of each fault. -/
def PartFault.message (e : PartFault) : String :=
  "invalid part: " ++
    match e with
    | .noText => "text part requires non-empty text field"
    | .noMeta kind => kind.name ++ " part requires meta field"
    | .noKey kind key => kind.name ++ " part requires '" ++ key ++ "' in meta"

namespace Part

/-- A text part. -/
def ofText (s : String) : Part := { kind := .text, text := some s }

/-- The part with the given metadata. -/
def withMeta (part : Part) (metadata : JsonObject) : Part := { part with metadata := some metadata }

/-- The keys that the metadata of a kind must have. -/
def requiredKeys : PartKind → List String
  | .toolCall => ["name", "arguments"]
  | .toolResult => ["tool_call_id"]
  | .data => ["data_type"]
  | _ => []

/-- Checks that the metadata has the given keys. -/
def requireKeys (part : Part) (keys : List String) : Except PartFault Unit :=
  match part.metadata with
  | none => .error (.noMeta part.kind)
  | some fields =>
    match keys.find? fun key => !Json.hasKey key fields with
    | some key => .error (.noKey part.kind key)
    | none => .ok ()

/-- Checks what the kind of the part asks for. -/
def validate (part : Part) : Except PartFault Unit :=
  match part.kind with
  | .text => if part.text.getD "" = "" then .error .noText else .ok ()
  | .toolCall | .toolResult | .data => part.requireKeys (requiredKeys part.kind)
  | .image | .audio | .video | .file => .ok ()

end Part

/-! ### JSON form -/

open Json (Document Reader fields?)

/-- A field that is written only if it has a value. -/
def presentField {α : Type} (name : String) (value : Option α) (write : α → Document) :
    List (String × Document) :=
  match value with
  | some v => [(name, write v)]
  | none => []

namespace Asset

/-- Writes an asset. -/
def toDocument (a : Asset) : Document :=
  .record [("bucket", .text a.bucket), ("s3_key", .text a.s3Key), ("etag", .text a.etag),
    ("sha256", .text a.sha256), ("mime", .text a.mime), ("size_b", .int a.sizeB)]

/-- Reads an asset. -/
def read : Reader Asset := fun levels d => do
  let f ← fields? ["bucket", "s3_key", "etag", "sha256", "mime", "size_b"] levels d
  return {
    bucket := ← f.required "bucket" Reader.text
    s3Key := ← f.required "s3_key" Reader.text
    etag := ← f.required "etag" Reader.text
    sha256 := ← f.required "sha256" Reader.text
    mime := ← f.required "mime" Reader.text
    sizeB := ← f.required "size_b" Reader.nat64 }

end Asset

namespace Part

/-- Writes a part; fields without a value are left out. -/
def toDocument (p : Part) : Document :=
  .record <| ("type", .text p.kind.name) :: (presentField "text" p.text .text ++
    presentField "asset" p.asset Asset.toDocument ++
    presentField "filename" p.filename .text ++
    presentField "meta" p.metadata Json.objectToDocument)

/-- Reads a part. -/
def read : Reader Part := fun levels d => do
  let f ← fields? ["type", "text", "asset", "filename", "meta"] levels d
  return {
    kind := ← f.required "type" PartKind.read
    text := ← f.withDefault "text" none (Reader.optional Reader.text)
    asset := ← f.withDefault "asset" none (Reader.optional Asset.read)
    filename := ← f.withDefault "filename" none (Reader.optional Reader.text)
    metadata := ← f.withDefault "meta" none (Reader.optional Reader.object) }

end Part

end Colloquy
