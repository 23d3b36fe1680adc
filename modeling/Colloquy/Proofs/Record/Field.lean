import Colloquy.Proofs.Instant.Parse
import Colloquy.Proofs.Json.Depth
import Colloquy.Proofs.Part
import Colloquy.Proofs.Uuid
import Colloquy.Record.Kind

/-!
# Fields that are read back

How the value of each kind of field is read back from how it is written: identifiers, instants,
labels, lists and free objects. A list or a free object needs a level for itself, and what is read
of it fits the levels that were left for it.
-/

namespace Colloquy

open Json (Document Reader Fields fields?)

/-! ### Identifiers, instants and labels -/

/-- An id is read as it is written. -/
@[simp] lemma Uuid.reader_toDocument (levels : Nat) (id : Uuid) :
    Uuid.reader levels id.toDocument = some id := by
  rw [Uuid.reader, Uuid.toDocument, Document.text, Reader.text, Option.bind_some, Uuid.read?,
    Uuid.text, String.toList_ofList, Uuid.ofChars?_chars]

/-- A reference is read back, also one that is absent. -/
@[simp] lemma Uuid.optional_optionToDocument (levels : Nat) (id? : Option Uuid) :
    Reader.optional Uuid.reader levels (Uuid.optionToDocument id?) = some id? := by
  cases id? with
  | none => rfl
  | some id =>
    have hread := Uuid.reader_toDocument levels id
    rw [Uuid.toDocument, Document.text] at hread
    rw [Uuid.optionToDocument, Uuid.toDocument, Document.text, Reader.optional, hread]
    · rfl
    · simp

/-- An instant is read back as the one that its text names. -/
@[simp] lemma Instant.reader_toDocument (levels : Nat) (t : Instant) :
    Instant.reader levels t.toDocument = some t.asWritten := by
  rw [Instant.reader, Instant.toDocument, Document.text, Reader.text, Option.bind_some,
    Instant.read?_text]

/-- An instant and the one that its text names are written alike. -/
@[simp] lemma Instant.toDocument_asWritten (t : Instant) :
    t.asWritten.toDocument = t.toDocument := by
  rw [Instant.toDocument, Instant.text_asWritten, Instant.toDocument]

/-- The name of a role is read as that role. -/
@[simp] lemma MessageRole.read_name (levels : Nat) (role : MessageRole) :
    MessageRole.read levels (.text role.name) = some role := by
  cases role <;> rfl

/-- The name of a status is read as that status. -/
@[simp] lemma TaskStatus.read_name (levels : Nat) (status : TaskStatus) :
    TaskStatus.read levels (.text status.name) = some status := by
  cases status <;> rfl

namespace Json.Reader

/-- A text is read as that text. -/
@[simp] lemma text_text (levels : Nat) (s : String) : Reader.text levels (.text s) = some s := rfl

/-- A truth value is read as that truth value. -/
@[simp] lemma bool_bool (levels : Nat) (b : Bool) : Reader.bool levels (.bool b) = some b := rfl

/-! ### Lists -/

/-- Values are read from an array one by one. -/
lemma list_map {α β : Type} {read : Reader β} {write : α → Document} {f : α → β} {levels : Nat}
    {vs : List α} (h : ∀ v ∈ vs, read levels (write v) = some (f v)) :
    list read (levels + 1) (.array (vs.map write)) = some (vs.map f) := by
  change (vs.map write).mapM (read levels) = some (vs.map f)
  induction vs with
  | nil => rfl
  | cons v rest ih =>
    obtain ⟨hv, hrest⟩ := List.forall_mem_cons.mp h
    rw [List.map_cons, List.mapM_cons, hv, ih hrest]
    rfl

/-- Every value of a list was read. -/
lemma exists_of_mem_list {α : Type} {read : Reader α} {levels : Nat} {d : Document} {vs : List α}
    (h : list read (levels + 1) d = some vs) : ∀ v ∈ vs, ∃ d, read levels d = some v := by
  unfold list at h
  split at h
  next inner items heq =>
    obtain rfl := Nat.succ.inj heq
    induction items generalizing vs with
    | nil =>
      obtain rfl := Option.some.inj h
      simp
    | cons d rest ih =>
      rw [List.mapM_cons] at h
      obtain ⟨v, hv, h⟩ := Option.bind_eq_some_iff.mp h
      obtain ⟨ws, hws, h⟩ := Option.bind_eq_some_iff.mp h
      obtain rfl := Option.some.inj h
      exact List.forall_mem_cons.mpr ⟨⟨d, hv⟩, ih hws⟩
  next => simp at h

end Json.Reader

namespace Json

/-! ### Free objects -/

/-- A free object without doubles is read back. -/
lemma Plain.object_objectToDocument {levels : Nat} {fields : JsonObject} (h : Plain levels fields) :
    Reader.object levels (objectToDocument fields) = some fields := by
  rw [Reader.object, objectOfDocument?_objectToDocument h.fits, rereadFields_eq_self h.floatFree]

/-- What holds of the default of a field, and of every value that is read for it, holds of the value
that the field gives. -/
lemma of_withDefault {α : Type} {p : α → Prop} {f : Fields} {name : String} {default v : α}
    {read : Reader α} (hdefault : p default) (hread : ∀ d w, read f.levels d = some w → p w)
    (h : f.withDefault name default read = some v) : p v := by
  unfold Fields.withDefault at h
  split at h
  next d _ => exact hread d v h
  next => exact Option.some.inj h ▸ hdefault

/-- A time that is read for a field lies within a leap second only at the end of a minute. -/
lemma leapEndsMinute_of_required {f : Fields} {name : String} {t : Instant}
    (h : f.required name Instant.reader = some t) : t.LeapEndsMinute := by
  obtain ⟨d, -, hread⟩ := Option.bind_eq_some_iff.mp h
  obtain ⟨s, -, htext⟩ := Option.bind_eq_some_iff.mp hread
  exact Instant.leapEndsMinute_of_read? htext

/-- A free object that is read, or missing, fits the levels that are left for it. -/
lemma fits_of_withDefault {levels : Nat} {f : Fields} {name : String} {fields : JsonObject}
    (hlevels : f.levels = levels + 1) (h : f.withDefault name [] Reader.object = some fields) :
    Fits (levels + 1) (.object fields) := by
  refine of_withDefault (p := fun fields => Fits (levels + 1) (.object fields)) ?_ ?_ h
  · exact ⟨trivial, List.Pairwise.nil⟩
  · intro d fields hread
    exact hlevels ▸ fits_of_objectOfDocument? hread

/-! ### What is written -/

/-- A text can be printed. -/
@[simp] lemma wellFormed_text (s : String) : (Document.text s).WellFormed := trivial

/-- A truth value can be printed. -/
@[simp] lemma wellFormed_bool (b : Bool) : (Document.bool b).WellFormed := trivial

/-- A free object that is written can be printed. -/
@[simp] lemma wellFormed_objectToDocument (fields : JsonObject) :
    (objectToDocument fields).WellFormed :=
  toDocument_wellFormed (.object fields)

end Json

/-- An id that is written can be printed. -/
@[simp] lemma Uuid.wellFormed_toDocument (id : Uuid) : id.toDocument.WellFormed := trivial

/-- A reference that may be absent can be printed. -/
@[simp] lemma Uuid.wellFormed_optionToDocument (id? : Option Uuid) :
    (Uuid.optionToDocument id?).WellFormed := by
  cases id? <;> trivial

/-- An instant that is written can be printed. -/
@[simp] lemma Instant.wellFormed_toDocument (t : Instant) : t.toDocument.WellFormed := trivial

/-- An id that is written does not nest. -/
@[simp] lemma Uuid.depth_toDocument (id : Uuid) : id.toDocument.depth = 0 := rfl

/-- A reference that may be absent does not nest. -/
@[simp] lemma Uuid.depth_optionToDocument (id? : Option Uuid) :
    (Uuid.optionToDocument id?).depth = 0 := by
  cases id? <;> rfl

/-- An instant that is written does not nest. -/
@[simp] lemma Instant.depth_toDocument (t : Instant) : t.toDocument.depth = 0 := rfl

/-! ### Fields that can be left out -/

/-- What is said of a field that may be left out is said of its value, if it has one. -/
lemma forall_mem_presentField {α : Type} {name : String} {value : Option α} {write : α → Document}
    {p : String × Document → Prop} :
    (∀ f ∈ presentField name value write, p f) ↔ ∀ v ∈ value, p (name, write v) := by
  cases value <;> simp [presentField]

end Colloquy
