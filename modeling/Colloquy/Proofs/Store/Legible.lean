import Colloquy.Proofs.Part
import Colloquy.Proofs.Store.Origin
import Colloquy.Proofs.Store.Scope

/-!
# Stores whose rows can be read

A written row can be read if the JSON texts in it can (`Legible`); its other cells always can. What
an operation writes can be read if it fits the levels that reading has (`Operation.Fits`), and then
what could be read before an operation can be read after it (`Legible.perform`). Messages are
watched in some sessions only: a message that cannot be read is in the way of its own session and of
no other.
-/

namespace Colloquy

open Json (Reader)

/-! ### Cells -/

namespace Cell

/-- A cell with a JSON text that can be read. -/
def Legible {α : Type} (read : Reader α) (c : Cell) : Prop :=
  ∃ v, ∀ column, c.json? column read = .ok v

/-- A cell with the same content can be read as well. -/
lemma Legible.of_eq {α : Type} {read : Reader α} {c c' : Cell} (heq : c' = c) (h : c.Legible read) :
    c'.Legible read :=
  heq ▸ h

/-- The cell of a written document is read as what the document is read as. -/
lemma json?_text {α : Type} {read : Reader α} {d : Json.Document} {v : α} (hd : d.WellFormed)
    (hread : read Json.maxLevels d = some v) (column : Nat) :
    (Cell.text d.compact).json? column read = .ok v := by
  simp only [json?, convert?, text?, Json.ofString?_compact_bind hd, hread]

/-- The cell of a written document can be read if the document can. -/
lemma legible_text {α : Type} {read : Reader α} {d : Json.Document} {v : α}
    (hd : d.WellFormed) (hread : read Json.maxLevels d = some v) :
    (Cell.text d.compact).Legible read :=
  ⟨v, json?_text hd hread⟩

/-- The cell of a free object that fits can be read. -/
lemma legible_ofObject {fields : JsonObject} (h : Json.Fits Json.maxLevels (.object fields)) :
    (Cell.ofObject fields).Legible Reader.object :=
  legible_text (Json.toDocument_wellFormed (.object fields))
    (Json.objectOfDocument?_objectToDocument h)

/-- The cell of parts that fit can be read. -/
lemma legible_ofParts {parts : List Part} (h : ∀ p ∈ parts, p.Fits (Json.maxLevels - 2)) :
    (Cell.ofParts parts).Legible Part.listReader :=
  legible_text (Part.listToDocument_wellFormed parts) (Part.listReader_listToDocument h)

/-- The cell of a time can be read. -/
lemma exists_instant? {t : Instant} {c : Cell} (h : ofInstant t = .ok c) (column : Nat) :
    ∃ t', c.instant? column = .ok t' := by
  obtain ⟨n, -, rfl⟩ := ofInstant_eq_ok_iff.mp h
  exact ⟨_, instant?_integer column n⟩

/-- The cell of a truth value is read as that value. -/
lemma bool?_ofBool (b : Bool) (column : Nat) : (ofBool b).bool? column = .ok b := by
  cases b <;> rfl

/-- The name of a label can be read. -/
lemma label?_name {α : Type} {parse : String → Except UnknownLabel α} {s : String} {label : α}
    (h : parse s = .ok label) (column : Nat) : (Cell.text s).label? column parse = .ok label := by
  simp [label?, convert?, text?, h, Except.toOption]

end Cell

/-- The name of a status is parsed as that status. -/
lemma TaskStatus.parse_name (status : TaskStatus) : parse status.name = .ok status := by
  cases status <;> rfl

/-- The name of a role is parsed as that role. -/
lemma MessageRole.parse_name (role : MessageRole) : parse role.name = .ok role := by
  cases role <;> rfl

/-! ### Rows -/

/-- A row of which all JSON texts can be read. -/
def SpaceRow.Legible (r : SpaceRow) : Prop := r.configs.Legible Reader.object

/-- A row of which all JSON texts can be read. -/
def SessionRow.Legible (r : SessionRow) : Prop := r.configs.Legible Reader.object

/-- A row of which all JSON texts can be read. -/
structure MessageRow.Legible (r : MessageRow) : Prop where
  metadata : r.metadata.Legible Reader.object
  parts : r.parts.Legible Part.listReader

/-- A row of which all JSON texts can be read. -/
def TaskRow.Legible (r : TaskRow) : Prop := r.data.Legible Reader.object

/-- A written space can be read if its JSON texts can. -/
lemma SpaceRow.exists_read {r : SpaceRow} (hr : Row.Written r) (h : r.Legible) :
    ∃ a, r.read = .ok a := by
  obtain ⟨a, ha⟩ := hr
  obtain ⟨configs, hconfigs⟩ := h
  obtain ⟨hid, hproject, -, hcreated, hupdated⟩ := Space.toRow_eq_ok_iff.mp ha
  obtain ⟨createdAt, hcreated⟩ := Cell.exists_instant? hcreated 3
  obtain ⟨updatedAt, hupdated⟩ := Cell.exists_instant? hupdated 4
  refine ⟨⟨a.id, a.projectId, configs, createdAt, updatedAt⟩, SpaceRow.read_eq_ok_iff.mpr ?_⟩
  rw [hid, hproject]
  exact ⟨Cell.uuid?_ofUuid _ _, Cell.uuid?_ofUuid _ _, hconfigs _, hcreated, hupdated⟩

/-- A written session can be read if its JSON texts can. -/
lemma SessionRow.exists_read {r : SessionRow} (hr : Row.Written r) (h : r.Legible) :
    ∃ a, r.read = .ok a := by
  obtain ⟨a, ha⟩ := hr
  obtain ⟨configs, hconfigs⟩ := h
  obtain ⟨hid, hproject, hspace, -, hcreated, hupdated⟩ := Session.toRow_eq_ok_iff.mp ha
  obtain ⟨createdAt, hcreated⟩ := Cell.exists_instant? hcreated 4
  obtain ⟨updatedAt, hupdated⟩ := Cell.exists_instant? hupdated 5
  refine ⟨⟨a.id, a.projectId, a.spaceId, configs, createdAt, updatedAt⟩,
    SessionRow.read_eq_ok_iff.mpr ?_⟩
  rw [hid, hproject, hspace]
  exact ⟨Cell.uuid?_ofUuid _ _, Cell.uuid?_ofUuid _ _, Cell.optionalUuid?_ofUuid? _ _, hconfigs _,
    hcreated, hupdated⟩

/-- A written message can be read if its JSON texts can. -/
lemma MessageRow.exists_read {r : MessageRow} (hr : Row.Written r) (h : r.Legible) :
    ∃ a, r.read = .ok a := by
  obtain ⟨a, ha⟩ := hr
  obtain ⟨metadata, hmetadata⟩ := h.metadata
  obtain ⟨parts, hparts⟩ := h.parts
  obtain ⟨hid, hsession, hparent, hrole, -, -, htask, hstatus, hcreated, hupdated⟩ :=
    Message.toRow_eq_ok_iff.mp ha
  obtain ⟨createdAt, hcreated⟩ := Cell.exists_instant? hcreated 8
  obtain ⟨updatedAt, hupdated⟩ := Cell.exists_instant? hupdated 9
  refine ⟨⟨a.id, a.sessionId, a.parentId, a.role, metadata, parts, a.taskId, a.processStatus,
    createdAt, updatedAt⟩, MessageRow.read_eq_ok_iff.mpr ?_⟩
  rw [hid, hsession, hparent, hrole, htask, hstatus]
  exact ⟨Cell.uuid?_ofUuid _ _, Cell.uuid?_ofUuid _ _, Cell.optionalUuid?_ofUuid? _ _,
    Cell.label?_name a.role.parse_name _, hmetadata _, hparts _, Cell.optionalUuid?_ofUuid? _ _,
    Cell.label?_name a.processStatus.parse_name _, hcreated, hupdated⟩

/-- A written task can be read if its JSON texts can. -/
lemma TaskRow.exists_read {r : TaskRow} (hr : Row.Written r) (h : r.Legible) :
    ∃ a, r.read = .ok a := by
  obtain ⟨a, ha⟩ := hr
  obtain ⟨data, hdata⟩ := h
  obtain ⟨hid, hsession, horder, -, hstatus, hplanning, hdigested, hcreated, hupdated⟩ :=
    Task.toRow_eq_ok_iff.mp ha
  obtain ⟨createdAt, hcreated⟩ := Cell.exists_instant? hcreated 7
  obtain ⟨updatedAt, hupdated⟩ := Cell.exists_instant? hupdated 8
  refine ⟨⟨a.id, a.sessionId, a.order, data, a.status, a.isPlanning, a.spaceDigested, createdAt,
    updatedAt⟩, TaskRow.read_eq_ok_iff.mpr ?_⟩
  rw [hid, hsession, horder, hstatus, hplanning, hdigested]
  exact ⟨Cell.uuid?_ofUuid _ _, Cell.uuid?_ofUuid _ _, rfl, hdata _,
    Cell.label?_name a.status.parse_name _, Cell.bool?_ofBool _ _, Cell.bool?_ofBool _ _, hcreated,
    hupdated⟩

/-- A written disk can be read. -/
lemma DiskRow.exists_read {r : DiskRow} (hr : Row.Written r) : ∃ a, r.read = .ok a := by
  obtain ⟨a, ha⟩ := hr
  obtain ⟨hid, hproject, hcreated, hupdated⟩ := Disk.toRow_eq_ok_iff.mp ha
  obtain ⟨createdAt, hcreated⟩ := Cell.exists_instant? hcreated 2
  obtain ⟨updatedAt, hupdated⟩ := Cell.exists_instant? hupdated 3
  refine ⟨⟨a.id, a.projectId, createdAt, updatedAt⟩, DiskRow.read_eq_ok_iff.mpr ?_⟩
  rw [hid, hproject]
  exact ⟨Cell.uuid?_ofUuid _ _, Cell.uuid?_ofUuid _ _, hcreated, hupdated⟩

namespace Store

/-! ### Operations -/

/-- What an operation writes fits the levels that reading has; of messages only those of watched
sessions count. -/
def Operation.Fits (watched : Uuid → Prop) : Operation → Prop
  | .createSpace space => Json.Fits Json.maxLevels (.object space.configs)
  | .updateSpaceConfigs _ _ configs => Json.Fits Json.maxLevels (.object configs)
  | .createSession session => Json.Fits Json.maxLevels (.object session.configs)
  | .updateSessionConfigs _ _ configs => Json.Fits Json.maxLevels (.object configs)
  | .insertMessage message => watched message.sessionId →
    Json.Fits Json.maxLevels (.object message.metadata) ∧
      ∀ p ∈ message.parts, p.Fits (Json.maxLevels - 2)
  | .insertTask task => Json.Fits Json.maxLevels (.object task.data)
  | _ => True

/-- All rows can be read, but for messages of sessions that are not watched. -/
structure Legible (watched : Uuid → Prop) (s : Store) : Prop where
  spaces : ∀ r ∈ s.spaces, r.Legible
  sessions : ∀ r ∈ s.sessions, r.Legible
  messages : ∀ r ∈ s.messages, ∀ id, watched id → r.sessionId = .ofUuid id → r.Legible
  tasks : ∀ r ∈ s.tasks, r.Legible

variable {s s' : Store} {watched : Uuid → Prop} {op : Operation}

/-- All rows of a store without rows can be read. -/
lemma Legible.empty : Store.empty.Legible watched :=
  ⟨by simp [Store.empty], by simp [Store.empty], by simp [Store.empty], by simp [Store.empty]⟩

/-- What could be read can be read after an operation whose values fit. -/
theorem Legible.perform (h : s.Legible watched) (hs : s.WellFormed) (hfits : op.Fits watched)
    (hop : s.perform op = .ok s') : s'.Legible watched := by
  refine ⟨fun r' hr' => ?_, fun r' hr' => ?_, fun r' hr' id hid hsession => ?_, fun r' hr' => ?_⟩
  · rcases origin_of_space hop hr' with ⟨r, hr, -, hsame | ⟨now, id, configs, rfl, hnew⟩⟩ |
      ⟨space, rfl, hrow⟩
    · exact Cell.Legible.of_eq hsame (h.spaces r hr)
    · exact Cell.Legible.of_eq hnew (Cell.legible_ofObject hfits)
    · obtain ⟨-, -, hconfigs, -⟩ := Space.toRow_eq_ok_iff.mp hrow
      exact Cell.Legible.of_eq hconfigs (Cell.legible_ofObject hfits)
  · rcases origin_of_session hs hop hr' with ⟨r, hr, -, hsame | ⟨now, id, configs, rfl, hnew⟩⟩ |
      ⟨session, rfl, hrow⟩
    · exact Cell.Legible.of_eq hsame (h.sessions r hr)
    · exact Cell.Legible.of_eq hnew (Cell.legible_ofObject hfits)
    · obtain ⟨-, -, -, hconfigs, -⟩ := Session.toRow_eq_ok_iff.mp hrow
      exact Cell.Legible.of_eq hconfigs (Cell.legible_ofObject hfits)
  · rcases origin_of_message hs hop hr' with ⟨r, hr, hrest⟩ | ⟨message, parentId, rfl, hrow⟩
    · obtain ⟨hmetadata, hparts⟩ := h.messages r hr id hid (hrest.sessionId ▸ hsession)
      exact ⟨hrest.metadata ▸ hmetadata, hrest.parts ▸ hparts⟩
    · obtain ⟨-, hrow, -, -, hmetadata, hparts, -⟩ := Message.toRow_eq_ok_iff.mp hrow
      obtain rfl := Cell.ofUuid_injective (hsession.symm.trans hrow)
      obtain ⟨hfits, hfitting⟩ := hfits hid
      exact ⟨hmetadata ▸ Cell.legible_ofObject hfits, hparts ▸ Cell.legible_ofParts hfitting⟩
  · rcases origin_of_task hs hop hr' with ⟨r, hr, hrest⟩ | ⟨task, rfl, hrow⟩
    · exact Cell.Legible.of_eq hrest.data (h.tasks r hr)
    · obtain ⟨-, -, -, hdata, -⟩ := Task.toRow_eq_ok_iff.mp hrow
      exact Cell.Legible.of_eq hdata (Cell.legible_ofObject hfits)

/-- The rows of a scope can be read, unless they are messages of a session that is not watched. -/
lemma Legible.exists_read (h : s.Legible watched) (hs : s.WellFormed) {scope : Scope}
    (hscope : ∀ id, scope = .messages id → watched id) :
    ∀ r ∈ s.rows scope, ∃ a, Row.read r = .ok a := by
  intro r hr
  obtain ⟨hr, hselects⟩ := List.mem_filter.mp hr
  have hwritten := (hs.table scope).written r hr
  cases scope with
  | spaces => exact SpaceRow.exists_read hwritten (h.spaces r hr)
  | sessions => exact SessionRow.exists_read hwritten (h.sessions r hr)
  | messages id =>
    exact MessageRow.exists_read hwritten (h.messages r hr id (hscope id rfl) (eq_of_beq hselects))
  | tasks => exact TaskRow.exists_read hwritten (h.tasks r hr)
  | disks => exact DiskRow.exists_read hwritten

end Store

end Colloquy
