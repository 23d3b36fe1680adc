import Colloquy.Proofs.Record.Field

/-!
# Records that come back

Each record is read back from how it is written, if its free objects hold no doubles and fit the
levels that are left for them and its numbers fit their width (`read_toDocument`); its times come
back as they are written. What is read is always such a record, doubles apart (`fits_of_read`), and
its times are written as what they are. It is written no deeper than the levels allow
(`depth_toDocument_le_iff`). The records differ in what they hold: a free object of their own takes
one level, and parts in a list take three.
-/

namespace Colloquy

open Json (Document Reader Fields fields?)

/-- How a record that is read from its fields is taken apart. -/
lemma exists_of_fields?_bind {α : Type} {names : List String} {levels : Nat} {d : Document} {v : α}
    {rest : Fields → Option α} (h : (fields? names (levels + 1) d).bind rest = some v) :
    ∃ f : Fields, f.levels = levels ∧ rest f = some v := by
  obtain ⟨f, hf, hrest⟩ := Option.bind_eq_some_iff.mp h
  exact ⟨f, Json.levels_of_fields? hf, hrest⟩

namespace Space

/-- A space that is written is read with the times that are written. -/
theorem read_toDocument {levels : Nat} {s : Space} (hconfigs : Json.Plain levels s.configs) :
    read (levels + 1) s.toDocument = some (s.mapTimes Instant.asWritten) := by
  have hfields : fields? ["id", "project_id", "configs", "created_at", "updated_at"] (levels + 1)
      s.toDocument = some ⟨levels, _⟩ := Json.fields?_record (List.Sublist.refl _) (by decide)
  -- each field is found under its name and read back
  unfold read
  rw [hfields]
  simp [Fields.required, Fields.withDefault, Fields.get?, List.lookup_cons, mapTimes,
    hconfigs.object_objectToDocument]

/-- The configuration of a space that is read fits the levels that are left for it, and its times
lie within leap seconds only at the end of a minute. -/
theorem fits_of_read {levels : Nat} {d : Document} {s : Space} (h : read (levels + 2) d = some s) :
    Json.Fits (levels + 1) (.object s.configs) ∧
      s.createdAt.LeapEndsMinute ∧ s.updatedAt.LeapEndsMinute := by
  obtain ⟨f, hlevels, h⟩ := exists_of_fields?_bind h
  simp only [Option.bind_eq_bind, Option.bind_eq_some_iff, Option.pure_def, Option.some.injEq] at h
  obtain ⟨id, -, projectId, -, configs, hconfigs, createdAt, hcreated, updatedAt, hupdated,
    rfl⟩ := h
  exact ⟨Json.fits_of_withDefault hlevels hconfigs, Json.leapEndsMinute_of_required hcreated,
    Json.leapEndsMinute_of_required hupdated⟩

/-- A written space nests one level deeper than its configuration. -/
lemma depth_toDocument_le_iff {levels : Nat} {s : Space} : s.toDocument.depth ≤ levels + 1 ↔
    (Json.objectToDocument s.configs).depth ≤ levels := by
  simp [toDocument, Document.depth_record_le_iff]

/-- A written space is a document that can be printed. -/
lemma toDocument_wellFormed (s : Space) : s.toDocument.WellFormed :=
  Json.record_wellFormed (by simp)

end Space

namespace Session

/-- A session that is written is read with the times that are written. -/
theorem read_toDocument {levels : Nat} {s : Session} (hconfigs : Json.Plain levels s.configs) :
    read (levels + 1) s.toDocument = some (s.mapTimes Instant.asWritten) := by
  have hfields : fields? ["id", "project_id", "space_id", "configs", "created_at", "updated_at"]
      (levels + 1) s.toDocument = some ⟨levels, _⟩ :=
    Json.fields?_record (List.Sublist.refl _) (by decide)
  unfold read
  rw [hfields]
  simp [Fields.required, Fields.withDefault, Fields.get?, List.lookup_cons, mapTimes,
    hconfigs.object_objectToDocument]

/-- The configuration of a session that is read fits the levels that are left for it, and its times
lie within leap seconds only at the end of a minute. -/
theorem fits_of_read {levels : Nat} {d : Document} {s : Session}
    (h : read (levels + 2) d = some s) :
    Json.Fits (levels + 1) (.object s.configs) ∧
      s.createdAt.LeapEndsMinute ∧ s.updatedAt.LeapEndsMinute := by
  obtain ⟨f, hlevels, h⟩ := exists_of_fields?_bind h
  simp only [Option.bind_eq_bind, Option.bind_eq_some_iff, Option.pure_def, Option.some.injEq] at h
  obtain ⟨id, -, projectId, -, spaceId, -, configs, hconfigs, createdAt, hcreated, updatedAt,
    hupdated, rfl⟩ := h
  exact ⟨Json.fits_of_withDefault hlevels hconfigs, Json.leapEndsMinute_of_required hcreated,
    Json.leapEndsMinute_of_required hupdated⟩

/-- A written session nests one level deeper than its configuration. -/
lemma depth_toDocument_le_iff {levels : Nat} {s : Session} : s.toDocument.depth ≤ levels + 1 ↔
    (Json.objectToDocument s.configs).depth ≤ levels := by
  simp [toDocument, Document.depth_record_le_iff]

/-- A written session is a document that can be printed. -/
lemma toDocument_wellFormed (s : Session) : s.toDocument.WellFormed :=
  Json.record_wellFormed (by simp)

end Session

namespace Task

/-- A task that is written is read with the times that are written. -/
theorem read_toDocument {levels : Nat} {t : Task} (hdata : Json.Plain levels t.data)
    (horder : Decimal.InInt64 t.order) :
    read (levels + 1) t.toDocument = some (t.mapTimes Instant.asWritten) := by
  have hfields : fields? ["id", "session_id", "order", "data", "status", "is_planning",
      "space_digested", "created_at", "updated_at"] (levels + 1) t.toDocument = some ⟨levels, _⟩ :=
    Json.fields?_record (List.Sublist.refl _) (by decide)
  unfold read
  rw [hfields]
  simp [Fields.required, Fields.withDefault, Fields.get?, List.lookup_cons, mapTimes,
    Reader.int64_int horder, hdata.object_objectToDocument]

/-- The data of a task that is read fits the levels that are left for it, its place has 64 bits, and
its times lie within leap seconds only at the end of a minute. -/
theorem fits_of_read {levels : Nat} {d : Document} {t : Task} (h : read (levels + 2) d = some t) :
    (Json.Fits (levels + 1) (.object t.data) ∧ Decimal.InInt64 t.order) ∧
      t.createdAt.LeapEndsMinute ∧ t.updatedAt.LeapEndsMinute := by
  obtain ⟨f, hlevels, h⟩ := exists_of_fields?_bind h
  simp only [Option.bind_eq_bind, Option.bind_eq_some_iff, Option.pure_def, Option.some.injEq] at h
  obtain ⟨id, -, sessionId, -, order, horder, data, hdata, status, -, isPlanning, -,
    spaceDigested, -, createdAt, hcreated, updatedAt, hupdated, rfl⟩ := h
  obtain ⟨n, -, hread⟩ := Option.bind_eq_some_iff.mp horder
  exact ⟨⟨Json.fits_of_withDefault hlevels hdata, Reader.inInt64_of_int64 hread⟩,
    Json.leapEndsMinute_of_required hcreated, Json.leapEndsMinute_of_required hupdated⟩

/-- A written task nests one level deeper than its data. -/
lemma depth_toDocument_le_iff {levels : Nat} {t : Task} : t.toDocument.depth ≤ levels + 1 ↔
    (Json.objectToDocument t.data).depth ≤ levels := by
  simp [toDocument, Document.depth_record_le_iff]

/-- A written task is a document that can be printed. -/
lemma toDocument_wellFormed (t : Task) : t.toDocument.WellFormed :=
  Json.record_wellFormed (by simp [Json.int_wellFormed])

end Task

namespace Part

/-- A part without doubles is read back. -/
lemma Plain.read_toDocument {levels : Nat} {p : Part} (h : p.Plain levels) :
    read (levels + 1) p.toDocument = some p := by
  rw [Part.read_toDocument h.fits, h.reread_eq_self]

/-- A written part nests one level deeper than its asset and its metadata. -/
lemma depth_toDocument_le_iff {levels : Nat} {p : Part} : p.toDocument.depth ≤ levels + 1 ↔
    (∀ a ∈ p.asset, 0 < levels) ∧
      ∀ fields ∈ p.metadata, (Json.objectToDocument fields).depth ≤ levels := by
  have hasset : ∀ a : Asset, a.toDocument.depth ≤ levels ↔ 0 < levels := by
    intro a
    cases levels with
    | zero => simp [Asset.toDocument, Document.record, Document.depth]
    | succ levels => simp [Asset.toDocument, Document.depth_record_le_iff]
  rw [toDocument, Document.depth_record_le_iff]
  simp only [List.forall_mem_cons, List.forall_mem_append, forall_mem_presentField, hasset,
    Document.depth_text, Nat.zero_le, implies_true, true_and, and_true]

/-- A part fits the levels that it is written with. -/
lemma fits_iff {levels : Nat} {p : Part} : p.Fits levels ↔
    p.InRange ∧ (∀ fields ∈ p.objects, Json.Legal (.object fields)) ∧
      p.toDocument.depth ≤ levels + 1 := by
  simp only [depth_toDocument_le_iff, objects, Option.mem_toList]
  constructor
  · intro h
    have hmeta : ∀ fields, p.metadata = some fields → Json.Legal (.object fields) ∧
        (Json.objectToDocument fields).depth ≤ levels := by
      intro fields hfields
      exact Json.fits_iff.mp (h.metadata fields hfields)
    exact ⟨fun a ha => (h.asset a ha).2, fun fields hfields => (hmeta fields hfields).1,
      fun a ha => (h.asset a ha).1, fun fields hfields => (hmeta fields hfields).2⟩
  · rintro ⟨hrange, hlegal, hpos, hdepth⟩
    constructor
    · intro a ha
      exact ⟨hpos a ha, hrange a ha⟩
    · intro fields hfields
      exact Json.fits_iff.mpr ⟨hlegal fields hfields, hdepth fields hfields⟩

/-- Parts without doubles are read back from the array of them. -/
lemma listReader_listToDocument_of_plain {levels : Nat} {parts : List Part}
    (h : ∀ p ∈ parts, p.Plain levels) :
    listReader (levels + 2) (listToDocument parts) = some parts := by
  have hread := Reader.list_map (f := id) fun p hp => (h p hp).read_toDocument
  rwa [List.map_id] at hread

/-- The written list of parts nests one level deeper than its parts. -/
lemma depth_listToDocument_le_iff {levels : Nat} {parts : List Part} :
    (listToDocument parts).depth ≤ levels + 1 ↔ ∀ p ∈ parts, p.toDocument.depth ≤ levels := by
  rw [listToDocument, Document.depth_array_le_iff, List.forall_mem_map]

/-- What is read of parts fits the levels that are left for them. -/
lemma fits_of_listReader {levels : Nat} {d : Document} {parts : List Part}
    (h : listReader (levels + 2) d = some parts) : ∀ p ∈ parts, p.Fits levels := by
  intro p hp
  obtain ⟨d, hread⟩ := Reader.exists_of_mem_list h p hp
  exact fits_of_read hread

end Part

namespace Message

/-- A message that is written is read with the times that are written. -/
theorem read_toDocument {levels : Nat} {m : Message} (hmeta : Json.Plain (levels + 2) m.metadata)
    (hparts : ∀ p ∈ m.parts, p.Plain levels) :
    read (levels + 3) m.toDocument = some (m.mapTimes Instant.asWritten) := by
  have hfields : fields? ["id", "session_id", "parent_id", "role", "meta", "parts", "task_id",
      "session_task_process_status", "created_at", "updated_at"] (levels + 3) m.toDocument =
        some ⟨levels + 2, _⟩ := Json.fields?_record (List.Sublist.refl _) (by decide)
  unfold read
  rw [hfields]
  simp [Fields.required, Fields.withDefault, Fields.get?, List.lookup_cons, mapTimes,
    hmeta.object_objectToDocument, Part.listReader_listToDocument_of_plain hparts]

/-- The metadata and the parts of a message that is read fit the levels that are left for them, and
its times lie within leap seconds only at the end of a minute. -/
theorem fits_of_read {levels : Nat} {d : Document} {m : Message}
    (h : read (levels + 3) d = some m) :
    (Json.Fits (levels + 2) (.object m.metadata) ∧ ∀ p ∈ m.parts, p.Fits levels) ∧
      m.createdAt.LeapEndsMinute ∧ m.updatedAt.LeapEndsMinute := by
  obtain ⟨f, hlevels, h⟩ := exists_of_fields?_bind h
  simp only [Option.bind_eq_bind, Option.bind_eq_some_iff, Option.pure_def, Option.some.injEq] at h
  obtain ⟨id, -, sessionId, -, parentId, -, role, -, metadata, hmeta, parts, hparts, taskId, -,
    processStatus, -, createdAt, hcreated, updatedAt, hupdated, rfl⟩ := h
  obtain ⟨items, -, hread⟩ := Option.bind_eq_some_iff.mp hparts
  rw [hlevels] at hread
  exact ⟨⟨Json.fits_of_withDefault hlevels hmeta, Part.fits_of_listReader hread⟩,
    Json.leapEndsMinute_of_required hcreated, Json.leapEndsMinute_of_required hupdated⟩

/-- A written message nests one level deeper than its metadata, and two deeper than its parts. -/
lemma depth_toDocument_le_iff {levels : Nat} {m : Message} : m.toDocument.depth ≤ levels + 3 ↔
    (Json.objectToDocument m.metadata).depth ≤ levels + 2 ∧
      ∀ p ∈ m.parts, p.toDocument.depth ≤ levels + 1 := by
  simp [toDocument, Document.depth_record_le_iff, Part.depth_listToDocument_le_iff]

/-- A written message is a document that can be printed. -/
lemma toDocument_wellFormed (m : Message) : m.toDocument.WellFormed :=
  Json.record_wellFormed (by simp [Part.listToDocument_wellFormed])

end Message

namespace SendMessage

/-- A message that is handed in is read as it is written. -/
theorem read_toDocument {levels : Nat} {m : SendMessage}
    (hmeta : Json.Plain (levels + 2) m.metadata) (hparts : ∀ p ∈ m.parts, p.Plain levels) :
    read (levels + 3) m.toDocument = some m := by
  have hfields : fields? ["project_id", "session_id", "role", "parts", "meta"] (levels + 3)
      m.toDocument = some ⟨levels + 2, _⟩ :=
    Json.fields?_record (List.Sublist.refl _) (by decide)
  unfold read
  rw [hfields]
  simp [Fields.required, Fields.withDefault, Fields.get?, List.lookup_cons,
    hmeta.object_objectToDocument, Part.listReader_listToDocument_of_plain hparts]

/-- The free objects of a message that was read fit the levels that are left for them. -/
theorem fits_of_read {levels : Nat} {d : Document} {m : SendMessage}
    (h : read (levels + 3) d = some m) :
    Json.Fits (levels + 2) (.object m.metadata) ∧ ∀ p ∈ m.parts, p.Fits levels := by
  obtain ⟨f, hlevels, h⟩ := exists_of_fields?_bind h
  simp only [Option.bind_eq_bind, Option.bind_eq_some_iff, Option.pure_def, Option.some.injEq] at h
  obtain ⟨projectId, -, sessionId, -, role, -, parts, hparts, metadata, hmeta, rfl⟩ := h
  obtain ⟨items, -, hread⟩ := Option.bind_eq_some_iff.mp hparts
  rw [hlevels] at hread
  exact ⟨Json.fits_of_withDefault hlevels hmeta, Part.fits_of_listReader hread⟩

/-- A written message that is handed in nests like a stored one. -/
lemma depth_toDocument_le_iff {levels : Nat} {m : SendMessage} :
    m.toDocument.depth ≤ levels + 3 ↔ (Json.objectToDocument m.metadata).depth ≤ levels + 2 ∧
      ∀ p ∈ m.parts, p.toDocument.depth ≤ levels + 1 := by
  simp [toDocument, Document.depth_record_le_iff, Part.depth_listToDocument_le_iff, and_comm]

/-- A written message that is handed in is a document that can be printed. -/
lemma toDocument_wellFormed (m : SendMessage) : m.toDocument.WellFormed :=
  Json.record_wellFormed (by simp [Part.listToDocument_wellFormed])

end SendMessage

/-! ### Records without free objects -/

namespace Disk

/-- A disk that is written is read with the times that are written. -/
theorem read_toDocument (d : Disk) (levels : Nat) :
    read (levels + 1) d.toDocument = some (d.mapTimes Instant.asWritten) := by
  have hfields : fields? ["id", "project_id", "created_at", "updated_at"] (levels + 1)
      d.toDocument = some ⟨levels, _⟩ := Json.fields?_record (List.Sublist.refl _) (by decide)
  unfold read
  rw [hfields]
  simp [Fields.required, Fields.get?, List.lookup_cons, mapTimes]

/-- The times of a disk that is read lie within leap seconds only at the end of a minute. -/
lemma leapEndsMinute_of_read {levels : Nat} {doc : Document} {d : Disk}
    (h : read levels doc = some d) : d.createdAt.LeapEndsMinute ∧ d.updatedAt.LeapEndsMinute := by
  simp only [read, Option.bind_eq_bind, Option.bind_eq_some_iff, Option.pure_def,
    Option.some.injEq] at h
  obtain ⟨f, -, id, -, projectId, -, createdAt, hcreated, updatedAt, hupdated, rfl⟩ := h
  exact ⟨Json.leapEndsMinute_of_required hcreated, Json.leapEndsMinute_of_required hupdated⟩

/-- A written disk nests one level deep. -/
lemma depth_toDocument_le (d : Disk) (levels : Nat) : d.toDocument.depth ≤ levels + 1 := by
  simp [toDocument, Document.depth_record_le_iff]

/-- A written disk is a document that can be printed. -/
lemma toDocument_wellFormed (d : Disk) : d.toDocument.WellFormed :=
  Json.record_wellFormed (by simp)

end Disk

namespace Asset

/-- A written asset nests one level deep. -/
lemma depth_toDocument_le (a : Asset) (levels : Nat) : a.toDocument.depth ≤ levels + 1 := by
  simp [toDocument, Document.depth_record_le_iff]

end Asset

namespace LearningStatus

/-- A learning status whose counts have 64 bits is read as it is written. -/
theorem read_toDocument {s : LearningStatus}
    (h : s.digested < 2 ^ 64 ∧ s.notDigested < 2 ^ 64) (levels : Nat) :
    read (levels + 1) s.toDocument = some s := by
  have hfields : fields? ["space_digested_count", "not_space_digested_count"] (levels + 1)
      s.toDocument = some ⟨levels, _⟩ := Json.fields?_record (List.Sublist.refl _) (by decide)
  unfold read
  rw [hfields]
  simp [Fields.required, Fields.get?, List.lookup_cons, Reader.nat64_int h.1, Reader.nat64_int h.2]

/-- The counts of a learning status that was read have 64 bits. -/
theorem lt_of_read {levels : Nat} {d : Document} {s : LearningStatus}
    (h : read levels d = some s) : s.digested < 2 ^ 64 ∧ s.notDigested < 2 ^ 64 := by
  simp only [read, Option.bind_eq_bind, Option.bind_eq_some_iff, Option.pure_def,
    Option.some.injEq] at h
  obtain ⟨f, -, digested, hdigested, notDigested, hnotDigested, rfl⟩ := h
  obtain ⟨n, -, hread⟩ := Option.bind_eq_some_iff.mp hdigested
  obtain ⟨n', -, hread'⟩ := Option.bind_eq_some_iff.mp hnotDigested
  exact ⟨Reader.nat64_lt hread, Reader.nat64_lt hread'⟩

/-- A written learning status nests one level deep. -/
lemma depth_toDocument_le (s : LearningStatus) (levels : Nat) :
    s.toDocument.depth ≤ levels + 1 := by
  simp [toDocument, Document.depth_record_le_iff]

/-- A written learning status is a document that can be printed. -/
lemma toDocument_wellFormed (s : LearningStatus) : s.toDocument.WellFormed :=
  Json.record_wellFormed (by simp [Json.int_wellFormed])

end LearningStatus

namespace MessageInserted

/-- An announcement is read as it is written. -/
theorem read_toDocument (e : MessageInserted) (levels : Nat) :
    read (levels + 1) e.toDocument = some e := by
  have hfields : fields? ["project_id", "session_id", "message_id"] (levels + 1) e.toDocument =
      some ⟨levels, _⟩ := Json.fields?_record (List.Sublist.refl _) (by decide)
  unfold read
  rw [hfields]
  simp [Fields.required, Fields.get?, List.lookup_cons]

/-- A written announcement nests one level deep. -/
lemma depth_toDocument_le (e : MessageInserted) (levels : Nat) :
    e.toDocument.depth ≤ levels + 1 := by
  simp [toDocument, Document.depth_record_le_iff]

/-- A written announcement is a document that can be printed. -/
lemma toDocument_wellFormed (e : MessageInserted) : e.toDocument.WellFormed :=
  Json.record_wellFormed (by simp)

end MessageInserted

namespace PagingLimits

/-- Limits of 32 bits are read as they are written. -/
theorem read_toDocument {l : PagingLimits} (h : l.defaultLimit < 2 ^ 32 ∧ l.maxLimit < 2 ^ 32)
    (levels : Nat) : read (levels + 1) l.toDocument = some l := by
  have hfields : fields? ["default_limit", "max_limit"] (levels + 1) l.toDocument =
      some ⟨levels, _⟩ := Json.fields?_record (List.Sublist.refl _) (by decide)
  unfold read
  rw [hfields]
  simp [Fields.withDefault, Fields.get?, List.lookup_cons, Reader.nat32_int h.1,
    Reader.nat32_int h.2]

/-- Limits that were read have 32 bits. -/
theorem lt_of_read {levels : Nat} {d : Document} {l : PagingLimits}
    (h : read levels d = some l) : l.defaultLimit < 2 ^ 32 ∧ l.maxLimit < 2 ^ 32 := by
  simp only [read, Option.bind_eq_bind, Option.bind_eq_some_iff, Option.pure_def,
    Option.some.injEq] at h
  obtain ⟨f, -, defaultLimit, hdefault, maxLimit, hmax, rfl⟩ := h
  exact ⟨Json.of_withDefault (p := (· < 2 ^ 32)) (by decide) (fun _ _ => Reader.nat32_lt) hdefault,
    Json.of_withDefault (p := (· < 2 ^ 32)) (by decide) (fun _ _ => Reader.nat32_lt) hmax⟩

/-- Written limits nest one level deep. -/
lemma depth_toDocument_le (l : PagingLimits) (levels : Nat) : l.toDocument.depth ≤ levels + 1 := by
  simp [toDocument, Document.depth_record_le_iff]

/-- Written limits are a document that can be printed. -/
lemma toDocument_wellFormed (l : PagingLimits) : l.toDocument.WellFormed :=
  Json.record_wellFormed (by simp [Json.int_wellFormed])

end PagingLimits

namespace PageRequest

open Colloquy.Part (presentField_sublist lookup_presentField withDefault_eq exists_of_withDefault)

/-- The fields of a request that are written. -/
def written (r : PageRequest) : List (String × Document) :=
  presentField "limit" r.limit (fun n => .int n) ++ presentField "cursor" r.cursor .text ++
    presentField "time_desc" r.timeDesc .bool

/-- Where the fields of a request are found. -/
lemma get?_written (r : PageRequest) (levels : Nat) :
    let f : Fields := ⟨levels, r.written⟩
    f.get? "limit" = r.limit.map (fun n => .int n) ∧ f.get? "cursor" = r.cursor.map .text ∧
      f.get? "time_desc" = r.timeDesc.map .bool := by
  dsimp only [Fields.get?]
  simp [written, List.lookup_append, lookup_presentField]

/-- A page request whose limit has 32 bits is read as it is written. -/
theorem read_toDocument {r : PageRequest} (h : ∀ n ∈ r.limit, n < 2 ^ 32) (levels : Nat) :
    read (levels + 1) r.toDocument = some r := by
  obtain ⟨hlimit, hcursor, htimeDesc⟩ := r.get?_written levels
  have hfields : fields? ["limit", "cursor", "time_desc"] (levels + 1) r.toDocument =
      some ⟨levels, r.written⟩ := by
    refine Json.fields?_record ?_ (by decide)
    simp only [List.map_append]
    exact ((presentField_sublist _ _ _).append (presentField_sublist _ _ _)).append
      (presentField_sublist _ _ _)
  have hlimit := withDefault_eq Reader.nat32 id hlimit fun n hn =>
    ⟨by simp [Document.int], Reader.nat32_int (h n hn) levels⟩
  have hcursor := withDefault_eq Reader.text id hcursor fun s _ => ⟨by simp [Document.text], rfl⟩
  have htimeDesc := withDefault_eq Reader.bool id htimeDesc fun b _ => ⟨by simp, rfl⟩
  unfold read
  rw [hfields]
  simp only [Option.bind_eq_bind, Option.bind_some, hlimit, hcursor, htimeDesc, Option.map_id, id,
    Option.pure_def]

/-- The limit of a page request that was read has 32 bits. -/
theorem lt_of_read {levels : Nat} {d : Document} {r : PageRequest} (h : read levels d = some r) :
    ∀ n ∈ r.limit, n < 2 ^ 32 := by
  simp only [read, Option.bind_eq_bind, Option.bind_eq_some_iff, Option.pure_def,
    Option.some.injEq] at h
  obtain ⟨f, -, limit, hlimit, cursor, -, timeDesc, -, rfl⟩ := h
  intro n hn
  obtain rfl : limit = some n := hn
  obtain ⟨d, hread⟩ := exists_of_withDefault hlimit
  exact Reader.nat32_lt hread

/-- A written page request nests one level deep. -/
lemma depth_toDocument_le (r : PageRequest) (levels : Nat) : r.toDocument.depth ≤ levels + 1 := by
  rw [toDocument, Document.depth_record_le_iff]
  simp only [List.forall_mem_append, forall_mem_presentField, Document.depth_text,
    Document.depth_int, Document.depth_bool, Nat.zero_le, implies_true, and_self]

/-- A written page request is a document that can be printed. -/
lemma toDocument_wellFormed (r : PageRequest) : r.toDocument.WellFormed := by
  refine Json.record_wellFormed ?_
  simp only [List.forall_mem_append, forall_mem_presentField, Json.wellFormed_text,
    Json.wellFormed_bool, Json.int_wellFormed, implies_true, and_self]

end PageRequest

namespace Page

variable {α β : Type} {write : α → Document} {p : Page α} {levels : Nat}

/-- The fields of a page that are written. -/
def written (write : α → Document) (p : Page α) : List (String × Document) :=
  [("items", .array (p.items.map write)), ("has_more", .bool p.hasMore)] ++
    presentField "next_cursor" p.nextCursor .text

/-- A page is read back item by item. -/
theorem read_toDocument {item : Reader β} {f : α → β}
    (h : ∀ v ∈ p.items, item levels (write v) = some (f v)) :
    read item (levels + 2) (p.toDocument write) =
      some ⟨p.items.map f, p.hasMore, p.nextCursor⟩ := by
  have hfields : fields? ["items", "has_more", "next_cursor"] (levels + 2) (p.toDocument write) =
      some ⟨levels + 1, p.written write⟩ := by
    refine Json.fields?_record ?_ (by decide)
    exact (List.Sublist.refl ["items", "has_more"]).append (Part.presentField_sublist _ _ _)
  have hitems : (⟨levels + 1, p.written write⟩ : Fields).required "items" (Reader.list item) =
      some (p.items.map f) := Reader.list_map h
  have hmore : (⟨levels + 1, p.written write⟩ : Fields).required "has_more" Reader.bool =
      some p.hasMore := rfl
  have hget : (⟨levels + 1, p.written write⟩ : Fields).get? "next_cursor" =
      p.nextCursor.map .text := by
    simp [Fields.get?, written, List.lookup_cons, Part.lookup_presentField]
  have hcursor := Part.withDefault_eq Reader.text id hget fun s _ =>
    ⟨by simp [Document.text], rfl⟩
  unfold read
  rw [hfields]
  simp only [Option.bind_eq_bind, Option.bind_some, hitems, hmore, hcursor, Option.map_id, id,
    Option.pure_def]

/-- Every item of a page was read. -/
lemma exists_of_mem_items {item : Reader α} {d : Document} (h : read item (levels + 2) d = some p) :
    ∀ v ∈ p.items, ∃ d, item levels d = some v := by
  obtain ⟨f, hlevels, h⟩ := exists_of_fields?_bind h
  simp only [Option.bind_eq_bind, Option.bind_eq_some_iff, Option.pure_def, Option.some.injEq] at h
  obtain ⟨items, hitems, hasMore, -, nextCursor, -, rfl⟩ := h
  obtain ⟨d, -, hread⟩ := Option.bind_eq_some_iff.mp hitems
  rw [hlevels] at hread
  exact Reader.exists_of_mem_list hread

/-- A written page nests two levels deeper than its items. -/
lemma depth_toDocument_le_iff : (p.toDocument write).depth ≤ levels + 2 ↔
    ∀ v ∈ p.items, (write v).depth ≤ levels := by
  rw [toDocument, Document.depth_record_le_iff]
  simp only [List.forall_mem_append, List.forall_mem_cons, List.not_mem_nil, false_implies,
    forall_mem_presentField, Document.depth_text, Document.depth_bool, Nat.zero_le, implies_true,
    and_true, Document.depth_array_le_iff, List.forall_mem_map]

/-- A written page is a document that can be printed if its items are. -/
lemma toDocument_wellFormed (h : ∀ v, (write v).WellFormed) : (p.toDocument write).WellFormed := by
  have hitems : (Document.array (p.items.map write)).WellFormed :=
    Json.items_wellFormed (by simpa using fun v _ => h v)
  refine Json.record_wellFormed ?_
  simp only [List.forall_mem_append, List.forall_mem_cons, List.not_mem_nil, false_implies,
    forall_mem_presentField, Json.wellFormed_text, Json.wellFormed_bool, implies_true, and_true,
    hitems]

end Page

end Colloquy
