import Colloquy.Proofs.Store.Cascade
import Colloquy.Proofs.Store.Scope

/-!
# Operations that are refused

An operation that names a record which is not there is refused for that. The lemmas here say when
operations fail for another cause (`Store.Fails`): adding a record under a new id does not, unless
it is a task at a place that is taken; changing and removing records do not, unless it is a session
with too many messages; and looking records up does exactly if a row that is looked at cannot be
read.
-/

namespace Colloquy.Store

/-- An operation is refused for another cause than that a record is not there. -/
def Fails {α : Type} (x : Except StoreError α) (cause : StoreError) : Prop :=
  x = .error cause ∧ ∀ entity id, cause ≠ .notFound entity id

/-- An id that no row has. -/
structure IsNew (s : Store) (id : Uuid) : Prop where
  spaces : hasId (.ofUuid id) s.spaces = false
  sessions : hasId (.ofUuid id) s.sessions = false
  messages : hasId (.ofUuid id) s.messages = false
  tasks : hasId (.ofUuid id) s.tasks = false
  disks : hasId (.ofUuid id) s.disks = false

variable {s : Store} {cause : StoreError}

/-- What succeeds does not fail. -/
lemma not_fails_ok {α : Type} {x : Except StoreError α} (h : ∃ a, x = .ok a) : ¬Fails x cause := by
  obtain ⟨a, ha⟩ := h
  exact fun hfails => ne_error_of_ok ha hfails.1

/-- A sequence of operations fails exactly if the first one does, or what follows it. -/
lemma fails_bind_iff {α β : Type} {x : Except StoreError α} {f : α → Except StoreError β} :
    Fails (x >>= f) cause ↔ Fails x cause ∨ ∃ a, x = .ok a ∧ Fails (f a) cause :=
  bind_eq_error_and_iff

/-- What fails with another error than that a record is not there. -/
lemma fails_error_iff {α : Type} {e : StoreError} (he : ∀ entity id, e ≠ .notFound entity id) :
    Fails (.error e : Except StoreError α) cause ↔ cause = e := by
  unfold Fails
  rw [Except.error.injEq, eq_comm (a := e)]
  refine and_iff_left_of_imp ?_
  rintro rfl
  exact he

/-! ### Records that are looked up -/

section Lookup

variable {ρ α : Type} [Row ρ α] {rows : List ρ} {id : Uuid}

/-- A row that cannot be read is not a missing record. -/
lemma Unread.ne_notFound (h : Unread id rows cause) (entity : Entity) (missing : Uuid) :
    cause ≠ .notFound entity missing := by
  obtain ⟨fault, rfl, -⟩ := h
  simp

/-- Rows that can be read are not unread. -/
lemma not_unread (h : ∀ r ∈ rows, ∃ a, Row.read r = .ok a) : ¬Unread id rows cause := by
  rintro ⟨fault, -, r, hr, -, hread⟩
  obtain ⟨a, ha⟩ := h r hr
  exact ne_error_of_ok ha hread

variable [Keyed α] [StoredRow ρ α]

/-- Looking a record up fails exactly if its row is there and cannot be read. -/
lemma fails_find?_iff (h : IsTable rows) :
    Fails (Listing.find? id rows) cause ↔ Unread id rows cause := by
  unfold Fails
  rw [h.find?_eq_error_iff]
  exact and_iff_left_of_imp Unread.ne_notFound

/-- A reference to a record that was found is good. -/
lemma dangles_of_find? (h : IsTable rows) {a : α} (hfind : Listing.find? id rows = .ok (some a)) :
    dangles (.ofUuid id) rows = false := by
  obtain ⟨r, hr, hid, -⟩ := h.find?_eq_ok_some_iff.mp hfind
  exact dangles_eq_false_iff.mpr fun _ => ⟨r, hr, hid⟩

end Lookup

/-- A listing fails exactly if one of the rows that are fetched cannot be read. -/
lemma fails_list_iff (hs : s.WellFormed) {scope : Scope} {request : PageRequest}
    {limits : PagingLimits} {q : KeysetQuery} (hq : request.resolve limits = .ok q) :
    Fails (s.list scope q) cause ↔
      ∃ fault, Listing.FirstUnread (Listing.fetched q (s.rows scope)) fault ∧
        cause = .unreadable fault := by
  obtain ⟨hcounted, -⟩ := PageRequest.resolve_eq_ok hq
  unfold Fails
  rw [list_eq_page, Listing.page_eq_error_iff (hs.rows scope).written hcounted]
  refine and_iff_left_of_imp ?_
  rintro ⟨fault, -, rfl⟩
  simp

/-! ### Records that are changed or removed -/

/-- An operation that only has to find its record does not fail. -/
lemma not_fails_found {entity : Entity} {id : Uuid} {any : Bool} {s' : Store} :
    ¬Fails (found entity id any s') cause := by
  rintro ⟨h, hcause⟩
  unfold found at h
  split at h
  next => exact ne_error_of_ok rfl h
  next => exact hcause entity id (Except.error.inj h).symm

/-- Neither does one that notes its time as well. -/
lemma not_fails_update {now : Instant} {cell : Cell} (hnow : Cell.ofInstant now = .ok cell)
    {entity : Entity} {id : Uuid} {any : Bool} {change : Cell → Store} :
    ¬Fails (Cell.ofInstant now >>= fun updatedAt => found entity id any (change updatedAt))
      cause := by
  rw [hnow, ok_bind_eq]
  exact not_fails_found

/-- A session cannot be connected to a space that cannot be read. -/
lemma fails_connectSession_iff (hs : s.WellFormed) {now : Instant} {cell : Cell}
    (hnow : Cell.ofInstant now = .ok cell) {id spaceId : Uuid} :
    Fails (s.connectSession now id spaceId) cause ↔ Unread spaceId s.spaces cause := by
  unfold connectSession
  rw [fails_bind_iff, space?, fails_find?_iff hs.spaces]
  refine or_iff_left ?_
  rintro ⟨space, -, hfails⟩
  cases space with
  | none => exact hfails.2 _ _ (Except.error.inj hfails.1).symm
  | some space => exact not_fails_update hnow hfails

/-- A session with too many messages cannot be removed. -/
lemma fails_deleteSession_iff (h : s.Linked) (hs : s.WellFormed) {id : Uuid} :
    Fails (s.deleteSession id) cause ↔
      Deletion.maxNesting ≤ (s.messages.filter fun m => m.sessionId == .ofUuid id).length ∧
        cause = .violation .nesting := by
  rw [h.deleteSession_eq hs]
  split
  next hstored =>
    split
    next hfits =>
      exact iff_of_false (not_fails_ok ⟨_, rfl⟩) fun hdeep => Nat.not_le.mpr hfits hdeep.1
    next hdeep => rw [and_iff_right (Nat.not_lt.mp hdeep), fails_error_iff (by simp)]
  next hmissing =>
    constructor
    · rintro ⟨hrefused, hcause⟩
      exact absurd (Except.error.inj hrefused).symm (hcause _ _)
    · rintro ⟨hdeep, -⟩
      -- a session that has messages is stored
      have hsome : 0 < (s.messages.filter fun m => m.sessionId == .ofUuid id).length :=
        Nat.lt_of_lt_of_le (by decide) hdeep
      obtain ⟨m, hm⟩ := List.exists_mem_of_length_pos hsome
      obtain ⟨hm, hsession⟩ := List.mem_filter.mp hm
      obtain ⟨r, hr, hid⟩ := h.exists_session hs hm
      exact absurd (hasId_eq_true_iff.mpr ⟨r, hr, hid.trans (eq_of_beq hsession)⟩) hmissing

/-! ### Records that are added -/

section Adding

variable {id : Uuid} {now : Instant} {cell : Cell}

/-- A space under a new id can be made. -/
lemma exists_createSpace (hnow : Cell.ofInstant now = .ok cell) (hnew : s.IsNew id)
    (projectId : Uuid) (configs : JsonObject) :
    ∃ s', s.createSpace (.new id now projectId configs) = .ok s' :=
  ⟨_, createSpace_eq_ok_iff.mpr ⟨⟨.ofUuid id, .ofUuid projectId, .ofObject configs, cell, cell⟩,
    Space.toRow_eq_ok_iff.mpr ⟨rfl, rfl, rfl, hnow, hnow⟩, hnew.spaces, rfl⟩⟩

/-- A session is added if the space is stored that it is connected to. -/
lemma exists_createSession (hnow : Cell.ofInstant now = .ok cell) (hnew : s.IsNew id)
    {spaceId : Option Uuid} (hspace : dangles (.ofUuid? spaceId) s.spaces = false)
    (projectId : Uuid) (configs : JsonObject) :
    ∃ s', s.createSession (.new id now projectId spaceId configs) = .ok s' :=
  ⟨_, createSession_eq_ok_iff.mpr ⟨⟨.ofUuid id, .ofUuid projectId, .ofUuid? spaceId,
    .ofObject configs, cell, cell⟩, Session.toRow_eq_ok_iff.mpr ⟨rfl, rfl, rfl, rfl, hnow, hnow⟩,
    hnew.sessions, hspace, rfl⟩⟩

/-- A disk under a new id can be made. -/
lemma exists_createDisk (hnow : Cell.ofInstant now = .ok cell) (hnew : s.IsNew id)
    (projectId : Uuid) : ∃ s', s.createDisk (.new id now projectId) = .ok s' :=
  ⟨_, createDisk_eq_ok_iff.mpr ⟨⟨.ofUuid id, .ofUuid projectId, cell, cell⟩,
    Disk.toRow_eq_ok_iff.mpr ⟨rfl, rfl, hnow, hnow⟩, hnew.disks, rfl⟩⟩

/-- A new message is added to a stored session. -/
lemma WellFormed.exists_insertMessage_new (hs : s.WellFormed) (hnow : Cell.ofInstant now = .ok cell)
    (hnew : s.IsNew id) {sessionId : Uuid}
    (hsession : dangles (.ofUuid sessionId) s.sessions = false) (role : MessageRole)
    (parts : List Part) (metadata : JsonObject) :
    ∃ result, s.insertMessage (.new id now sessionId role parts metadata) = .ok result := by
  let message : Message := .new id now sessionId role parts metadata
  have hrow : message.toRow = .ok ⟨.ofUuid id, .ofUuid sessionId, .null, .text role.name,
      .ofObject metadata, .ofParts parts, .null, .text "pending", cell, cell⟩ :=
    Message.toRow_eq_ok_iff.mpr ⟨rfl, rfl, rfl, rfl, rfl, rfl, rfl, rfl, hnow, hnow⟩
  obtain ⟨parentId, hinsert⟩ := hs.exists_insertMessage hrow hnew.messages hsession (dangles_null _)
  exact ⟨_, hinsert⟩

/-- A task of the session has this place. -/
def IsTaken (s : Store) (sessionId : Uuid) (order : Int) : Prop :=
  ∃ t ∈ s.tasks, t.sessionId = .ofUuid sessionId ∧ t.order = .integer order

/-- The check of places finds a place exactly if it is taken. -/
lemma any_place_iff_isTaken {sessionId : Uuid} {order : Int} :
    (s.tasks.any fun r => r.sessionId == .ofUuid sessionId && r.order == .integer order) = true ↔
      s.IsTaken sessionId order := by
  simp [IsTaken]

/-- The row of a new task. -/
lemma toRow_newTask (id : Uuid) (hnow : Cell.ofInstant now = .ok cell) (sessionId : Uuid)
    (order : Int) (data : JsonObject) : (Task.new id now sessionId order data).toRow =
      .ok ⟨.ofUuid id, .ofUuid sessionId, .integer order, .ofObject data, .text "pending",
        .ofBool false, .ofBool false, cell, cell⟩ :=
  Task.toRow_eq_ok_iff.mpr ⟨rfl, rfl, rfl, rfl, rfl, rfl, rfl, hnow, hnow⟩

/-- A new task is added to a stored session at a place that is free. -/
lemma exists_insertTask_new (hnow : Cell.ofInstant now = .ok cell) (hnew : s.IsNew id)
    {sessionId : Uuid} (hsession : dangles (.ofUuid sessionId) s.sessions = false) {order : Int}
    (hfree : ¬s.IsTaken sessionId order) (data : JsonObject) :
    ∃ row, (Task.new id now sessionId order data).toRow = .ok row ∧
      s.insertTask (.new id now sessionId order data) =
        .ok { s with tasks := s.tasks ++ [row] } := by
  have hrow := toRow_newTask id hnow sessionId order data
  have hplace : (s.tasks.any fun r =>
      r.sessionId == .ofUuid sessionId && r.order == .integer order) = false :=
    Bool.eq_false_iff.mpr fun hany => hfree (any_place_iff_isTaken.mp hany)
  exact ⟨_, hrow, insertTask_eq_ok_iff.mpr ⟨_, hrow, hplace, hnew.tasks, hsession, rfl⟩⟩

/-- A task cannot be added at a place that is taken. -/
lemma fails_insertTask_iff (hnow : Cell.ofInstant now = .ok cell) (hnew : s.IsNew id)
    {sessionId : Uuid} (hsession : dangles (.ofUuid sessionId) s.sessions = false) (order : Int)
    (data : JsonObject) :
    Fails (s.insertTask (.new id now sessionId order data)) cause ↔
      s.IsTaken sessionId order ∧
        cause = .violation (.unique "tasks" ["session_id", "task_order"]) := by
  by_cases hplace : s.IsTaken sessionId order
  · rw [and_iff_right hplace]
    have hrefused : s.insertTask (.new id now sessionId order data) =
        .error (.violation (.unique "tasks" ["session_id", "task_order"])) := by
      simp only [insertTask, toRow_newTask id hnow, ok_bind_eq, any_place_iff_isTaken.mpr hplace,
        if_true]
    rw [hrefused, fails_error_iff (by simp)]
  · obtain ⟨row, -, hinsert⟩ := exists_insertTask_new hnow hnew hsession hplace data
    exact iff_of_false (not_fails_ok ⟨_, hinsert⟩) fun h => hplace h.1

end Adding

end Colloquy.Store
