import Colloquy.Proofs.Store.Origin
import Colloquy.Proofs.Store.Scope
import Colloquy.Paging.Cursor
import Colloquy.Store.Revision

/-!
# What stays the same about a stored record

As long as a record is stored, its identity and its content stay (`Scope.Remains` for the row,
`Scope.Keeps` for the record that is read from it), and with them its place in a listing. One
operation leaves a row such that it `Remains` (`remains_step`), and this passes through every run
that never loses the id (`remains_run`). An update changes the rows that it names in one column and
in the time that it notes, and nothing else (`table_of_update`).
-/

namespace Colloquy

/-! ### Rows from one point of a run to a later one -/

/-- What stays of what stayed of a space has stayed of it. -/
lemma SpaceRow.Remains.trans {r₁ r₂ r₃ : SpaceRow} (h : r₁.Remains r₂) (h' : r₂.Remains r₃) :
    r₁.Remains r₃ :=
  ⟨h'.id.trans h.id, h'.projectId.trans h.projectId, h'.createdAt.trans h.createdAt⟩

/-- What stays of what stayed of a session has stayed of it. -/
lemma SessionRow.Remains.trans {r₁ r₂ r₃ : SessionRow} (h : r₁.Remains r₂) (h' : r₂.Remains r₃) :
    r₁.Remains r₃ :=
  ⟨h'.id.trans h.id, h'.projectId.trans h.projectId, h'.createdAt.trans h.createdAt⟩

/-- What stays of what stayed of a message has stayed of it. -/
lemma MessageRow.Remains.trans {m₁ m₂ m₃ : MessageRow} (h : m₁.Remains m₂) (h' : m₂.Remains m₃) :
    m₁.Remains m₃ where
  id := h'.id.trans h.id
  sessionId := h'.sessionId.trans h.sessionId
  parentId := h'.parentId.trans h.parentId
  role := h'.role.trans h.role
  metadata := h'.metadata.trans h.metadata
  parts := h'.parts.trans h.parts
  taskId := by
    rcases h'.taskId with hsame | hlost
    · rw [hsame]
      exact h.taskId
    · exact .inr hlost
  createdAt := h'.createdAt.trans h.createdAt

/-- What stays of what stayed of a task has stayed of it. -/
lemma TaskRow.Remains.trans {t₁ t₂ t₃ : TaskRow} (h : t₁.Remains t₂) (h' : t₂.Remains t₃) :
    t₁.Remains t₃ where
  id := h'.id.trans h.id
  sessionId := h'.sessionId.trans h.sessionId
  order := h'.order.trans h.order
  data := h'.data.trans h.data
  isPlanning := h'.isPlanning.trans h.isPlanning
  spaceDigested := by
    rcases h'.spaceDigested with hsame | hmarked
    · rw [hsame]
      exact h.spaceDigested
    · exact .inr hmarked
  createdAt := h'.createdAt.trans h.createdAt

namespace Scope

/-- What stays of a row while it is stored. Of a disk everything does. -/
def Remains : (scope : Scope) → scope.TableRow → scope.TableRow → Prop
  | .spaces _, (r : SpaceRow), (r' : SpaceRow) => r.Remains r'
  | .sessions _ _, (r : SessionRow), (r' : SessionRow) => r.Remains r'
  | .messages _, (r : MessageRow), (r' : MessageRow) => r.Remains r'
  | .tasks _, (r : TaskRow), (r' : TaskRow) => r.Remains r'
  | .disks _, (r : DiskRow), (r' : DiskRow) => r' = r

variable {scope : Scope} {r r₁ r₂ r₃ : scope.TableRow}

/-- A row stays what it is. -/
lemma Remains.refl (r : scope.TableRow) : scope.Remains r r := by
  cases scope with
  | spaces => exact SpaceRow.Remains.refl r
  | sessions => exact SessionRow.Remains.refl r
  | messages => exact MessageRow.Remains.refl r
  | tasks => exact TaskRow.Remains.refl r
  | disks => exact rfl

/-- What stays of what stayed of a row has stayed of it. -/
lemma Remains.trans (h : scope.Remains r₁ r₂) (h' : scope.Remains r₂ r₃) :
    scope.Remains r₁ r₃ := by
  cases scope with
  | spaces => exact SpaceRow.Remains.trans h h'
  | sessions => exact SessionRow.Remains.trans h h'
  | messages => exact MessageRow.Remains.trans h h'
  | tasks => exact TaskRow.Remains.trans h h'
  | disks => exact Eq.trans h' h

/-- The cells that decide the place of a row in a listing stay. -/
lemma Remains.cells (h : scope.Remains r₁ r₂) :
    Row.id r₂ = Row.id r₁ ∧ Row.createdAt r₂ = Row.createdAt r₁ := by
  cases scope with
  | spaces => exact ⟨SpaceRow.Remains.id h, SpaceRow.Remains.createdAt h⟩
  | sessions => exact ⟨SessionRow.Remains.id h, SessionRow.Remains.createdAt h⟩
  | messages => exact ⟨MessageRow.Remains.id h, MessageRow.Remains.createdAt h⟩
  | tasks => exact ⟨TaskRow.Remains.id h, TaskRow.Remains.createdAt h⟩
  | disks => exact ⟨congrArg DiskRow.id h, congrArg DiskRow.createdAt h⟩

/-- A row that stays keeps its position. -/
lemma Remains.position?_eq (h : scope.Remains r₁ r₂) :
    Row.position? r₂ = Row.position? r₁ := by
  obtain ⟨hid, hcreated⟩ := h.cells
  unfold Row.position?
  rw [hid, hcreated]

/-- What stays of a record while it is stored: of a space all but its configuration, of a session
all but its configuration and its space, of a message all but its status and its task, which it can
only lose, of a task all but its status and its mark, which it can only get, and of a disk
everything. Each update is noted with its time. -/
def Keeps : (scope : Scope) → scope.Record → scope.Record → Prop
  | .spaces _, (a : Space), (a' : Space) =>
    a' = { a with configs := a'.configs, updatedAt := a'.updatedAt }
  | .sessions _ _, (a : Session), (a' : Session) =>
    a' = { a with spaceId := a'.spaceId, configs := a'.configs, updatedAt := a'.updatedAt }
  | .messages _, (a : Message), (a' : Message) =>
    a' = { a with
      taskId := a'.taskId, processStatus := a'.processStatus, updatedAt := a'.updatedAt } ∧
      (a'.taskId = a.taskId ∨ a'.taskId = none)
  | .tasks _, (a : Task), (a' : Task) =>
    a' = { a with
      status := a'.status, spaceDigested := a'.spaceDigested, updatedAt := a'.updatedAt } ∧
      (a.spaceDigested = true → a'.spaceDigested = true)
  | .disks _, (a : Disk), (a' : Disk) => a' = a

/-- What stays of a record includes its position. -/
lemma Keeps.sortKey_eq {a a' : scope.Record} (h : scope.Keeps a a') : sortKey a' = sortKey a := by
  cases scope with
  | spaces => exact (congrArg (sortKey (α := Space)) h).trans rfl
  | sessions => exact (congrArg (sortKey (α := Session)) h).trans rfl
  | messages => exact (congrArg (sortKey (α := Message)) h.1).trans rfl
  | tasks => exact (congrArg (sortKey (α := Task)) h.1).trans rfl
  | disks => exact congrArg (sortKey (α := Disk)) h

end Scope

/-! ### Records that are read from the rows -/

/-- A cell that stayed is read as what it was read as before. -/
lemma Cell.eq_of_read {α : Type} {read : Cell → Except ColumnFault α} {c c' : Cell} {v v' : α}
    (hc : c' = c) (h : read c = .ok v) (h' : read c' = .ok v') : v' = v := by
  rw [hc, h] at h'
  exact (Except.ok.inj h').symm

/-- A space that stays is read with another configuration and another time of the update at most. -/
lemma SpaceRow.Remains.eq_of_read {r r' : SpaceRow} {a a' : Space} (h : r.Remains r')
    (ha : r.read = .ok a) (ha' : r'.read = .ok a') :
    a' = { a with configs := a'.configs, updatedAt := a'.updatedAt } := by
  obtain ⟨hid, hproject, -, hcreated, -⟩ := SpaceRow.read_eq_ok_iff.mp ha
  obtain ⟨hid', hproject', -, hcreated', -⟩ := SpaceRow.read_eq_ok_iff.mp ha'
  rw [← Cell.eq_of_read h.id hid hid', ← Cell.eq_of_read h.projectId hproject hproject',
    ← Cell.eq_of_read h.createdAt hcreated hcreated']

/-- A session that stays is read with another space, another configuration and another time of the
update at most. -/
lemma SessionRow.Remains.eq_of_read {r r' : SessionRow} {a a' : Session} (h : r.Remains r')
    (ha : r.read = .ok a) (ha' : r'.read = .ok a') :
    a' = { a with spaceId := a'.spaceId, configs := a'.configs, updatedAt := a'.updatedAt } := by
  obtain ⟨hid, hproject, -, -, hcreated, -⟩ := SessionRow.read_eq_ok_iff.mp ha
  obtain ⟨hid', hproject', -, -, hcreated', -⟩ := SessionRow.read_eq_ok_iff.mp ha'
  rw [← Cell.eq_of_read h.id hid hid', ← Cell.eq_of_read h.projectId hproject hproject',
    ← Cell.eq_of_read h.createdAt hcreated hcreated']

/-- A message that stays is read with another status and another time of the update at most, and
perhaps without its task. -/
lemma MessageRow.Remains.eq_of_read {m m' : MessageRow} {a a' : Message} (h : m.Remains m')
    (ha : m.read = .ok a) (ha' : m'.read = .ok a') :
    a' = { a with
      taskId := a'.taskId, processStatus := a'.processStatus, updatedAt := a'.updatedAt } ∧
      (a'.taskId = a.taskId ∨ a'.taskId = none) := by
  obtain ⟨hid, hsession, hparent, hrole, hmetadata, hparts, htask, -, hcreated, -⟩ :=
    MessageRow.read_eq_ok_iff.mp ha
  obtain ⟨hid', hsession', hparent', hrole', hmetadata', hparts', htask', -, hcreated', -⟩ :=
    MessageRow.read_eq_ok_iff.mp ha'
  refine ⟨?_, ?_⟩
  · rw [← Cell.eq_of_read h.id hid hid', ← Cell.eq_of_read h.sessionId hsession hsession',
      ← Cell.eq_of_read h.parentId hparent hparent', ← Cell.eq_of_read h.role hrole hrole',
      ← Cell.eq_of_read h.metadata hmetadata hmetadata',
      ← Cell.eq_of_read h.parts hparts hparts', ← Cell.eq_of_read h.createdAt hcreated hcreated']
  · rcases h.taskId with hsame | hlost
    · exact .inl (Cell.eq_of_read hsame htask htask')
    · rw [hlost] at htask'
      exact .inr (Except.ok.inj htask').symm

/-- A task that stays is read with another status and another time of the update at most, and
perhaps as marked. -/
lemma TaskRow.Remains.eq_of_read {t t' : TaskRow} {a a' : Task} (h : t.Remains t')
    (ha : t.read = .ok a) (ha' : t'.read = .ok a') :
    a' = { a with
      status := a'.status, spaceDigested := a'.spaceDigested, updatedAt := a'.updatedAt } ∧
      (a.spaceDigested = true → a'.spaceDigested = true) := by
  obtain ⟨hid, hsession, horder, hdata, -, hplanning, hdigested, hcreated, -⟩ :=
    TaskRow.read_eq_ok_iff.mp ha
  obtain ⟨hid', hsession', horder', hdata', -, hplanning', hdigested', hcreated', -⟩ :=
    TaskRow.read_eq_ok_iff.mp ha'
  refine ⟨?_, ?_⟩
  · rw [← Cell.eq_of_read h.id hid hid', ← Cell.eq_of_read h.sessionId hsession hsession',
      ← Cell.eq_of_read h.order horder horder', ← Cell.eq_of_read h.data hdata hdata',
      ← Cell.eq_of_read h.isPlanning hplanning hplanning',
      ← Cell.eq_of_read h.createdAt hcreated hcreated']
  · intro hmark
    rcases h.spaceDigested with hsame | hmarked
    · exact (Cell.eq_of_read hsame hdigested hdigested').trans hmark
    · rw [hmarked] at hdigested'
      exact (Except.ok.inj hdigested').symm

/-- What stays of a row can be read in it. -/
lemma Scope.Remains.keeps {scope : Scope} {r r' : scope.TableRow} {a a' : scope.Record}
    (h : scope.Remains r r') (ha : Row.read r = .ok a) (ha' : Row.read r' = .ok a') :
    scope.Keeps a a' := by
  cases scope with
  | spaces => exact SpaceRow.Remains.eq_of_read h ha ha'
  | sessions => exact SessionRow.Remains.eq_of_read h ha ha'
  | messages => exact MessageRow.Remains.eq_of_read h ha ha'
  | tasks => exact TaskRow.Remains.eq_of_read h ha ha'
  | disks =>
    obtain rfl : r' = r := h
    exact Except.ok.inj (ha'.symm.trans ha)

namespace Store

variable {s s' : Store} {scope : Scope} {r r' : scope.TableRow}

/-! ### One operation -/

/-- A row that is stored after an operation was stored before, or its id is new. -/
lemma origin_of_row (hs : s.WellFormed) {op : Operation} (hop : s.perform op = .ok s')
    (hr' : r' ∈ s'.table scope) :
    (∃ r ∈ s.table scope, scope.Remains r r') ∨ hasId (Row.id r') (s.table scope) = false := by
  cases scope with
  | spaces =>
    rcases origin_of_space hop hr' with ⟨r, hr, hremains, -⟩ | ⟨space, rfl, hrow⟩
    · exact .inl ⟨r, hr, hremains⟩
    · obtain ⟨row, hrow', hnew, -⟩ := createSpace_eq_ok_iff.mp hop
      obtain rfl := Except.ok.inj (hrow.symm.trans hrow')
      exact .inr hnew
  | sessions =>
    rcases origin_of_session hs hop hr' with ⟨r, hr, hremains, -⟩ | ⟨session, rfl, hrow⟩
    · exact .inl ⟨r, hr, hremains⟩
    · obtain ⟨row, hrow', hnew, -⟩ := createSession_eq_ok_iff.mp hop
      obtain rfl := Except.ok.inj (hrow.symm.trans hrow')
      exact .inr hnew
  | messages =>
    rcases origin_of_message hs hop hr' with ⟨r, hr, hremains⟩ | ⟨message, parentId, rfl, hrow⟩
    · exact .inl ⟨r, hr, hremains⟩
    · obtain ⟨⟨_, message'⟩, hinsert, -⟩ := map_eq_ok_iff.mp hop
      obtain ⟨parentId', row, -, rfl, hrow', hnew, -⟩ := insertMessage_eq_ok_iff.mp hinsert
      -- the id of the row does not depend on the parent
      have hid : Row.id r' = row.id :=
        (Message.toRow_eq_ok_iff.mp hrow).1.trans (Message.toRow_eq_ok_iff.mp hrow').1.symm
      rw [hid]
      exact .inr hnew
  | tasks =>
    rcases origin_of_task hs hop hr' with ⟨r, hr, hremains⟩ | ⟨task, rfl, hrow⟩
    · exact .inl ⟨r, hr, hremains⟩
    · obtain ⟨row, hrow', -, hnew, -⟩ := insertTask_eq_ok_iff.mp hop
      obtain rfl := Except.ok.inj (hrow.symm.trans hrow')
      exact .inr hnew
  | disks =>
    rcases origin_of_disk hop hr' with hr | ⟨disk, rfl, hrow⟩
    · exact .inl ⟨r', hr, rfl⟩
    · obtain ⟨row, hrow', hnew, -⟩ := createDisk_eq_ok_iff.mp hop
      obtain rfl := Except.ok.inj (hrow.symm.trans hrow')
      exact .inr hnew

/-- The row that is stored under an id after an operation is what stayed of the one before. -/
lemma remains_step (hs : s.WellFormed) (op : Operation) (hr : r ∈ s.table scope)
    (hr' : r' ∈ (s.step op).table scope) (hid : Row.id r' = Row.id r) : scope.Remains r r' := by
  have hsame : ∀ {r₀}, r₀ ∈ s.table scope → Row.id r₀ = Row.id r → r₀ = r := by
    intro r₀ hr₀ hid₀
    exact (hs.table scope).eq_of_id_eq hr₀ hr hid₀
  unfold step at hr'
  split at hr'
  next s' hop =>
    rcases origin_of_row hs hop hr' with ⟨r₀, hr₀, hremains⟩ | hnew
    · obtain rfl := hsame hr₀ (hremains.cells.1.symm.trans hid)
      exact hremains
    · exact absurd hid.symm (hasId_eq_false_iff.mp hnew r hr)
  next =>
    obtain rfl := hsame hr' hid
    exact .refl r'

/-! ### Runs -/

/-- An id is stored after each operation of a run, and before the first one. -/
def StaysStored (s : Store) (scope : Scope) (id : Cell) (ops : List Operation) : Prop :=
  ∀ n ≤ ops.length, hasId id ((s.run (ops.take n)).table scope) = true

instance (s : Store) (scope : Scope) (id : Cell) (ops : List Operation) :
    Decidable (s.StaysStored scope id ops) :=
  inferInstanceAs (Decidable (∀ n ≤ ops.length, _ = true))

/-- The same for a run of operations, as long as the id stays stored. The induction is on the
operations; the invariant is that the row stored in between is what stayed of the first one. -/
lemma remains_of_staysStored (hs : s.WellFormed) {ops : List Operation}
    (hstored : s.StaysStored scope (Row.id r) ops) (hr : r ∈ s.table scope)
    (hr' : r' ∈ (s.run ops).table scope) (hid : Row.id r' = Row.id r) : scope.Remains r r' := by
  induction ops generalizing s r with
  | nil =>
    obtain rfl := (hs.table scope).eq_of_id_eq hr' hr hid
    exact .refl r'
  | cons op rest ih =>
    obtain ⟨r₁, hr₁, hid₁⟩ := hasId_eq_true_iff.mp (hstored 1 (by simp))
    have hfirst : scope.Remains r r₁ := remains_step hs op hr hr₁ hid₁
    have hrest : (s.step op).StaysStored scope (Row.id r₁) rest := by
      intro n hn
      rw [hid₁]
      exact hstored (n + 1) (Nat.succ_le_succ hn)
    exact hfirst.trans (ih (hs.step op) hrest hr₁ hr' (hid.trans hid₁.symm))

/-! ### Updates -/

/-- An update changes the rows that it names in its own column and in the time of the update, and
no other row of any table. -/
lemma table_of_update {op : Operation} {now : Instant} (hnow : op.noted? = some now)
    (hop : s.perform op = .ok s') :
    ∃ updatedAt, Cell.ofInstant now = .ok updatedAt ∧ s'.version = s.version ∧
      ∀ scope, s'.table scope = (s.table scope).map (op.revise updatedAt scope) := by
  cases op with
  | updateSpaceConfigs time id configs =>
    obtain rfl := Option.some.inj hnow
    obtain ⟨updatedAt, hcount, -, rfl⟩ := updateSpaceConfigs_eq_ok_iff.mp hop
    refine ⟨updatedAt, hcount, rfl, fun scope => ?_⟩
    cases scope with
    | spaces => rfl
    | _ => exact (List.map_id' _).symm
  | updateSessionConfigs time id configs =>
    obtain rfl := Option.some.inj hnow
    obtain ⟨updatedAt, hcount, -, rfl⟩ := updateSessionConfigs_eq_ok_iff.mp hop
    refine ⟨updatedAt, hcount, rfl, fun scope => ?_⟩
    cases scope with
    | sessions => rfl
    | _ => exact (List.map_id' _).symm
  | connectSession time id spaceId =>
    obtain rfl := Option.some.inj hnow
    obtain ⟨space, updatedAt, -, hcount, -, rfl⟩ := connectSession_eq_ok_iff.mp hop
    refine ⟨updatedAt, hcount, rfl, fun scope => ?_⟩
    cases scope with
    | sessions => rfl
    | _ => exact (List.map_id' _).symm
  | setProcessStatus time ids status =>
    obtain rfl := Option.some.inj hnow
    obtain ⟨⟨s', n⟩, hset, rfl⟩ := map_eq_ok_iff.mp hop
    obtain ⟨updatedAt, hcount, rfl⟩ := setProcessStatus_eq_ok hset
    refine ⟨updatedAt, hcount, rfl, fun scope => ?_⟩
    cases scope with
    | messages => rfl
    | _ => exact (List.map_id' _).symm
  | updateTaskStatus time id status =>
    obtain rfl := Option.some.inj hnow
    obtain ⟨updatedAt, hcount, -, rfl⟩ := updateTaskStatus_eq_ok_iff.mp hop
    refine ⟨updatedAt, hcount, rfl, fun scope => ?_⟩
    cases scope with
    | tasks => rfl
    | _ => exact (List.map_id' _).symm
  | markTaskDigested time id =>
    obtain rfl := Option.some.inj hnow
    obtain ⟨updatedAt, hcount, -, rfl⟩ := markTaskDigested_eq_ok_iff.mp hop
    refine ⟨updatedAt, hcount, rfl, fun scope => ?_⟩
    cases scope with
    | tasks => rfl
    | _ => exact (List.map_id' _).symm
  | _ => simp [Operation.noted?] at hnow

/-- Whatever operations come, a record that stays stored keeps its identity and its content, and so
its position in a listing and its cursor. An update changes the rows that it names in its own column
and in the time of the update, and nothing else. -/
theorem remains_run (hs : s.Reachable) :
    (∀ (scope : Scope) (r r' : scope.TableRow) (ops : List Operation),
      r ∈ s.table scope → r' ∈ (s.run ops).table scope → Row.id r' = Row.id r →
      s.StaysStored scope (Row.id r) ops →
        scope.Remains r r' ∧ Row.position? r' = Row.position? r ∧
          ∀ a a', Row.read r = .ok a → Row.read r' = .ok a' →
            scope.Keeps a a' ∧ sortKey a' = sortKey a ∧
              (sortKey a').cursor = (sortKey a).cursor) ∧
      ∀ (op : Operation) (now : Instant) (s' : Store),
        op.noted? = some now → s.perform op = .ok s' →
          ∃ updatedAt, Cell.ofInstant now = .ok updatedAt ∧ s'.version = s.version ∧
            ∀ scope, s'.table scope = (s.table scope).map (op.revise updatedAt scope) := by
  constructor
  · intro scope r r' ops hr hr' hid hstored
    have hremains := remains_of_staysStored hs.wellFormed hstored hr hr' hid
    refine ⟨hremains, hremains.position?_eq, ?_⟩
    intro a a' ha ha'
    have hkeeps := hremains.keeps ha ha'
    exact ⟨hkeeps, hkeeps.sortKey_eq, congrArg SortKey.cursor hkeeps.sortKey_eq⟩
  · intro op now s' hnow hop
    exact table_of_update hnow hop

/-- A message gets a status and then loses its task, which goes with another session. -/
theorem remains_run_lost_task :
    let now : Instant := .ofNanos ⟨0, by decide⟩
    let later : Instant := .ofNanos ⟨5, by decide⟩
    let task : Task := .new (.ofNat 3) now (.ofNat 1) 0 []
    let message : Message :=
      { Message.new (.ofNat 4) now (.ofNat 2) .user [] [] with taskId := some task.id }
    let s := empty.run [.createSession (.new (.ofNat 1) now (.ofNat 7) none []),
      .createSession (.new (.ofNat 2) now (.ofNat 7) none []), .insertTask task,
      .insertMessage message]
    let update : Operation := .setProcessStatus later [message.id] .success
    let ops : List Operation := [update, .deleteSession (.ofNat 1)]
    let row (taskId : Cell) (status : String) (updatedAt : Int) : MessageRow :=
      ⟨.ofUuid message.id, .ofUuid (.ofNat 2), .null, .text "user", .text "\x7b\x7d", .text "[]",
        taskId, .text status, .integer 0, .integer updatedAt⟩
    let before := row (.ofUuid task.id) "pending" 0
    let after := row .null "success" 5
    before ∈ s.messages ∧ after ∈ (s.run ops).messages ∧
      s.StaysStored (.messages (.ofNat 2)) (.ofUuid message.id) ops ∧ before.Remains after ∧
      ∃ updatedAt, Cell.ofInstant later = .ok updatedAt ∧
        (s.step update).messages =
          s.messages.map (update.revise updatedAt (.messages (.ofNat 2))) := by
  intro now later task message s update ops row before after
  have hs : s.Reachable := ⟨_, rfl⟩
  have hbefore : before ∈ s.messages := by decide +kernel
  have hafter : after ∈ (s.run ops).messages := by decide +kernel
  have hstored : s.StaysStored (.messages (.ofNat 2)) (.ofUuid message.id) ops := by
    decide +kernel
  obtain ⟨hrun, hupdate⟩ := remains_run hs
  obtain ⟨hremains, -⟩ :=
    hrun (.messages (.ofNat 2)) before after ops hbefore hafter rfl hstored
  obtain ⟨updatedAt, hcount, -, htables⟩ :=
    hupdate update later (s.step update) rfl (by decide +kernel)
  exact ⟨hbefore, hafter, hstored, hremains, updatedAt, hcount, htables (.messages (.ofNat 2))⟩

end Store

end Colloquy
