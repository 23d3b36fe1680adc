import Colloquy.Proofs.Store.Cascade

/-!
# What a store holds of one session

`Store.cut` leaves a store its spaces and the rows of one session. An operation that concerns the
session does the same to the cut store as to the store, and comes out the same: constraints over
whole tables are met in both as long as new ids are new and the ids of rows are those of the
session. An operation on another session changes nothing of what is left.
-/

namespace Colloquy.Store

open Deletion

/-- The spaces of a store and the rows of one session. -/
def cut (sessionId : Uuid) (s : Store) : Store :=
  { s with
    sessions := s.sessions.filter fun r => r.id == .ofUuid sessionId
    messages := s.messages.filter fun r => r.sessionId == .ofUuid sessionId
    tasks := s.tasks.filter fun r => r.sessionId == .ofUuid sessionId
    disks := [] }

/-! ### Parts of tables -/

section Tables

variable {ρ α : Type} [Row ρ α] {rows : List ρ} {p : ρ → Bool}

/-- An id is found in a part of a table that has all its rows with this id. -/
lemma hasId_filter {id : Cell} (hp : ∀ r ∈ rows, Row.id r = id → p r = true) :
    hasId id (rows.filter p) = hasId id rows := by
  rw [Bool.eq_iff_iff, hasId_eq_true_iff, hasId_eq_true_iff]
  constructor
  · rintro ⟨r, hr, hid⟩
    exact ⟨r, List.mem_of_mem_filter hr, hid⟩
  · rintro ⟨r, hr, hid⟩
    exact ⟨r, List.mem_filter.mpr ⟨hr, hp r hr hid⟩, hid⟩

/-- A new id is new in a part of a table. -/
lemma hasId_filter_eq_false {id : Cell} (h : hasId id rows = false) (p : ρ → Bool) :
    hasId id (rows.filter p) = false := by
  rw [hasId_eq_false_iff] at h ⊢
  exact fun r hr => h r (List.mem_of_mem_filter hr)

/-- A row is found by its id in a part of a table that has all its rows with this id. -/
lemma find?_filter {id : Uuid} (hp : ∀ r ∈ rows, Row.id r = .ofUuid id → p r = true) :
    Listing.find? id (rows.filter p) = Listing.find? id rows := by
  have hsame : (rows.filter p).find? (fun r => Row.id r == .ofUuid id) =
      rows.find? fun r => Row.id r == .ofUuid id := by
    rw [← List.head?_filter, ← List.head?_filter, List.filter_filter]
    refine congrArg List.head? (List.filter_congr fun r hr => ?_)
    by_cases hid : Row.id r = .ofUuid id
    · rw [hp r hr hid, Bool.and_true]
    · rw [beq_false_of_ne hid, Bool.false_and]
  unfold Listing.find?
  rw [hsame]

/-- Changes that leave a row in a part of the table can be made in that part. -/
lemma filter_updateWhere {id : Uuid} {change : ρ → ρ} (hchange : ∀ r, p (change r) = p r) :
    (updateWhere id change rows).filter p = updateWhere id change (rows.filter p) := by
  have hp : (fun r => p (if Row.id r = .ofUuid id then change r else r)) = p := by
    funext r
    split
    · exact hchange r
    · rfl
  rw [updateWhere, List.filter_map, Function.comp_def, hp, updateWhere]

/-- Changes of rows outside of a part leave it as it is. -/
lemma filter_updateWhere_of_not {id : Uuid} {change : ρ → ρ} (hchange : ∀ r, p (change r) = p r)
    (hp : ∀ r ∈ rows, Row.id r = .ofUuid id → p r = false) :
    (updateWhere id change rows).filter p = rows.filter p := by
  rw [filter_updateWhere hchange, updateWhere]
  refine (List.map_congr_left fun r hr => ?_).trans (List.map_id _)
  obtain ⟨hstored, hkept⟩ := List.mem_filter.mp hr
  refine if_neg fun hid => ?_
  simp [hp r hstored hid] at hkept

/-- A row that belongs to a part of a table is added to the part. -/
lemma filter_append_of {r : ρ} (hr : p r = true) :
    (rows ++ [r]).filter p = rows.filter p ++ [r] := by
  rw [List.filter_append, List.filter_singleton, hr, cond_true]

/-- A row that does not belong to a part of a table leaves the part as it is. -/
lemma filter_append_of_not {r : ρ} (hr : p r = false) : (rows ++ [r]).filter p = rows.filter p := by
  rw [List.filter_append, List.filter_singleton, hr, cond_false, List.append_nil]

end Tables

/-- What is done with a store that was changed can be done before it is given back. -/
lemma map_found {entity : Entity} {id : Uuid} {any : Bool} {s : Store} {f : Store → Store} :
    (found entity id any s).map f = found entity id any (f s) := by
  cases any <;> rfl

variable {s s' : Store} {sid : Uuid}

/-- Filtering twice is filtering once. -/
lemma filter_filter_self {α : Type} (p : α → Bool) (l : List α) :
    (l.filter p).filter p = l.filter p := by
  simp only [List.filter_filter, Bool.and_self]

/-- Counting rows of a part is counting them in the part. -/
lemma countP_filter_self {α : Type} (p q : α → Bool) (l : List α) :
    (l.filter p).countP (fun a => p a && q a) = l.countP fun a => p a && q a := by
  rw [List.countP_filter]
  refine List.countP_congr fun a _ => ?_
  simp only [Bool.and_eq_true]
  tauto

/-! ### Operations on spaces -/

/-- Making a space does the same to the cut store. -/
lemma cut_createSpace (space : Space) :
    (s.cut sid).createSpace space = (s.createSpace space).map (cut sid) := by
  simp only [createSpace, map_bind_eq]
  rfl

/-- Setting the configuration of a space does the same to the cut store. -/
lemma cut_updateSpaceConfigs (now : Instant) (id : Uuid) (configs : JsonObject) :
    (s.cut sid).updateSpaceConfigs now id configs =
      (s.updateSpaceConfigs now id configs).map (cut sid) := by
  simp only [updateSpaceConfigs, map_bind_eq, map_found]
  rfl

/-- Removing a space does the same to the cut store. -/
lemma cut_deleteSpace (id : Uuid) :
    (s.cut sid).deleteSpace id = (s.deleteSpace id).map (cut sid) := by
  have hdisconnect : ∀ r : SessionRow,
      ((if r.spaceId = .ofUuid id then { r with spaceId := .null } else r).id == .ofUuid sid) =
        (r.id == .ofUuid sid) := fun r => by split <;> rfl
  simp only [deleteSpace, map_found, cut, List.filter_map, Function.comp_def, hdisconnect]

/-! ### Operations on sessions -/

/-- The session of the cut is stored in the cut store if it is stored. -/
lemma hasId_cut_sessions :
    hasId (.ofUuid sid) (s.cut sid).sessions = hasId (.ofUuid sid) s.sessions :=
  hasId_filter fun _ _ hid => beq_iff_eq.mpr hid

/-- The session is there for both. -/
lemma checkReference_cut_sessions {reference : Cell} (h : reference = .ofUuid sid) :
    checkReference reference (s.cut sid).sessions = checkReference reference s.sessions := by
  rw [h, checkReference, checkReference, dangles, dangles, hasId_cut_sessions]

/-- The session of the cut is looked up in the cut store as in the store. -/
lemma cut_session? : (s.cut sid).session? sid = s.session? sid :=
  find?_filter fun _ _ hid => beq_iff_eq.mpr hid

/-- Making the session of the cut does the same to the cut store. -/
lemma cut_createSession {session : Session} (hid : session.id = sid) :
    (s.cut sid).createSession session = (s.createSession session).map (cut sid) := by
  cases hrow : session.toRow with
  | error e => simp only [createSession, hrow, error_bind_eq, Except.map]
  | ok row =>
    have hrowId : row.id = .ofUuid sid := hid ▸ (Session.toRow_eq_ok_iff.mp hrow).1
    have hsessions : append "sessions" row (s.cut sid).sessions =
        (append "sessions" row s.sessions).map
          (List.filter fun r => r.id == .ofUuid sid) := by
      unfold append
      rw [show (Row.id row : Cell) = .ofUuid sid from hrowId, hasId_cut_sessions]
      split
      · rfl
      · simp [Except.map, cut, List.filter_append, hrowId]
    have hspaces : (s.cut sid).spaces = s.spaces := rfl
    simp only [createSession, hrow, ok_bind_eq, hsessions, hspaces]
    cases append "sessions" row s.sessions with
    | error e => rfl
    | ok sessions => cases checkReference row.spaceId s.spaces <;> rfl

/-- The session can be changed in columns other than the id. -/
lemma cut_updateSession {change : SessionRow → SessionRow} (hid : ∀ r, (change r).id = r.id) :
    found .session sid (hasId (.ofUuid sid) (s.cut sid).sessions)
        { s.cut sid with sessions := updateWhere sid change (s.cut sid).sessions } =
      (found .session sid (hasId (.ofUuid sid) s.sessions)
        { s with sessions := updateWhere sid change s.sessions }).map (cut sid) := by
  have hsessions : (s.cut sid).sessions = s.sessions.filter fun r => r.id == .ofUuid sid := rfl
  rw [map_found, hasId_cut_sessions, hsessions, ← filter_updateWhere fun r => by rw [hid]]
  rfl

/-- Setting the configuration of the session does the same to the cut store. -/
lemma cut_updateSessionConfigs (now : Instant) (configs : JsonObject) :
    (s.cut sid).updateSessionConfigs now sid configs =
      (s.updateSessionConfigs now sid configs).map (cut sid) := by
  simp only [updateSessionConfigs, map_bind_eq]
  exact congrArg _ (funext fun updatedAt => cut_updateSession fun _ => rfl)

/-- Connecting the session to a space does the same to the cut store. -/
lemma cut_connectSession (now : Instant) (spaceId : Uuid) :
    (s.cut sid).connectSession now sid spaceId =
      (s.connectSession now sid spaceId).map (cut sid) := by
  have hspace : (s.cut sid).space? spaceId = s.space? spaceId := rfl
  simp only [connectSession, map_bind_eq, hspace]
  refine congrArg _ (funext fun space? => ?_)
  cases space? with
  | none => rfl
  | some space =>
    simp only [map_bind_eq]
    exact congrArg _ (funext fun updatedAt => cut_updateSession fun _ => rfl)

/-- The session goes with all its rows, in the store and in what is left of it. -/
lemma cut_deleteSession (h : s.Linked) (hs : s.WellFormed) (hcut : (s.cut sid).Linked)
    (hscut : (s.cut sid).WellFormed) :
    (s.cut sid).deleteSession sid = (s.deleteSession sid).map (cut sid) := by
  have hmessages : (s.cut sid).messages.filter (fun m => m.sessionId == .ofUuid sid) =
      s.messages.filter fun m => m.sessionId == .ofUuid sid := filter_filter_self _ _
  rw [hcut.deleteSession_eq hscut, h.deleteSession_eq hs, hasId_cut_sessions, hmessages]
  split
  · split
    · have hclear : ∀ m,
          ((clearTasks (s.tasks.filter fun t => t.sessionId == .ofUuid sid) m).sessionId ==
            .ofUuid sid) = (m.sessionId == .ofUuid sid) := fun m => by rw [clearTasks_sessionId]
      simp only [Except.map, cut, withoutId, List.filter_map, List.filter_filter, Function.comp_def,
        hclear, bne, Bool.and_not_self, Bool.not_and_self, List.filter_false, List.map_nil]
      refine congrArg (fun sessions => Except.ok (⟨_, _, sessions, _, _, _⟩ : Store)) ?_
      exact List.filter_congr fun r _ => Bool.and_comm _ _
    · rfl
  · rfl

/-! ### Operations on messages -/

/-- The last message of the session is the same in the cut store. -/
lemma cut_lastMessageId? : (s.cut sid).lastMessageId? sid = s.lastMessageId? sid := by
  have hmessages : (s.cut sid).messages.filter (fun m => m.sessionId == .ofUuid sid) =
      s.messages.filter fun m => m.sessionId == .ofUuid sid := filter_filter_self _ _
  rw [lastMessageId?, lastMessageId?, hmessages]

/-- The messages of the session are listed from the cut store as from the store. -/
lemma cut_listMessages (q : KeysetQuery) :
    (s.cut sid).listMessages sid q = s.listMessages sid q :=
  congrArg (Listing.page q) (filter_filter_self _ _)

/-- As many messages of the session are pending in the cut store. -/
lemma cut_pendingMessageCount :
    (s.cut sid).pendingMessageCount sid = s.pendingMessageCount sid :=
  countP_filter_self (fun r : MessageRow => r.sessionId == .ofUuid sid)
    (fun r => r.processStatus == .text TaskStatus.pending.name) s.messages

/-- A message whose id is new is inserted after the same message. -/
lemma cut_insertMessage (hs : s.WellFormed) {message : Message} (hsession : message.sessionId = sid)
    (htask : message.taskId = none) (hnew : hasId (.ofUuid message.id) s.messages = false) :
    (s.cut sid).insertMessage message =
      (s.insertMessage message).map fun x => (x.1.cut sid, x.2) := by
  subst hsession
  obtain ⟨parentId, hparent⟩ := hs.exists_lastMessageId? message.sessionId
  have hlast := hs.ofUuid?_lastMessageId? hparent
  simp only [insertMessage, cut_lastMessageId?, hparent, ok_bind_eq]
  cases hrow : { message with parentId }.toRow with
  | error e => rfl
  | ok row =>
    obtain ⟨hid, hsessionId, hreply, -, -, -, htaskId, -⟩ := Message.toRow_eq_ok_iff.mp hrow
    have hfresh : hasId row.id s.messages = false := hid.symm ▸ hnew
    have happend : append "messages" row s.messages = .ok (s.messages ++ [row]) :=
      append_eq_ok_iff.mpr ⟨hfresh, rfl⟩
    have happend' : append "messages" row (s.cut message.sessionId).messages =
        .ok ((s.cut message.sessionId).messages ++ [row]) :=
      append_eq_ok_iff.mpr ⟨hasId_filter_eq_false hfresh _, rfl⟩
    have hsessions : checkReference row.sessionId (s.cut message.sessionId).sessions =
        checkReference row.sessionId s.sessions := checkReference_cut_sessions hsessionId
    have hparentId : ∀ more : List MessageRow, checkReference row.parentId
        (s.messages ++ more) = .ok () := fun more =>
      checkReference_eq_ok_iff.mpr (hreply.trans hlast ▸ dangles_append (dangles_lastId _) _)
    have hparentId' : ∀ more : List MessageRow, checkReference row.parentId
        ((s.cut message.sessionId).messages ++ more) = .ok () := fun more =>
      checkReference_eq_ok_iff.mpr (by
        rw [hreply, hlast, ← filter_filter_self]
        exact dangles_append (dangles_lastId (s := s.cut message.sessionId) _) _)
    have htasks : ∀ tasks : List TaskRow, checkReference row.taskId tasks = .ok () := by
      intro tasks
      rw [htaskId, show Message.taskId _ = none from htask]
      rfl
    have hrows : (s.messages ++ [row]).filter (fun m => m.sessionId == .ofUuid message.sessionId) =
        (s.cut message.sessionId).messages ++ [row] :=
      filter_append_of (p := fun m : MessageRow => m.sessionId == .ofUuid message.sessionId)
        (beq_iff_eq.mpr hsessionId)
    simp only [ok_bind_eq, happend, happend', hsessions, hparentId, hparentId', htasks]
    cases checkReference row.sessionId s.sessions with
    | error e => rfl
    | ok u =>
      simp only [ok_bind_eq, map_pure_eq, ← hrows]
      rfl

/-! ### Operations on tasks -/

/-- The tasks of the session are listed from the cut store as from the store. -/
lemma cut_listTasks (q : KeysetQuery) : (s.cut sid).listTasks sid q = s.listTasks sid q :=
  congrArg (Listing.page q) (filter_filter_self _ _)

/-- The learning status of the session is the same in the cut store. -/
lemma cut_learningStatus : (s.cut sid).learningStatus sid = s.learningStatus sid := by
  have hcount : ∀ mark : Cell, (s.cut sid).tasks.countP (fun r =>
      r.sessionId == .ofUuid sid && r.spaceDigested == mark) = s.tasks.countP fun r =>
        r.sessionId == .ofUuid sid && r.spaceDigested == mark := fun mark =>
    countP_filter_self (fun r : TaskRow => r.sessionId == .ofUuid sid)
      (fun r => r.spaceDigested == mark) s.tasks
  simp only [learningStatus, hcount]

/-- A task whose id is new takes its place in its session. -/
lemma cut_insertTask {task : Task} (hsession : task.sessionId = sid)
    (hnew : hasId (.ofUuid task.id) s.tasks = false) :
    (s.cut sid).insertTask task = (s.insertTask task).map (cut sid) := by
  subst hsession
  simp only [insertTask]
  cases hrow : task.toRow with
  | error e => rfl
  | ok row =>
    obtain ⟨hid, hsessionId, -⟩ := Task.toRow_eq_ok_iff.mp hrow
    have hfresh : hasId row.id s.tasks = false := hid.symm ▸ hnew
    have happend : append "tasks" row s.tasks = .ok (s.tasks ++ [row]) :=
      append_eq_ok_iff.mpr ⟨hfresh, rfl⟩
    have happend' : append "tasks" row (s.cut task.sessionId).tasks =
        .ok ((s.cut task.sessionId).tasks ++ [row]) :=
      append_eq_ok_iff.mpr ⟨hasId_filter_eq_false hfresh _, rfl⟩
    have hplace : (s.cut task.sessionId).tasks.any
        (fun r => r.sessionId == row.sessionId && r.order == row.order) =
          s.tasks.any fun r => r.sessionId == row.sessionId && r.order == row.order := by
      rw [cut, List.any_filter, hsessionId]
      refine List.any_congr rfl fun r => ?_
      cases r.sessionId == Cell.ofUuid task.sessionId <;> rfl
    have hsessions : checkReference row.sessionId (s.cut task.sessionId).sessions =
        checkReference row.sessionId s.sessions := checkReference_cut_sessions hsessionId
    have hrows : (s.tasks ++ [row]).filter (fun t => t.sessionId == .ofUuid task.sessionId) =
        (s.cut task.sessionId).tasks ++ [row] :=
      filter_append_of (p := fun t : TaskRow => t.sessionId == .ofUuid task.sessionId)
        (beq_iff_eq.mpr hsessionId)
    simp only [ok_bind_eq, hplace, happend, happend', hsessions]
    split
    · rfl
    · cases checkReference row.sessionId s.sessions with
      | error e => rfl
      | ok u =>
        simp only [ok_bind_eq, map_pure_eq, ← hrows]
        rfl

/-- A task of the session can be changed in columns other than id and session. -/
lemma cut_updateTask {id : Uuid}
    (hown : ∀ t ∈ s.tasks, t.id = .ofUuid id → t.sessionId = .ofUuid sid)
    {change : TaskRow → TaskRow} (hchange : ∀ t, (change t).sessionId = t.sessionId) :
    found .task id (hasId (.ofUuid id) (s.cut sid).tasks)
        { s.cut sid with tasks := updateWhere id change (s.cut sid).tasks } =
      (found .task id (hasId (.ofUuid id) s.tasks)
        { s with tasks := updateWhere id change s.tasks }).map (cut sid) := by
  have htasks : (s.cut sid).tasks = s.tasks.filter fun t => t.sessionId == .ofUuid sid := rfl
  have hstored : hasId (.ofUuid id) (s.cut sid).tasks = hasId (.ofUuid id) s.tasks :=
    hasId_filter fun t ht hid => beq_iff_eq.mpr (hown t ht hid)
  rw [map_found, hstored, htasks, ← filter_updateWhere fun t => by rw [hchange]]
  rfl

/-- Setting the status of a task of the session does the same to the cut store. -/
lemma cut_updateTaskStatus {id : Uuid}
    (hown : ∀ t ∈ s.tasks, t.id = .ofUuid id → t.sessionId = .ofUuid sid) (now : Instant)
    (status : TaskStatus) :
    (s.cut sid).updateTaskStatus now id status =
      (s.updateTaskStatus now id status).map (cut sid) := by
  simp only [updateTaskStatus, map_bind_eq]
  exact congrArg _ (funext fun updatedAt => cut_updateTask hown fun _ => rfl)

/-- Marking a task of the session does the same to the cut store. -/
lemma cut_markTaskDigested {id : Uuid}
    (hown : ∀ t ∈ s.tasks, t.id = .ofUuid id → t.sessionId = .ofUuid sid) (now : Instant) :
    (s.cut sid).markTaskDigested now id = (s.markTaskDigested now id).map (cut sid) := by
  simp only [markTaskDigested, map_bind_eq]
  exact congrArg _ (funext fun updatedAt => cut_updateTask hown fun _ => rfl)

/-! ### Operations on other sessions -/

/-- Making another session leaves the cut as it is. -/
lemma cut_eq_of_createSession {session : Session} (hid : session.id ≠ sid)
    (h : s.createSession session = .ok s') : s'.cut sid = s.cut sid := by
  obtain ⟨row, hrow, -, -, rfl⟩ := createSession_eq_ok_iff.mp h
  have hother : (row.id == .ofUuid sid) = false := by
    rw [(Session.toRow_eq_ok_iff.mp hrow).1]
    simpa using hid
  simp only [cut, filter_append_of_not (p := fun r : SessionRow => r.id == .ofUuid sid) hother]

/-- Changing another session leaves the cut as it is. -/
lemma cut_eq_of_updateSession {id : Uuid} (hother : id ≠ sid) {change : SessionRow → SessionRow}
    (hid : ∀ r, (change r).id = r.id) :
    cut sid { s with sessions := updateWhere id change s.sessions } = s.cut sid := by
  have hsame : (updateWhere id change s.sessions).filter (fun r => r.id == .ofUuid sid) =
      s.sessions.filter fun r => r.id == .ofUuid sid := by
    refine filter_updateWhere_of_not (fun r => by rw [hid]) fun r _ hr => ?_
    rw [show r.id = .ofUuid id from hr]
    simpa using hother
  simp only [cut, hsame]

/-- The removal of another session clears no reference of a message that belongs to no task. -/
lemma cut_eq_of_deleteSession (hs : s.WellFormed) (htaskless : ∀ m ∈ s.messages, m.taskId = .null)
    {id : Uuid} (hother : id ≠ sid) (h : s.deleteSession id = .ok s') : s'.cut sid = s.cut sid := by
  obtain ⟨-, rfl⟩ := deleteSession_eq_ok (hs.closed _) hs.tasks.nodup_rows h
  have hne : Cell.ofUuid sid ≠ .ofUuid id := fun heq => hother (Cell.ofUuid_injective heq).symm
  have hkept : (s.messages.filter fun m => m.sessionId != .ofUuid id).map
      (clearTasks (s.tasks.filter fun t => t.sessionId == .ofUuid id)) =
        s.messages.filter fun m => m.sessionId != .ofUuid id := by
    refine (List.map_congr_left fun m hm => ?_).trans (List.map_id _)
    refine if_neg fun hof => ?_
    obtain ⟨t, -, ht⟩ := List.any_eq_true.mp hof
    obtain ⟨hnull, htask⟩ : t.id ≠ .null ∧ m.taskId = t.id := by simpa [isOfTask] using ht
    exact hnull (htask.symm.trans (htaskless m (List.mem_of_mem_filter hm)))
  have hpart : ∀ {α : Type} (f : α → Cell) (l : List α),
      (l.filter fun a => f a != .ofUuid id).filter (fun a => f a == .ofUuid sid) =
        l.filter fun a => f a == .ofUuid sid := by
    intro α f l
    rw [List.filter_filter]
    refine List.filter_congr fun a _ => ?_
    by_cases ha : f a = .ofUuid sid
    · simp [ha, hne]
    · simp [ha]
  have hsessions : (withoutId id s.sessions).filter (fun r => r.id == .ofUuid sid) =
      s.sessions.filter fun r => r.id == .ofUuid sid := hpart SessionRow.id _
  simp only [cut, hkept, hsessions, hpart]

/-- A message of another session leaves the cut as it is. -/
lemma cut_eq_of_insertMessage {message message' : Message} (hsession : message.sessionId ≠ sid)
    (h : s.insertMessage message = .ok (s', message')) : s'.cut sid = s.cut sid := by
  obtain ⟨parentId, row, -, rfl, hrow, -, -, -, -, rfl⟩ := insertMessage_eq_ok_iff.mp h
  have hother : (row.sessionId == .ofUuid sid) = false := by
    rw [(Message.toRow_eq_ok_iff.mp hrow).2.1]
    simpa using hsession
  simp only [cut,
    filter_append_of_not (p := fun r : MessageRow => r.sessionId == .ofUuid sid) hother]

/-- A task of another session leaves the cut as it is. -/
lemma cut_eq_of_insertTask {task : Task} (hsession : task.sessionId ≠ sid)
    (h : s.insertTask task = .ok s') : s'.cut sid = s.cut sid := by
  obtain ⟨row, hrow, -, -, -, rfl⟩ := insertTask_eq_ok_iff.mp h
  have hother : (row.sessionId == .ofUuid sid) = false := by
    rw [(Task.toRow_eq_ok_iff.mp hrow).2.1]
    simpa using hsession
  simp only [cut, filter_append_of_not (p := fun r : TaskRow => r.sessionId == .ofUuid sid) hother]

/-- Changing a task of another session leaves the cut as it is. -/
lemma cut_eq_of_updateTask {id : Uuid}
    (hother : ∀ t ∈ s.tasks, t.id = .ofUuid id → t.sessionId ≠ .ofUuid sid)
    {change : TaskRow → TaskRow} (hchange : ∀ t, (change t).sessionId = t.sessionId) :
    cut sid { s with tasks := updateWhere id change s.tasks } = s.cut sid := by
  have hsame : (updateWhere id change s.tasks).filter (fun t => t.sessionId == .ofUuid sid) =
      s.tasks.filter fun t => t.sessionId == .ofUuid sid :=
    filter_updateWhere_of_not (fun t => by rw [hchange]) fun t ht hid =>
      beq_false_of_ne (hother t ht hid)
  simp only [cut, hsame]

/-! ### Batches -/

/-- A batch is carried out if its time can be stored. -/
lemma exists_setProcessStatus (s : Store) {now : Instant} {updatedAt : Cell}
    (hnow : Cell.ofInstant now = .ok updatedAt) (ids : List Uuid) (status : TaskStatus) :
    ∃ store n, s.setProcessStatus now ids status = .ok (store, n) := by
  simp only [setProcessStatus, hnow, ok_bind_eq]
  exact ⟨_, _, rfl⟩

/-- A batch over messages of several sessions does to one session what it does with the messages of
this session alone. -/
lemma cut_setProcessStatus {now : Instant} {ids own : List Uuid} {status : TaskStatus} {n n' : Nat}
    {t t' : Store} (hown : ∀ id ∈ own, id ∈ ids)
    (hids : ∀ m ∈ s.messages, m.sessionId = .ofUuid sid → ∀ id ∈ ids, m.id = .ofUuid id → id ∈ own)
    (h : s.setProcessStatus now ids status = .ok (t, n))
    (h' : (s.cut sid).setProcessStatus now own status = .ok (t', n')) : t' = t.cut sid := by
  obtain ⟨updatedAt, hnow, rfl⟩ := setProcessStatus_eq_ok h
  obtain ⟨updatedAt', hnow', rfl⟩ := setProcessStatus_eq_ok h'
  obtain rfl : updatedAt = updatedAt' := Except.ok.inj (hnow.symm.trans hnow')
  let set (ids : List Uuid) (r : MessageRow) : MessageRow :=
    if r.id ∈ ids.map Cell.ofUuid then
      { r with processStatus := .text status.name, updatedAt }
    else r
  have hsession : ∀ r, ((set ids r).sessionId == .ofUuid sid) = (r.sessionId == .ofUuid sid) := by
    intro r
    dsimp only [set]
    split <;> rfl
  have hmessages : (s.cut sid).messages.map (set own) =
      (s.messages.map (set ids)).filter fun r => r.sessionId == .ofUuid sid := by
    rw [List.filter_map, Function.comp_def]
    simp only [hsession]
    refine List.map_congr_left fun m hm => ?_
    obtain ⟨hstored, hm⟩ := List.mem_filter.mp hm
    have hmem : m.id ∈ own.map Cell.ofUuid ↔ m.id ∈ ids.map Cell.ofUuid := by
      constructor
      · intro hid
        obtain ⟨id, hid, heq⟩ := List.mem_map.mp hid
        exact List.mem_map.mpr ⟨id, hown id hid, heq⟩
      · intro hid
        obtain ⟨id, hid, heq⟩ := List.mem_map.mp hid
        exact List.mem_map.mpr ⟨id, hids m hstored (eq_of_beq hm) id hid heq.symm, heq⟩
    simp only [set, hmem]
  exact congrArg (fun messages => { s.cut sid with messages }) hmessages

end Colloquy.Store
