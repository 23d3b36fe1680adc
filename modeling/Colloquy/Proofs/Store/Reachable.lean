import Colloquy.Proofs.Store.Chain
import Colloquy.Proofs.Store.Frame

/-!
# Stores that operations lead to

Every store that operations lead to is well-formed: its tables are tables of written rows with
different ids, and the messages of each session form a chain. Each operation keeps this
(`WellFormed.perform`), so it holds after every run (`Reachable.wellFormed`). For the removal of a
session the chains are what matters: they keep a reply in the session of what it replies to.
-/

namespace Colloquy.Store

open MessageRow

/-- What holds of a store after any operations. -/
structure WellFormed (s : Store) : Prop where
  spaces : IsTable s.spaces
  sessions : IsTable s.sessions
  messages : IsTable s.messages
  tasks : IsTable s.tasks
  disks : IsTable s.disks
  chained : ∀ sessionId, Chained (s.messages.filter fun r => r.sessionId == sessionId)

namespace WellFormed

variable {s s' : Store}

/-- A store without rows is well-formed. -/
lemma empty : Store.empty.WellFormed where
  spaces := .nil
  sessions := .nil
  messages := .nil
  tasks := .nil
  disks := .nil
  chained _ := .nil

/-! ### Messages -/

/-- A reply is in the session of the message that it replies to. -/
lemma closed (h : s.WellFormed) (sessionId : Cell) :
    Deletion.Closed (fun r => r.sessionId == sessionId) s.messages := by
  refine ⟨h.messages.nodup_rows, fun r hr hsession m hm hreply => ?_⟩
  obtain ⟨hne, hparent⟩ : r.id ≠ .null ∧ m.parentId = r.id := by
    simpa [Deletion.isReply] using hreply
  have hmem : m ∈ s.messages.filter fun r => r.sessionId == m.sessionId :=
    List.mem_filter.mpr ⟨hm, by simp⟩
  rcases (h.chained m.sessionId).exists_parent hmem with hnull | ⟨parent, hmem, hid⟩
  · exact absurd (hparent.symm.trans hnull) hne
  · obtain ⟨hstored, hsame⟩ := List.mem_filter.mp hmem
    obtain rfl := h.messages.eq_of_id_eq hstored hr (hid.trans hparent)
    rw [eq_of_beq hsame] at hsession
    exact hsession

/-- The last message of a session is found by its id. -/
lemma ofUuid?_lastMessageId? (h : s.WellFormed) {sessionId : Uuid} {parentId : Option Uuid}
    (hparent : s.lastMessageId? sessionId = .ok parentId) :
    Cell.ofUuid? parentId =
      lastId (s.messages.filter fun r => r.sessionId == .ofUuid sessionId) := by
  unfold lastMessageId? at hparent
  split at hparent
  next hnone =>
    obtain rfl := Except.ok.inj hparent
    rw [List.getLast?_eq_none_iff.mp hnone]
    rfl
  next r hlast =>
    have hmem := List.mem_of_mem_filter (List.mem_of_getLast? hlast)
    obtain ⟨key, hid, -⟩ := (h.messages.written r hmem).exists_isAt
    rw [show r.id = .ofUuid key.id from hid, Cell.uuid?_ofUuid] at hparent
    obtain rfl := Except.ok.inj hparent
    rw [lastId_eq_of_getLast? hlast]
    exact hid.symm

/-- Messages can be changed in columns other than id, session and parent. -/
lemma map_messages (h : s.WellFormed) {f : MessageRow → MessageRow} (hid : ∀ r, (f r).id = r.id)
    (hsession : ∀ r, (f r).sessionId = r.sessionId) (hparent : ∀ r, (f r).parentId = r.parentId)
    (hwritten : ∀ r, Row.Written r → Row.Written (f r)) :
    WellFormed { s with messages := s.messages.map f } :=
  { h with
    messages := h.messages.map hid hwritten
    chained := fun sessionId => by
      have hsame : (fun r : MessageRow => r.sessionId == sessionId) ∘ f =
          fun r => r.sessionId == sessionId := by
        funext r
        rw [Function.comp_apply, hsession]
      dsimp only
      rw [List.filter_map, hsame]
      exact (h.chained sessionId).map hid hparent }

/-- The messages of a session can be removed. -/
lemma remove_messages (h : s.WellFormed) (sessionId : Cell) :
    WellFormed { s with messages := s.messages.filter fun r => r.sessionId != sessionId } :=
  { h with
    messages := h.messages.filter _
    chained := fun other => by
      dsimp only
      rw [List.filter_filter]
      by_cases hother : other = sessionId
      · rw [List.filter_eq_nil_iff.mpr]
        · exact .nil
        · intro r _
          simp [hother]
      · have hsame : ∀ r : MessageRow,
            (r.sessionId == other && r.sessionId != sessionId) = (r.sessionId == other) := by
          intro r
          by_cases hr : r.sessionId = other <;> simp [hr, hother]
        simp only [hsame]
        exact h.chained other }

/-- A message can be added to the end of its session. -/
lemma append_message (h : s.WellFormed) {row : MessageRow} (hrow : Row.Written row)
    (hnew : hasId row.id s.messages = false)
    (hparent : row.parentId = lastId (s.messages.filter fun r => r.sessionId == row.sessionId)) :
    WellFormed { s with messages := s.messages ++ [row] } :=
  { h with
    messages := h.messages.append hrow hnew
    chained := fun sessionId => by
      dsimp only
      rw [List.filter_append]
      by_cases hsession : row.sessionId = sessionId
      · rw [List.filter_singleton, hsession, beq_self_eq_true, cond_true]
        exact (h.chained sessionId).append (hsession ▸ hparent)
      · rw [List.filter_singleton, beq_false_of_ne hsession, cond_false, List.append_nil]
        exact h.chained sessionId }

/-! ### Operations -/

/-- Inserting a message leads to a well-formed store. -/
lemma insertMessage (h : s.WellFormed) {message message' : Message}
    (hinsert : s.insertMessage message = .ok (s', message')) : s'.WellFormed := by
  obtain ⟨parentId, row, hparent, rfl, hrow, hnew, -, -, -, rfl⟩ :=
    insertMessage_eq_ok_iff.mp hinsert
  have hlinks := Message.links_of_toRow hrow
  have hsession : row.sessionId = .ofUuid message.sessionId := congrArg (·.2.1) hlinks
  have hreply : row.parentId = .ofUuid? parentId := congrArg (·.2.2) hlinks
  refine h.append_message ⟨_, hrow⟩ hnew ?_
  rw [hreply, hsession]
  exact h.ofUuid?_lastMessageId? hparent

/-- Setting the status of messages leads to a well-formed store. -/
lemma setProcessStatus (h : s.WellFormed) {now : Instant} {ids : List Uuid} {status : TaskStatus}
    {n : Nat} (hset : s.setProcessStatus now ids status = .ok (s', n)) : s'.WellFormed := by
  obtain ⟨updatedAt, hnow, rfl⟩ := setProcessStatus_eq_ok hset
  refine h.map_messages (fun r => ?_) (fun r => ?_) (fun r => ?_) fun r hr => ?_
  · split <;> rfl
  · split <;> rfl
  · split <;> rfl
  · split
    · exact written_processStatus hr hnow status
    · exact hr

/-- Removing a space leads to a well-formed store. -/
lemma deleteSpace (h : s.WellFormed) {id : Uuid} (hdelete : s.deleteSpace id = .ok s') :
    s'.WellFormed := by
  obtain ⟨-, rfl⟩ := deleteSpace_eq_ok_iff.mp hdelete
  refine { h with
    spaces := h.spaces.filter _
    sessions := h.sessions.map (fun r => ?_) fun r hr => ?_ }
  · split <;> rfl
  · split
    · exact SessionRow.written_disconnected hr
    · exact hr

/-- Removing a session leads to a well-formed store. -/
lemma deleteSession (h : s.WellFormed) {id : Uuid} (hdelete : s.deleteSession id = .ok s') :
    s'.WellFormed := by
  obtain ⟨-, rfl⟩ := deleteSession_eq_ok (h.closed _) h.tasks.nodup_rows hdelete
  have hmessages := (h.remove_messages (.ofUuid id)).map_messages
    (Deletion.clearTasks_id _) (Deletion.clearTasks_sessionId _) (Deletion.clearTasks_parentId _)
    (Deletion.written_clearTasks (s.tasks.filter fun t => t.sessionId == .ofUuid id))
  exact { hmessages with sessions := h.sessions.filter _, tasks := h.tasks.filter _ }

/-- Every operation that is carried out leads to a well-formed store again. -/
theorem perform (h : s.WellFormed) {op : Operation} (hop : s.perform op = .ok s') :
    s'.WellFormed := by
  cases op with
  | migrate =>
    obtain ⟨-, rfl⟩ := migrate_eq_ok_iff.mp hop
    exact { h with }
  | createSpace space =>
    obtain ⟨row, hrow, hnew, rfl⟩ := createSpace_eq_ok_iff.mp hop
    exact { h with spaces := h.spaces.append ⟨_, hrow⟩ hnew }
  | updateSpaceConfigs now id configs =>
    obtain ⟨updatedAt, hnow, -, rfl⟩ := updateSpaceConfigs_eq_ok_iff.mp hop
    exact { h with
      spaces := h.spaces.updateWhere id (fun r => rfl) fun r hr =>
        SpaceRow.written_configs hr hnow configs }
  | deleteSpace id => exact h.deleteSpace hop
  | createSession session =>
    obtain ⟨row, hrow, hnew, -, rfl⟩ := createSession_eq_ok_iff.mp hop
    exact { h with sessions := h.sessions.append ⟨_, hrow⟩ hnew }
  | updateSessionConfigs now id configs =>
    obtain ⟨updatedAt, hnow, -, rfl⟩ := updateSessionConfigs_eq_ok_iff.mp hop
    exact { h with
      sessions := h.sessions.updateWhere id (fun r => rfl) fun r hr =>
        SessionRow.written_configs hr hnow configs }
  | connectSession now id spaceId =>
    obtain ⟨-, updatedAt, -, hnow, -, rfl⟩ := connectSession_eq_ok_iff.mp hop
    exact { h with
      sessions := h.sessions.updateWhere id (fun r => rfl) fun r hr =>
        SessionRow.written_connected hr hnow spaceId }
  | deleteSession id => exact h.deleteSession hop
  | insertMessage message =>
    obtain ⟨⟨s', message'⟩, hinsert, rfl⟩ := map_eq_ok_iff.mp hop
    exact h.insertMessage hinsert
  | setProcessStatus now ids status =>
    obtain ⟨⟨s', n⟩, hset, rfl⟩ := map_eq_ok_iff.mp hop
    exact h.setProcessStatus hset
  | insertTask task =>
    obtain ⟨row, hrow, -, hnew, -, rfl⟩ := insertTask_eq_ok_iff.mp hop
    exact { h with tasks := h.tasks.append ⟨_, hrow⟩ hnew }
  | updateTaskStatus now id status =>
    obtain ⟨updatedAt, hnow, -, rfl⟩ := updateTaskStatus_eq_ok_iff.mp hop
    exact { h with
      tasks := h.tasks.updateWhere id (fun r => rfl) fun r hr =>
        TaskRow.written_status hr hnow status }
  | markTaskDigested now id =>
    obtain ⟨updatedAt, hnow, -, rfl⟩ := markTaskDigested_eq_ok_iff.mp hop
    exact { h with
      tasks := h.tasks.updateWhere id (fun r => rfl) fun r hr =>
        TaskRow.written_digested hr hnow true }
  | createDisk disk =>
    obtain ⟨row, hrow, hnew, rfl⟩ := createDisk_eq_ok_iff.mp hop
    exact { h with disks := h.disks.append ⟨_, hrow⟩ hnew }
  | deleteDisk id =>
    obtain ⟨-, rfl⟩ := deleteDisk_eq_ok_iff.mp hop
    exact { h with disks := h.disks.filter _ }

/-- A step leads from a well-formed store to a well-formed one. -/
lemma step (h : s.WellFormed) (op : Operation) : (s.step op).WellFormed := by
  unfold Store.step
  split
  next hop => exact h.perform hop
  next => exact h

/-- A run leads from a well-formed store to a well-formed one. -/
lemma run (h : s.WellFormed) (ops : List Operation) : (s.run ops).WellFormed := by
  induction ops generalizing s with
  | nil => exact h
  | cons op rest ih => exact ih (h.step op)

end WellFormed

/-- The stores that operations lead to are well-formed. -/
theorem Reachable.wellFormed {s : Store} (h : s.Reachable) : s.WellFormed := by
  obtain ⟨ops, rfl⟩ := h
  exact WellFormed.empty.run ops

/-- Operations lead on from a store that operations led to. -/
lemma Reachable.run {s : Store} (h : s.Reachable) (ops : List Operation) :
    (s.run ops).Reachable := by
  obtain ⟨before, rfl⟩ := h
  exact ⟨before ++ ops, (List.foldl_append ..).symm⟩

/-- An operation leads on from a store that operations led to. -/
lemma Reachable.perform {s s' : Store} (h : s.Reachable) {op : Operation}
    (hop : s.perform op = .ok s') : s'.Reachable := by
  have hstep : s.run [op] = s' := by
    simp only [Store.run, List.foldl_cons, List.foldl_nil, Store.step, hop]
  exact hstep ▸ h.run [op]

/-! ### The layout -/

/-- No operation leaves the current layout. -/
lemma version_perform {s s' : Store} (hversion : s.version = supportedVersion) {op : Operation}
    (hop : s.perform op = .ok s') : s'.version = supportedVersion := by
  by_cases hmigrate : op = .migrate
  · subst hmigrate
    obtain ⟨-, rfl⟩ := migrate_eq_ok_iff.mp hop
    dsimp only
    rw [hversion]
    rfl
  · have hversion' : s'.version = s.version :=
      (perform_frame hop).version (by cases op <;> simp_all [Operation.changes])
    rw [hversion', hversion]

/-- Operations lead to stores of the current layout. -/
lemma Reachable.version_eq {s : Store} (h : s.Reachable) : s.version = supportedVersion := by
  obtain ⟨ops, rfl⟩ := h
  have hrun : ∀ {s : Store}, s.version = supportedVersion →
      (s.run ops).version = supportedVersion := by
    induction ops with
    | nil => exact fun hversion => hversion
    | cons op rest ih =>
      intro s hversion
      refine ih ?_
      unfold Store.step
      split
      next hop => exact version_perform hversion hop
      next => exact hversion
  exact hrun rfl

/-- Nothing is to be done to bring such a store up to date. -/
lemma Reachable.migrate_eq {s : Store} (h : s.Reachable) : s.migrate = .ok s := by
  have hversion : s.version = 1 := h.version_eq
  rw [migrate_eq_ok_iff, hversion]
  exact ⟨le_rfl, by rw [max_self, ← hversion]⟩

end Colloquy.Store
