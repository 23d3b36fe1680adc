import Colloquy.Proofs.Store.Integrity

/-!
# When a message is inserted

The parent that the store finds for a message is always there, so a message with storable times is
inserted if its id is new and its session and task are stored (`exists_insertMessage`). In
particular a session can get as many messages as there are ids (`length_run_insertMessage`).
-/

namespace Colloquy.Store

open MessageRow

variable {s : Store}

/-- The message inserted last into a session can be found. -/
lemma WellFormed.exists_lastMessageId? (hs : s.WellFormed) (sessionId : Uuid) :
    ∃ parentId, s.lastMessageId? sessionId = .ok parentId := by
  unfold lastMessageId?
  split
  next => exact ⟨_, rfl⟩
  next r hlast =>
    have hmem := List.mem_of_mem_filter (List.mem_of_getLast? hlast)
    obtain ⟨message, hrow⟩ := hs.messages.written r hmem
    rw [(Message.toRow_eq_ok_iff.mp hrow).1, Cell.uuid?_ofUuid]
    exact ⟨_, rfl⟩

/-- The last message of a session is stored. -/
lemma dangles_lastId (p : MessageRow → Bool) :
    dangles (lastId (s.messages.filter p)) s.messages = false := by
  cases hlast : (s.messages.filter p).getLast? with
  | none =>
    rw [List.getLast?_eq_none_iff.mp hlast]
    exact dangles_null _
  | some r =>
    rw [lastId_eq_of_getLast? hlast, dangles_eq_false_iff]
    exact fun _ => ⟨r, List.mem_of_mem_filter (List.mem_of_getLast? hlast), rfl⟩

/-- A message is inserted if its times can be stored, its id is new, and what it names is stored. -/
lemma WellFormed.exists_insertMessage (hs : s.WellFormed) {message : Message} {row : MessageRow}
    (hrow : message.toRow = .ok row) (hnew : hasId (.ofUuid message.id) s.messages = false)
    (hsession : dangles (.ofUuid message.sessionId) s.sessions = false)
    (htask : dangles (.ofUuid? message.taskId) s.tasks = false) :
    ∃ parentId : Option Uuid,
      s.insertMessage message =
        .ok ({ s with messages := s.messages ++ [{ row with parentId := .ofUuid? parentId }] },
          { message with parentId }) := by
  obtain ⟨parentId, hparent⟩ := hs.exists_lastMessageId? message.sessionId
  obtain ⟨hid, hsessionId, -, hrole, hmetadata, hparts, htaskId, hrest⟩ :=
    Message.toRow_eq_ok_iff.mp hrow
  have hreply : dangles (.ofUuid? parentId)
      (s.messages ++ [{ row with parentId := .ofUuid? parentId }]) = false := by
    rw [hs.ofUuid?_lastMessageId? hparent]
    exact dangles_append (dangles_lastId _) _
  refine ⟨parentId, insertMessage_eq_ok_iff.mpr ⟨parentId,
    { row with parentId := .ofUuid? parentId }, hparent, rfl, ?_, ?_, ?_, hreply, ?_, rfl⟩⟩
  · exact Message.toRow_eq_ok_iff.mpr
      ⟨hid, hsessionId, rfl, hrole, hmetadata, hparts, htaskId, hrest⟩
  · exact hid ▸ hnew
  · exact hsessionId ▸ hsession
  · exact htaskId ▸ htask

/-- Messages with different new ids are inserted one after another, and their session grows by
their number. -/
lemma length_run_insertMessage (hs : s.WellFormed) {sessionId : Uuid}
    (hsession : hasId (.ofUuid sessionId) s.sessions = true) {now : Instant} {cell : Cell}
    (hnow : Cell.ofInstant now = .ok cell) {ids : List Uuid} (hids : ids.Nodup)
    (hnew : ∀ id ∈ ids, hasId (.ofUuid id) s.messages = false) :
    let s' := s.run (ids.map fun id => .insertMessage (.new id now sessionId .user [] []))
    s'.sessions = s.sessions ∧
      (s'.messages.filter fun m => m.sessionId == .ofUuid sessionId).length =
        (s.messages.filter fun m => m.sessionId == .ofUuid sessionId).length + ids.length := by
  induction ids generalizing s with
  | nil => exact ⟨rfl, rfl⟩
  | cons id rest ih =>
    obtain ⟨hfresh, hrest⟩ := List.nodup_cons.mp hids
    let message : Message := .new id now sessionId .user [] []
    let row : MessageRow := ⟨.ofUuid id, .ofUuid sessionId, .null, .text "user", .ofObject [],
      .ofParts [], .null, .text "pending", cell, cell⟩
    have hrow : message.toRow = .ok row :=
      Message.toRow_eq_ok_iff.mpr ⟨rfl, rfl, rfl, rfl, rfl, rfl, rfl, rfl, hnow, hnow⟩
    have hstored : dangles (.ofUuid sessionId) s.sessions = false :=
      dangles_eq_false_iff.mpr fun _ => hasId_eq_true_iff.mp hsession
    obtain ⟨parentId, hinsert⟩ := hs.exists_insertMessage hrow (hnew id List.mem_cons_self) hstored
      (dangles_null _)
    have hstep : s.step (.insertMessage message) =
        { s with messages := s.messages ++ [{ row with parentId := .ofUuid? parentId }] } := by
      simp [step, perform, hinsert, Except.map]
    have hlater : ∀ other ∈ rest, hasId (.ofUuid other)
        (s.messages ++ [{ row with parentId := .ofUuid? parentId }]) = false := by
      intro other hother
      rw [hasId_eq_false_iff]
      intro r hr
      rcases List.mem_append.mp hr with hold | hlast
      · exact hasId_eq_false_iff.mp (hnew other (List.mem_cons_of_mem _ hother)) r hold
      · rw [List.mem_singleton.mp hlast]
        exact fun heq => hfresh (Cell.ofUuid_injective heq ▸ hother)
    have hwell := hs.step (.insertMessage message)
    rw [hstep] at hwell
    obtain ⟨hsessions, hlength⟩ := ih hwell hsession hrest hlater
    intro s'
    have hrun : s' = (s.step (.insertMessage message)).run
        (rest.map fun id => .insertMessage (.new id now sessionId .user [] [])) := rfl
    rw [hrun, hstep]
    refine ⟨hsessions, hlength.trans ?_⟩
    rw [List.filter_append, List.length_append, List.length_cons]
    simp [row]
    omega

end Colloquy.Store
