import Mathlib.Algebra.Order.BigOperators.Group.List
import Colloquy.Proofs.Store.Reachable
import Colloquy.Store.History

/-!
# The messages of a session are a chain

A history keeps track of the table of messages: the insertions that it has noted name the stored
messages in the order of their rows (`History.links_eq`). What an operation does to messages, other
than inserting one, is to remove those of some sessions and to change columns that name nothing, so
the chains stay, and each message names the one inserted into its session just before it
(`History.chained`).
-/

namespace Colloquy.Store

open MessageRow (links)

variable {s s' : Store}

/-! ### Operations and the links of messages -/

/-- Changes of other columns leave the links of messages as they are. -/
lemma map_links {f : MessageRow → MessageRow} (hf : ∀ r, (f r).links = r.links)
    (messages : List MessageRow) : (messages.map f).map links = messages.map links := by
  rw [List.map_map]
  exact List.map_congr_left fun r _ => hf r

/-- An operation that does not insert a message removes the messages of some sessions, and leaves
the links of the others. -/
lemma exists_links_of_perform (hs : s.WellFormed) {op : Operation} (hop : s.perform op = .ok s')
    (hinsert : ∀ message, op ≠ .insertMessage message) :
    ∃ keep : Cell → Bool,
      s'.messages.map links = (s.messages.filter fun r => keep r.sessionId).map links := by
  cases op with
  | deleteSession id =>
    obtain ⟨-, rfl⟩ := deleteSession_eq_ok (hs.closed _) hs.tasks.nodup_rows hop
    refine ⟨fun sessionId => sessionId != .ofUuid id, map_links (fun r => ?_) _⟩
    simp only [links, Deletion.clearTasks_id, Deletion.clearTasks_sessionId,
      Deletion.clearTasks_parentId]
  | insertMessage message => exact absurd rfl (hinsert message)
  | setProcessStatus now ids status =>
    obtain ⟨⟨s', n⟩, hset, rfl⟩ := map_eq_ok_iff.mp hop
    obtain ⟨updatedAt, -, rfl⟩ := setProcessStatus_eq_ok hset
    refine ⟨fun _ => true, ?_⟩
    rw [List.filter_true]
    exact map_links (fun r => by split <;> rfl) _
  | _ =>
    have hsame : s'.messages = s.messages :=
      (perform_frame hop).messages (by simp [Operation.changes])
    exact ⟨fun _ => true, by rw [List.filter_true, hsame]⟩

/-- The same of an operation that may be refused. -/
lemma exists_links_of_step (hs : s.WellFormed) {op : Operation}
    (hop : ∀ message, op = .insertMessage message → ∃ e, s.insertMessage message = .error e) :
    ∃ keep : Cell → Bool,
      (s.step op).messages.map links = (s.messages.filter fun r => keep r.sessionId).map links := by
  unfold step
  split
  next s' hok =>
    refine exists_links_of_perform hs hok ?_
    rintro message rfl
    obtain ⟨e, he⟩ := hop message rfl
    simp [perform, he, Except.map] at hok
  next => exact ⟨fun _ => true, by rw [List.filter_true]⟩

/-! ### Histories -/

namespace History

variable {insertions : List Insertion}

/-- A history is a run of operations. -/
theorem reachable (h : History s insertions) : s.Reachable := by
  induction h with
  | empty => exact ⟨[], rfl⟩
  | @insert s s' _ message message' _ _ hinsert _ ih =>
    have hstep : s.run [.insertMessage message] = s' := by
      simp [run, step, perform, hinsert, Except.map]
    exact hstep ▸ ih.run _
  | @other _ _ op _ _ ih => exact ih.run [op]

/-- An insertion stays noted exactly if its message is in a session whose messages are kept. -/
lemma isStored_eq_of_links (hs : s.WellFormed) {keep : Cell → Bool}
    (hlinks : s.messages.map links = insertions.map (·.message.links))
    (hkeep : s'.messages.map links =
      (s.messages.filter fun r => keep r.sessionId).map links) {insertion : Insertion}
    (hmem : insertion ∈ insertions) :
    insertion.isStored s' = keep (.ofUuid insertion.message.sessionId) := by
  have hstored : insertion.message.links ∈ s.messages.map links :=
    hlinks ▸ List.mem_map_of_mem hmem
  obtain ⟨r, hr, hlink⟩ := List.mem_map.mp hstored
  have hid : r.id = .ofUuid insertion.message.id := congrArg (·.1) hlink
  have hsession : r.sessionId = .ofUuid insertion.message.sessionId := congrArg (·.2.1) hlink
  rw [← hsession, Bool.eq_iff_iff, Insertion.isStored, hasId_eq_true_iff]
  constructor
  · rintro ⟨r', hr', hid'⟩
    have hlink' : r'.links ∈ (s.messages.filter fun r => keep r.sessionId).map links :=
      hkeep ▸ List.mem_map_of_mem hr'
    obtain ⟨before, hbefore, hsame⟩ := List.mem_map.mp hlink'
    obtain ⟨hold, hkept⟩ := List.mem_filter.mp hbefore
    have hsameId : before.id = r'.id := congrArg (·.1) hsame
    obtain rfl := hs.messages.eq_of_id_eq hold hr (hsameId.trans (Eq.trans hid' hid.symm))
    exact hkept
  · intro hkept
    have hlink' : r.links ∈ s'.messages.map links :=
      hkeep ▸ List.mem_map_of_mem (List.mem_filter.mpr ⟨hr, hkept⟩)
    obtain ⟨r', hr', hsame⟩ := List.mem_map.mp hlink'
    exact ⟨r', hr', Eq.trans (congrArg (·.1) hsame) hid⟩

/-- The insertions that are noted are those of the stored messages, in the order of their rows. -/
lemma links_eq (h : History s insertions) :
    s.messages.map links = insertions.map (·.message.links) := by
  induction h with
  | empty => rfl
  | insert _ hinsert _ ih =>
    obtain ⟨parentId, row, -, rfl, hrow, -, -, -, -, rfl⟩ := insertMessage_eq_ok_iff.mp hinsert
    rw [List.map_append, List.map_append, ih, List.map_singleton, List.map_singleton,
      Message.links_of_toRow hrow]
  | @other s insertions op h hop ih =>
    obtain ⟨keep, hkeep⟩ := exists_links_of_step h.reachable.wellFormed hop
    have hnoted : insertions.filter (Insertion.isStored (s.step op)) =
        insertions.filter fun i => keep i.message.links.2.1 :=
      List.filter_congr fun i hi => isStored_eq_of_links h.reachable.wellFormed ih hkeep hi
    calc (s.step op).messages.map links
        = (s.messages.map links).filter fun l => keep l.2.1 := by
          rw [hkeep, List.filter_map]
          rfl
      _ = (insertions.map (·.message.links)).filter fun l => keep l.2.1 := by rw [ih]
      _ = (insertions.filter (Insertion.isStored (s.step op))).map (·.message.links) := by
          rw [hnoted, List.filter_map]
          rfl

/-- The order of the insertions is that of their row numbers, as the numbers are taken to grow from
one insertion to the next (`History.insert`). -/
lemma pairwise_rowNumber (h : History s insertions) :
    insertions.Pairwise fun i j => i.rowNumber < j.rowNumber := by
  induction h with
  | empty => exact List.Pairwise.nil
  | insert _ _ hnumber ih =>
    refine List.pairwise_append.mpr ⟨ih, List.pairwise_singleton _ _, fun i hi j hj => ?_⟩
    rw [List.mem_singleton.mp hj]
    exact hnumber i hi
  | other _ _ ih => exact ih.filter _

/-! ### Chains -/

/-- The insertions into a session are those of its stored messages. -/
lemma links_eq_of_session (h : History s insertions) (sessionId : Uuid) :
    (s.messages.filter fun r => r.sessionId == .ofUuid sessionId).map links =
      (insertions.filter fun i => i.message.sessionId == sessionId).map (·.message.links) := by
  have hsession : insertions.filter (fun i => i.message.sessionId == sessionId) =
      insertions.filter fun i => i.message.links.2.1 == .ofUuid sessionId :=
    List.filter_congr fun i _ => (Cell.ofUuid_beq _ _).symm
  calc (s.messages.filter fun r => r.sessionId == .ofUuid sessionId).map links
      = (s.messages.map links).filter fun l => l.2.1 == .ofUuid sessionId := by
        rw [List.filter_map]
        rfl
    _ = (insertions.map (·.message.links)).filter fun l => l.2.1 == .ofUuid sessionId := by
        rw [h.links_eq]
    _ = (insertions.filter fun i => i.message.sessionId == sessionId).map (·.message.links) := by
        rw [hsession, List.filter_map]
        rfl

end History

/-- Rows in a chain are the rows of messages in a chain. -/
lemma parents_of_chained {messages : List MessageRow} {chain : List Insertion}
    (hchained : MessageRow.Chained messages)
    (hlinks : messages.map links = chain.map (·.message.links)) :
    chain.map (·.message.parentId) = (none :: chain.map fun i => some i.message.id).dropLast := by
  have hids : messages.map (·.id) = chain.map fun i => Cell.ofUuid i.message.id := by
    simpa [Function.comp_def, MessageRow.links, Message.links] using
      congrArg (List.map (·.1)) hlinks
  have hparents :
      messages.map (·.parentId) = chain.map fun i => Cell.ofUuid? i.message.parentId := by
    simpa [Function.comp_def, MessageRow.links, Message.links] using
      congrArg (List.map (·.2.2)) hlinks
  refine List.map_injective_iff.mpr (fun _ _ => Cell.ofUuid?_injective) ?_
  calc (chain.map (·.message.parentId)).map Cell.ofUuid?
      = messages.map (·.parentId) := by rw [List.map_map, hparents]; rfl
    _ = (Cell.null :: chain.map fun i => Cell.ofUuid i.message.id).dropLast := by
        rw [hchained, hids]
    _ = (none :: chain.map fun i => some i.message.id).dropLast.map Cell.ofUuid? := by
        rw [List.map_dropLast, List.map_cons, List.map_map]
        rfl

/-- The id of the last message is the id of the last insertion. -/
lemma lastId_eq {messages : List MessageRow} {chain : List Insertion}
    (hlinks : messages.map links = chain.map (·.message.links)) :
    MessageRow.lastId messages = .ofUuid? (chain.getLast?.map (·.message.id)) := by
  have hlast := congrArg List.getLast? hlinks
  rw [List.getLast?_map, List.getLast?_map] at hlast
  cases hchain : chain.getLast? with
  | none =>
    rw [hchain, Option.map_none, Option.map_eq_none_iff, List.getLast?_eq_none_iff] at hlast
    rw [hlast]
    rfl
  | some i =>
    rw [hchain, Option.map_some, Option.map_eq_some_iff] at hlast
    obtain ⟨r, hr, hlink⟩ := hlast
    rw [MessageRow.lastId_eq_of_getLast? hr]
    exact congrArg (·.1) hlink

/-- The messages that were inserted into a session and are still stored form a chain in the order of
their insertions: the first one has no parent, and each other one has the one before it. This is
also the order of their rows, and of the numbers of their rows if these grow as `History.insert`
takes for granted. The next message that is inserted extends the chain, and it is given back with
the parent that is stored. -/
theorem History.chained {insertions : List Insertion} (h : History s insertions)
    (sessionId : Uuid) :
    let chain := insertions.filter fun i => i.message.sessionId == sessionId
    (s.messages.filter fun r => r.sessionId == .ofUuid sessionId).map links =
        chain.map (·.message.links) ∧
      chain.map (·.message.parentId) =
        (none :: chain.map fun i => some i.message.id).dropLast ∧
      chain.Pairwise (fun i j => i.rowNumber < j.rowNumber) ∧
      ∀ message s' message', message.sessionId = sessionId →
        s.insertMessage message = .ok (s', message') →
          message' = { message with parentId := chain.getLast?.map (·.message.id) } ∧
            ∃ row, s'.messages = s.messages ++ [row] ∧ row.links = message'.links := by
  intro chain
  have hs := h.reachable.wellFormed
  have hlinks := h.links_eq_of_session sessionId
  refine ⟨hlinks, parents_of_chained (hs.chained _) hlinks, h.pairwise_rowNumber.filter _, ?_⟩
  rintro message s' message' rfl hinsert
  obtain ⟨parentId, row, hparent, rfl, hrow, -, -, -, -, rfl⟩ := insertMessage_eq_ok_iff.mp hinsert
  have hlast : parentId = chain.getLast?.map (·.message.id) :=
    Cell.ofUuid?_injective ((hs.ofUuid?_lastMessageId? hparent).trans (lastId_eq hlinks))
  exact ⟨by rw [hlast], row, rfl, Message.links_of_toRow hrow⟩

/-- Two messages of a session, of which the later one bears the earlier time. -/
theorem History.chained_two_messages :
    let session := Session.new (.ofNat 1) (.ofNanos ⟨0, by decide⟩) (.ofNat 7) none []
    let message (id : Nat) (time : Decimal.Int64) (parentId : Option Uuid) : Message :=
      { Message.new (.ofNat id) (.ofNanos time) session.id .user [] [] with parentId }
    let chain : List Insertion :=
      [⟨message 10 ⟨5, by decide⟩ none, 1⟩, ⟨message 11 ⟨3, by decide⟩ (some (.ofNat 10)), 2⟩]
    ∃ s, History s chain ∧
      (s.messages.filter fun r => r.sessionId == .ofUuid session.id).map links =
        chain.map (·.message.links) ∧
      chain.map (·.message.parentId) =
        (none :: chain.map fun i => some i.message.id).dropLast := by
  intro session message chain
  let s := Store.empty.step (.createSession session)
  let row (id : Nat) (time : Int) (parentId : Option Uuid) : MessageRow :=
    ⟨.ofUuid (.ofNat id), .ofUuid session.id, .ofUuid? parentId, .text "user", .text "\x7b\x7d",
      .text "[]", .null, .text "pending", .integer time, .integer time⟩
  let first := row 10 5 none
  let second := row 11 3 (some (.ofNat 10))
  have hempty : History s [] := History.empty.other fun message h => by simp at h
  have hfirst : s.insertMessage (message 10 ⟨5, by decide⟩ none) =
      .ok ({ s with messages := [first] }, message 10 ⟨5, by decide⟩ none) :=
    insertMessage_eq_ok_iff.mpr ⟨none, first, by decide +kernel, rfl, by decide +kernel,
      by decide +kernel, by decide +kernel, by decide +kernel, by decide +kernel, rfl⟩
  have hsecond : ({ s with messages := [first] } : Store).insertMessage
      (message 11 ⟨3, by decide⟩ none) = .ok ({ s with messages := [first, second] },
        message 11 ⟨3, by decide⟩ (some (.ofNat 10))) :=
    insertMessage_eq_ok_iff.mpr ⟨some (.ofNat 10), second, by decide +kernel, rfl,
      by decide +kernel, by decide +kernel, by decide +kernel, by decide +kernel,
      by decide +kernel, rfl⟩
  have hchain : History { s with messages := [first, second] } chain :=
    (hempty.insert hfirst (by simp)).insert hsecond (by simp)
  obtain ⟨hlinks, hparents, -, -⟩ := History.chained hchain session.id
  exact ⟨_, hchain, hlinks, hparents⟩

/-- A history goes on with any operation. -/
lemma History.exists_step {insertions : List Insertion} (h : History s insertions)
    (op : Operation) : ∃ insertions', History (s.step op) insertions' := by
  by_cases hop : ∀ message, op = .insertMessage message → ∃ e, s.insertMessage message = .error e
  · exact ⟨_, h.other hop⟩
  · simp only [not_forall, not_exists] at hop
    obtain ⟨message, rfl, hsucceeds⟩ := hop
    cases hinsert : s.insertMessage message with
    | error e => exact absurd hinsert (hsucceeds e)
    | ok result =>
      have hstep : s.step (.insertMessage message) = result.1 := by
        simp [step, perform, hinsert, Except.map]
      have hnumber : ∀ insertion ∈ insertions,
          insertion.rowNumber < (insertions.map (·.rowNumber)).sum + 1 := fun insertion hmem =>
        Nat.lt_succ_of_le (List.le_sum_of_mem (List.mem_map_of_mem hmem))
      rw [hstep]
      exact ⟨_, h.insert hinsert hnumber⟩

/-- Every store that operations lead to has a history. -/
theorem Reachable.exists_history (h : s.Reachable) : ∃ insertions, History s insertions := by
  obtain ⟨ops, rfl⟩ := h
  suffices hrun : ∀ (s : Store) insertions, History s insertions →
      ∃ insertions', History (s.run ops) insertions' from hrun empty [] .empty
  induction ops with
  | nil => exact fun s insertions h => ⟨insertions, h⟩
  | cons op rest ih =>
    intro s insertions h
    obtain ⟨insertions', hstep⟩ := h.exists_step op
    exact ih _ _ hstep

end Colloquy.Store
