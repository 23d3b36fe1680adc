import Colloquy.Proofs.Store.Insertion

/-!
# When a deletion goes through

A message is removed inside the removal of the one that it replies to. So the chain of a session is
removed by as many nested steps as it has messages, and the removal of the session fails if these
are too many (`removeMessages_of_chain`). What waits between the steps is counted by `dangling`: the
count is kept exact by every step (`Counted`), and since no reference dangled before, none is left
at the end. `deleteSession_run` puts both together and says what removing a session does.
-/

namespace Colloquy

/-! ### Replies along a chain -/

namespace MessageRow

variable {messages before after : List MessageRow} {m : MessageRow}

/-- In a chain a message names the last one before it. -/
lemma Chained.parentId_eq (h : Chained (before ++ m :: after)) : m.parentId = lastId before := by
  have hids : (Cell.null :: (before ++ m :: after).map (·.id)).dropLast =
      (Cell.null :: before.map (·.id)) ++ ((m :: after).map (·.id)).dropLast := by
    rw [List.map_append, ← List.cons_append, List.dropLast_append_of_ne_nil (by simp)]
  have hparents : (before.map (·.parentId) ++ [m.parentId]) ++ after.map (·.parentId) =
      (Cell.null :: before.map (·.id)) ++ ((m :: after).map (·.id)).dropLast := by
    rw [← hids, ← h, List.map_append, List.map_cons, List.append_assoc, List.singleton_append]
  have hbefore := (List.append_inj hparents (by simp)).1
  calc m.parentId
      = (before.map (·.parentId) ++ [m.parentId]).getLast (by simp) := by simp
    _ = lastId before := by simp only [hbefore, lastId]

/-- In a chain with different ids, what replies to a message is the next one. -/
lemma Chained.isReply_iff (h : Chained (before ++ m :: after))
    (hnodup : ((before ++ m :: after).map (·.id)).Nodup) (hid : m.id ≠ .null) {r : MessageRow}
    (hr : r ∈ before ++ m :: after) : Deletion.isReply m r ↔ after.head? = some r := by
  obtain ⟨before', after', hsplit⟩ := List.append_of_mem hr
  have hparent : r.parentId = lastId before' := (hsplit ▸ h).parentId_eq
  simp only [Deletion.isReply, Bool.and_eq_true, bne_iff_ne, ne_eq, hid, not_false_eq_true,
    true_and, beq_iff_eq]
  constructor
  · intro hreply
    cases hlast : before'.getLast? with
    | none =>
      rw [List.getLast?_eq_none_iff] at hlast
      subst hlast
      exact absurd (hreply.symm.trans hparent) hid
    | some p =>
      have hp : p.id = m.id := by rw [← lastId_eq_of_getLast? hlast, ← hparent, hreply]
      obtain ⟨before'', rfl⟩ := List.getLast?_eq_some_iff.mp hlast
      have hstored : p ∈ before ++ m :: after := by rw [hsplit]; simp
      obtain rfl : p = m := List.inj_on_of_nodup_map hnodup hstored (by simp) hp
      have hnot := (List.nodup_middle.mp (hnodup.of_map _ : (before ++ p :: after).Nodup)).notMem
      rw [List.append_assoc, List.singleton_append] at hsplit
      obtain ⟨-, -, rfl⟩ := (List.append_cons_inj_of_notMem
        (fun hmem => hnot (List.mem_append_left _ hmem))
        (fun hmem => hnot (List.mem_append_right _ hmem))).mp hsplit
      rfl
  · intro hnext
    obtain ⟨rest, rfl⟩ := List.head?_eq_some_iff.mp hnext
    have h' : Chained ((before ++ [m]) ++ r :: rest) := by simpa using h
    rw [h'.parentId_eq, lastId_eq_of_getLast? List.getLast?_concat]

end MessageRow

namespace Deletion

open Store MessageRow

variable {d : Deletion}

/-! ### Nested removals -/

/-- Removing messages of which there are none succeeds at any level. -/
lemma removeMessages_of_nil {levels : Nat} {doomed : MessageRow → Bool}
    (h : d.messages.filter doomed = []) : removeMessages levels doomed d = .ok d := by
  unfold removeMessages
  rw [h]
  rfl

/-- Removing messages fails when no level is left. -/
lemma removeMessages_zero {doomed : MessageRow → Bool} {m : MessageRow} {more : List MessageRow}
    (h : d.messages.filter doomed = m :: more) :
    removeMessages 0 doomed d = .error (.violation .nesting) := by
  have hmem : m ∈ d.messages := List.mem_of_mem_filter (h ▸ List.mem_cons_self)
  unfold removeMessages
  rw [h, List.foldlM_cons, if_pos (List.contains_iff_mem.mpr hmem)]
  rfl

/-- If the replies to the first message take all others along, they are all that is removed. -/
lemma removeMessages_succ {levels : Nat} {doomed : MessageRow → Bool} {m : MessageRow}
    {more : List MessageRow} (h : d.messages.filter doomed = m :: more)
    (hgone : ∀ d', removeMessages levels (isReply m) (d.removeMessage m) = .ok d' →
      ∀ r ∈ more, r ∉ d'.messages) :
    removeMessages (levels + 1) doomed d =
      removeMessages levels (isReply m) (d.removeMessage m) := by
  have hmem : m ∈ d.messages := List.mem_of_mem_filter (h ▸ List.mem_cons_self)
  rw [removeMessages, h, List.foldlM_cons, if_pos (List.contains_iff_mem.mpr hmem)]
  dsimp only
  cases hnested : removeMessages levels (isReply m) (d.removeMessage m) with
  | error e => rfl
  | ok d' =>
    have hrest := hgone d' hnested
    clear hgone h
    rw [show (Except.ok d' >>= fun d' => more.foldlM _ d' : Except StoreError Deletion) =
      more.foldlM _ d' from rfl]
    induction more with
    | nil => rfl
    | cons r rest ih =>
      have hr : d'.messages.contains r = false := by simpa using hrest r List.mem_cons_self
      rw [List.foldlM_cons, hr]
      exact ih fun r hr => hrest r (List.mem_cons_of_mem _ hr)

/-- Messages are removed one after another, and nothing else is. -/
lemma foldl_removeMessage (l : List MessageRow) (d : Deletion) :
    (l.foldl removeMessage d).sessions = d.sessions ∧
      (l.foldl removeMessage d).messages = d.messages.diff l ∧
      (l.foldl removeMessage d).tasks = d.tasks := by
  induction l generalizing d with
  | nil => exact ⟨rfl, (List.diff_nil _).symm, rfl⟩
  | cons r rest ih =>
    obtain ⟨hsessions, hmessages, htasks⟩ := ih (d.removeMessage r)
    rw [List.foldl_cons, List.diff_cons]
    exact ⟨hsessions, hmessages, htasks⟩

/-- A chain among the stored messages: the replies to each of its messages are the next one. -/
structure IsChain (stored chain : List MessageRow) : Prop where
  stored_nodup : stored.Nodup
  nodup : chain.Nodup
  replies : ∀ before m after, chain = before ++ m :: after →
    stored.filter (isReply m) = after.head?.toList

/-- What is left of a chain is removed from its first message on, each message one level deeper than
the one before it. It makes no difference whether later ones were to be removed as well. -/
lemma removeMessages_of_chain {stored before rest more : List MessageRow}
    (hchain : IsChain stored (before ++ rest)) {levels : Nat} {doomed : MessageRow → Bool}
    (hd : d.messages = stored.diff before)
    (hdoomed : d.messages.filter doomed = rest.head?.toList ++ more) (hmore : more ⊆ rest) :
    removeMessages levels doomed d =
      if rest.length ≤ levels then .ok (rest.foldl removeMessage d)
      else .error (.violation .nesting) := by
  induction rest generalizing before more levels d doomed with
  | nil =>
    rw [List.subset_nil.mp hmore] at hdoomed
    exact removeMessages_of_nil hdoomed
  | cons m rest ih =>
    have hfirst : d.messages.filter doomed = m :: more := hdoomed
    cases levels with
    | zero => exact removeMessages_zero hfirst
    | succ levels =>
      have hchain' : IsChain stored ((before ++ [m]) ++ rest) := by simpa using hchain
      have hd' : (d.removeMessage m).messages = stored.diff (before ++ [m]) := by
        rw [List.diff_append, List.diff_cons, List.diff_nil, ← hd, removeMessage]
      have hreplies : (d.removeMessage m).messages.filter (isReply m) = rest.head?.toList := by
        rw [hd', hchain.stored_nodup.sdiff_eq_filter, List.filter_filter]
        simp only [Bool.and_comm (isReply m _)]
        rw [← List.filter_filter, hchain.replies before m rest rfl]
        refine List.filter_eq_self.mpr fun r hr => ?_
        have hrest : r ∈ rest := List.mem_of_head? (Option.mem_toList.mp hr)
        have hdisjoint := (List.nodup_append.mp hchain'.nodup).2.2
        simpa using fun hr' => hdisjoint r hr' r hrest rfl
      have hnested : removeMessages levels (isReply m) (d.removeMessage m) =
          if rest.length ≤ levels then .ok (rest.foldl removeMessage (d.removeMessage m))
          else .error (.violation .nesting) :=
        ih hchain' hd' (by rw [hreplies, List.append_nil]) (List.nil_subset _)
      rw [removeMessages_succ hfirst, hnested]
      · simp only [List.length_cons, Nat.add_le_add_iff_right, List.foldl_cons]
      · intro d' hok r hr
        rw [hnested] at hok
        split at hok
        next =>
          have hchain_mem : r ∈ (before ++ [m]) ++ rest := by
            rw [List.append_assoc]
            exact List.mem_append_right _ (hmore hr)
          rw [← Except.ok.inj hok, (foldl_removeMessage rest _).2.1, hd', ← List.diff_append,
            hchain.stored_nodup.mem_sdiff_iff]
          exact fun hleft => hleft.2 hchain_mem
        next => simp at hok

/-! ### References that wait -/

/-- How many references dangle between two steps. -/
def dangling (d : Deletion) : Nat :=
  d.messages.countP (fun m => dangles m.sessionId d.sessions) +
    d.messages.countP (fun m => dangles m.parentId d.messages) +
    d.messages.countP (fun m => dangles m.taskId d.tasks) +
    d.tasks.countP fun t => dangles t.sessionId d.sessions

/-- Exactly the references that dangle wait for a later step. -/
def Counted (d : Deletion) : Prop := d.waiting = d.dangling

/-- What satisfies one of two conditions that exclude each other is counted once. -/
lemma countP_eq_add {α : Type} {l : List α} {p q q' : α → Bool}
    (hor : ∀ a ∈ l, p a = (q a || q' a)) (hnot : ∀ a ∈ l, q' a → q a = false) :
    l.countP p = l.countP q + l.countP q' := by
  induction l with
  | nil => rfl
  | cons a rest ih =>
    have hrest := ih (fun b hb => hor b (List.mem_cons_of_mem _ hb))
      fun b hb => hnot b (List.mem_cons_of_mem _ hb)
    have ha := hor a List.mem_cons_self
    rw [List.countP_cons, List.countP_cons, List.countP_cons, hrest, ha]
    cases hq' : q' a with
    | false => simp; omega
    | true => simp [hnot a List.mem_cons_self hq']; omega

section Erase

variable {ρ α : Type} [Row ρ α] {rows : List ρ} {r : ρ}

/-- When a row goes, the references to it dangle, and no others that did not before. -/
lemma dangles_erase [DecidableEq ρ] (hids : (rows.map Row.id).Nodup) (hr : r ∈ rows)
    (hid : Row.id r ≠ .null) (reference : Cell) :
    dangles reference (rows.erase r) = (dangles reference rows || reference == Row.id r) := by
  have hrows : rows.Nodup := hids.of_map _
  rw [Bool.eq_iff_iff, Bool.or_eq_true, beq_iff_eq, dangles_eq_true_iff, dangles_eq_true_iff]
  constructor
  · rintro ⟨hnull, hnone⟩
    by_cases hsame : reference = Row.id r
    · exact .inr hsame
    · refine .inl ⟨hnull, fun r' hr' hid' => ?_⟩
      have hne : r' ≠ r := fun heq => hsame (heq ▸ hid'.symm)
      exact hnone r' (hrows.mem_erase_iff.mpr ⟨hne, hr'⟩) hid'
  · rintro (⟨hnull, hnone⟩ | rfl)
    · exact ⟨hnull, fun r' hr' => hnone r' (List.mem_of_mem_erase hr')⟩
    · refine ⟨hid, fun r' hr' hid' => ?_⟩
      obtain ⟨hne, hstored⟩ := hrows.mem_erase_iff.mp hr'
      exact hne (List.inj_on_of_nodup_map hids hstored hr hid')

end Erase

/-- Removing a message keeps the count exact. -/
lemma Counted.removeMessage (h : d.Counted) (hids : (d.messages.map (·.id)).Nodup)
    {r : MessageRow} (hr : r ∈ d.messages) (hid : r.id ≠ .null) : (d.removeMessage r).Counted := by
  have hfirst (p : MessageRow → Bool) :
      d.messages.countP p = (d.messages.erase r).countP p + if p r then 1 else 0 := by
    rw [(List.perm_cons_erase hr).countP_eq p, List.countP_cons]
  have hreplies : (d.messages.erase r).countP
        (fun m => dangles m.parentId (d.messages.erase r)) =
      (d.messages.erase r).countP (fun m => dangles m.parentId d.messages) +
        (d.messages.erase r).countP (isReply r) := by
    refine countP_eq_add (fun m _ => ?_) fun m _ hreply => ?_
    · rw [dangles_erase hids hr hid, isReply, bne_iff_ne.mpr hid, Bool.true_and]
      rfl
    · have hparent : m.parentId = r.id := by simpa [isReply, hid] using hreply
      rw [dangles_eq_false_iff, hparent]
      exact fun _ => ⟨r, hr, rfl⟩
  unfold Counted dangling at h ⊢
  simp only [Deletion.removeMessage, settle, hreplies]
  rw [hfirst, hfirst, hfirst] at h
  split_ifs at h ⊢ <;> omega

/-- So does removing messages one after another. -/
lemma Counted.foldl_removeMessage (h : d.Counted) (hids : (d.messages.map (·.id)).Nodup)
    {l : List MessageRow} (hl : l.Nodup) (hstored : ∀ r ∈ l, r ∈ d.messages)
    (hid : ∀ r ∈ l, r.id ≠ .null) : (l.foldl Deletion.removeMessage d).Counted := by
  induction l generalizing d with
  | nil => exact h
  | cons r rest ih =>
    obtain ⟨hnot, hrest⟩ := List.nodup_cons.mp hl
    have hr := hstored r List.mem_cons_self
    have hstep := h.removeMessage hids hr (hid r List.mem_cons_self)
    refine ih hstep (hids.sublist (List.erase_sublist.map _)) hrest (fun r' hr' => ?_)
      fun r' hr' => hid r' (List.mem_cons_of_mem _ hr')
    have hne : r' ≠ r := fun heq => hnot (heq ▸ hr')
    exact (List.mem_erase_of_ne hne).mpr (hstored r' (List.mem_cons_of_mem _ hr'))

/-- Removing a task settles its own reference to its session. The references to the task are cleared
in the same step, so they do not add to what waits. -/
lemma waiting_removeTask {t : TaskRow} (hids : (d.tasks.map (·.id)).Nodup) (ht : t ∈ d.tasks)
    (hsession : dangles t.sessionId d.sessions = true)
    (hparents : ∀ m ∈ d.messages, dangles m.parentId d.messages = false) :
    (d.removeTask t).waiting = d.waiting - 1 := by
  have hmembers : ∀ (members : List MessageRow) (waiting : Nat),
      (∀ m ∈ members, m ∈ d.messages ∧ isOfTask t m) →
        members.foldl (settleTask { d with tasks := d.tasks.erase t }) waiting =
          waiting - members.length := by
    intro members
    induction members with
    | nil => exact fun _ _ => rfl
    | cons m rest ih =>
      intro waiting hall
      obtain ⟨hm, hof⟩ := hall m List.mem_cons_self
      obtain ⟨hid, htask⟩ : t.id ≠ .null ∧ m.taskId = t.id := by simpa [isOfTask] using hof
      have hgone : dangles m.taskId (d.tasks.erase t) = true := by
        rw [dangles_erase hids ht hid, htask]
        exact Bool.or_eq_true_iff.mpr (.inr (beq_self_eq_true _))
      have hstep : settleTask { d with tasks := d.tasks.erase t } waiting m = waiting - 1 := by
        simp [settleTask, settle, hparents m hm, hgone]
      rw [List.foldl_cons, hstep, ih _ fun m hm => hall m (List.mem_cons_of_mem _ hm),
        List.length_cons]
      omega
  have hall : ∀ m ∈ d.messages.filter (isOfTask t), m ∈ d.messages ∧ isOfTask t m := fun m hm =>
    List.mem_filter.mp hm
  change (d.messages.filter (isOfTask t)).foldl (settleTask { d with tasks := d.tasks.erase t })
    (settle t.sessionId d.sessions d.waiting + (d.messages.filter (isOfTask t)).length) = _
  rw [hmembers _ _ hall, Nat.add_sub_cancel, settle, if_pos hsession]

/-- Removing the tasks of a session settles as many references as there are tasks. -/
lemma waiting_foldl_removeTask {l : List TaskRow} (hl : l.Nodup)
    (hids : (d.tasks.map (·.id)).Nodup) (hstored : ∀ t ∈ l, t ∈ d.tasks)
    (hsession : ∀ t ∈ l, dangles t.sessionId d.sessions = true)
    (hparents : ∀ m ∈ d.messages, dangles m.parentId d.messages = false) :
    (l.foldl removeTask d).waiting = d.waiting - l.length := by
  induction l generalizing d with
  | nil => rfl
  | cons t rest ih =>
    obtain ⟨hnot, hrest⟩ := List.nodup_cons.mp hl
    have ht := hstored t List.mem_cons_self
    have hstep := waiting_removeTask hids ht (hsession t List.mem_cons_self) hparents
    have hstored' : ∀ t' ∈ rest, t' ∈ (d.removeTask t).tasks := by
      intro t' ht'
      have hne : t' ≠ t := fun heq => hnot (heq ▸ ht')
      exact (List.mem_erase_of_ne hne).mpr (hstored t' (List.mem_cons_of_mem _ ht'))
    have hparents' : ∀ m ∈ (d.removeTask t).messages,
        dangles m.parentId (d.removeTask t).messages = false := by
      rw [messages_removeTask]
      intro m' hm'
      obtain ⟨m, hm, rfl⟩ := List.mem_map.mp hm'
      rw [clearTasks_parentId]
      exact dangles_map (hparents m hm) (clearTasks_id _)
    rw [List.foldl_cons, ih hrest (hids.sublist (List.erase_sublist.map _)) hstored'
      (fun t' ht' => hsession t' (List.mem_cons_of_mem _ ht')) hparents', hstep, List.length_cons]
    omega

end Deletion

namespace Store

open Deletion MessageRow

variable {s : Store}

/-! ### Removing a session -/

/-- What is taken apart when the session with an id goes. -/
def deletionOf (s : Store) (id : Uuid) : Deletion :=
  ⟨withoutId id s.sessions, s.messages, s.tasks, 0⟩

/-- The ids of messages are there. -/
lemma WellFormed.messageId_ne_null (hs : s.WellFormed) {m : MessageRow} (hm : m ∈ s.messages) :
    m.id ≠ .null := by
  obtain ⟨message, hrow⟩ := hs.messages.written m hm
  rw [(Message.toRow_eq_ok_iff.mp hrow).1]
  exact Cell.ofUuid_ne_null _

/-- The parents of messages are stored. -/
lemma WellFormed.dangles_parentId (hs : s.WellFormed) {m : MessageRow} (hm : m ∈ s.messages) :
    dangles m.parentId s.messages = false := by
  rw [dangles_eq_false_iff]
  intro hnull
  obtain ⟨parent, hparent, hid, -⟩ := hs.exists_parent hm hnull
  exact ⟨parent, hparent, hid⟩

/-- The messages of a session are a chain among all messages. -/
lemma WellFormed.isChain (hs : s.WellFormed) (sessionId : Cell) :
    IsChain s.messages (s.messages.filter fun m => m.sessionId == sessionId) where
  stored_nodup := hs.messages.nodup_rows
  nodup := hs.messages.nodup_rows.filter _
  replies := by
    intro before m after hsplit
    have hchained := hs.chained sessionId
    have hids : ((s.messages.filter fun m => m.sessionId == sessionId).map (·.id)).Nodup :=
      hs.messages.nodup.sublist (List.filter_sublist.map _)
    have hrows : (s.messages.filter fun m => m.sessionId == sessionId).Nodup :=
      hs.messages.nodup_rows.filter _
    have hmem : m ∈ s.messages.filter fun m => m.sessionId == sessionId := by
      rw [hsplit]
      exact List.mem_append_right _ List.mem_cons_self
    obtain ⟨hstored, hown⟩ := List.mem_filter.mp hmem
    have hinside : s.messages.filter (isReply m) =
        (before ++ m :: after).filter (isReply m) := by
      rw [← hsplit, List.filter_filter]
      refine List.filter_congr fun r hr => ?_
      cases hreply : isReply m r with
      | false => rfl
      | true => rw [(hs.closed sessionId).reply m hstored hown r hr hreply, Bool.and_self]
    rw [hsplit] at hchained hids hrows
    have hnext : ∀ r ∈ before ++ m :: after, isReply m r ↔ after.head? = some r := fun r hr =>
      hchained.isReply_iff hids (hs.messageId_ne_null hstored) hr
    rw [hinside]
    cases after with
    | nil =>
      refine List.filter_eq_nil_iff.mpr fun r hr hreply => ?_
      simpa using (hnext r hr).mp hreply
    | cons next rest =>
      have hsame : ∀ r ∈ before ++ m :: next :: rest, isReply m r = (r == next) := by
        intro r hr
        rw [Bool.eq_iff_iff, hnext r hr, beq_iff_eq, List.head?_cons, Option.some_inj, eq_comm]
      have hhead : next ∈ before ++ m :: next :: rest := by simp
      rw [List.filter_congr hsame, List.filter_beq, List.count_eq_one_of_mem hrows hhead]
      rfl

/-- When a session is gone, the references of its messages and tasks to it wait, and no others. -/
lemma Linked.dangling_deletionOf (h : s.Linked) (hs : s.WellFormed) (id : Uuid) :
    (s.deletionOf id).dangling =
      (s.messages.countP fun m => m.sessionId == .ofUuid id) +
        s.tasks.countP fun t => t.sessionId == .ofUuid id := by
  have hgone (reference : Cell) (hgood : dangles reference s.sessions = false) :
      dangles reference (withoutId id s.sessions) = (reference == .ofUuid id) := by
    by_cases hown : reference = .ofUuid id
    · subst hown
      rw [beq_self_eq_true, dangles_eq_true_iff]
      exact ⟨Cell.ofUuid_ne_null id, fun r hr => by simpa using (List.mem_filter.mp hr).2⟩
    · rw [dangles_withoutId hgood hown, beq_false_of_ne hown]
  have hmessages : s.messages.countP (fun m => dangles m.sessionId (withoutId id s.sessions)) =
      s.messages.countP fun m => m.sessionId == .ofUuid id :=
    List.countP_congr fun m hm => by rw [hgone _ (h.sessionsOfMessages m hm)]
  have hparents : s.messages.countP (fun m => dangles m.parentId s.messages) = 0 :=
    List.countP_eq_zero.mpr fun m hm => by simp [hs.dangles_parentId hm]
  have htaskIds : s.messages.countP (fun m => dangles m.taskId s.tasks) = 0 :=
    List.countP_eq_zero.mpr fun m hm => by simp [h.tasks m hm]
  have htasks : s.tasks.countP (fun t => dangles t.sessionId (withoutId id s.sessions)) =
      s.tasks.countP fun t => t.sessionId == .ofUuid id :=
    List.countP_congr fun t ht => by rw [hgone _ (h.sessionsOfTasks t ht)]
  simp only [dangling, deletionOf, hmessages, hparents, htaskIds, htasks, Nat.add_zero]

/-- Without the messages of a session a store is still linked. -/
lemma Linked.remove_messages (h : s.Linked) (sessionId : Cell) :
    Linked { s with messages := s.messages.filter fun r => r.sessionId != sessionId } :=
  { h with
    sessionsOfMessages := fun m hm => h.sessionsOfMessages m (List.mem_of_mem_filter hm)
    tasks := fun m hm => h.tasks m (List.mem_of_mem_filter hm) }

/-- The messages of a session are removed one inside the other, if that is not too deep. -/
lemma WellFormed.removeMessages_eq (hs : s.WellFormed) (id : Uuid) {d : Deletion}
    (hd : d.messages = s.messages) (levels : Nat) :
    removeMessages levels (fun m => m.sessionId == .ofUuid id) d =
      if (s.messages.filter fun m => m.sessionId == .ofUuid id).length ≤ levels then
        .ok ((s.messages.filter fun m => m.sessionId == .ofUuid id).foldl removeMessage d)
      else .error (.violation .nesting) := by
  have hsplit : ∀ l : List MessageRow, l = l.head?.toList ++ l.tail := by
    intro l
    cases l <;> rfl
  have hchain : IsChain s.messages
      ([] ++ s.messages.filter fun m => m.sessionId == .ofUuid id) := hs.isChain (.ofUuid id)
  refine removeMessages_of_chain hchain ?_ ?_ (List.tail_sublist _).subset
  · rw [hd, List.diff_nil]
  · rw [hd]
    exact hsplit _

/-- When the messages of a session are gone, the references of its tasks to it wait, as if the
session had had no messages in the first place. -/
lemma Linked.waiting_foldl_removeMessage (h : s.Linked) (hs : s.WellFormed) {id : Uuid}
    {start mid : Deletion} (hstart : start.Counted)
    (hsame : start = { s.deletionOf id with waiting := start.waiting })
    (hmid : mid =
      (s.messages.filter fun m => m.sessionId == .ofUuid id).foldl removeMessage start) :
    mid.sessions = withoutId id s.sessions ∧
      mid.messages = (s.messages.filter fun m => m.sessionId != .ofUuid id) ∧
      mid.tasks = s.tasks ∧
      mid.waiting = (s.tasks.filter fun t => t.sessionId == .ofUuid id).length := by
  have hown : ∀ r ∈ s.messages.filter fun m => m.sessionId == .ofUuid id, r ∈ s.messages :=
    fun r hr => List.mem_of_mem_filter hr
  have hstored : start.messages = s.messages := by rw [hsame]; rfl
  have hcounted : mid.Counted := by
    rw [hmid]
    refine hstart.foldl_removeMessage ?_ (hs.messages.nodup_rows.filter _) ?_ ?_
    · rw [hstored]
      exact hs.messages.nodup
    · rw [hstored]
      exact hown
    · exact fun r hr => hs.messageId_ne_null (hown r hr)
  obtain ⟨hsessions, hmessages, htasks⟩ := foldl_removeMessage
    (s.messages.filter fun m => m.sessionId == .ofUuid id) start
  rw [← hmid, hsame] at hsessions hmessages htasks
  have hleft : mid.messages = s.messages.filter fun m => m.sessionId != .ofUuid id := by
    rw [hmessages]
    change s.messages.diff _ = _
    rw [hs.messages.nodup_rows.sdiff_eq_filter]
    refine List.filter_congr fun m hm => ?_
    rw [Bool.eq_iff_iff]
    simp [hm]
  have hnone : (s.messages.filter fun m => m.sessionId != .ofUuid id).countP
      (fun m => m.sessionId == .ofUuid id) = 0 :=
    List.countP_eq_zero.mpr fun m hm => by simpa using (List.mem_filter.mp hm).2
  refine ⟨hsessions, hleft, htasks, ?_⟩
  have hdangling := (h.remove_messages (.ofUuid id)).dangling_deletionOf
    (hs.remove_messages (.ofUuid id)) id
  rw [hnone, Nat.zero_add, List.countP_eq_length_filter] at hdangling
  rw [hcounted, ← hdangling, dangling, hleft, hsessions, htasks]
  rfl

/-- What belongs to a session is removed, and nothing waits in the end, unless the session has too
many messages. -/
lemma Linked.removeContents_eq (h : s.Linked) (hs : s.WellFormed) (id : Uuid) :
    if (s.messages.filter fun m => m.sessionId == .ofUuid id).length < maxNesting then
      ∃ d, (s.deletionOf id).removeContents (.ofUuid id) = .ok d ∧ d.waiting = 0
    else (s.deletionOf id).removeContents (.ofUuid id) = .error (.violation .nesting) := by
  let own := s.messages.filter fun m => m.sessionId == .ofUuid id
  let tasks := s.tasks.filter fun t => t.sessionId == .ofUuid id
  let start : Deletion := { s.deletionOf id with
    waiting := (s.messages.countP fun m => m.sessionId == .ofUuid id) + tasks.length }
  let mid := own.foldl removeMessage start
  have hcontents : (s.deletionOf id).removeContents (.ofUuid id) = (do
      return tasks.foldl removeTask
        (← removeMessages (maxNesting - 1) (fun m => m.sessionId == .ofUuid id) start)) := rfl
  have hnested : removeMessages (maxNesting - 1) (fun m => m.sessionId == .ofUuid id) start =
      if own.length ≤ maxNesting - 1 then .ok mid else .error (.violation .nesting) :=
    hs.removeMessages_eq id rfl _
  have hlevels : own.length ≤ maxNesting - 1 ↔ own.length < maxNesting := by
    rw [maxNesting]
    omega
  have hstart : start.Counted := by
    change _ = (s.deletionOf id).dangling
    rw [h.dangling_deletionOf hs, List.countP_eq_length_filter (l := s.tasks)]
  obtain ⟨hsessions, hmessages, htasks, hwaiting⟩ :=
    h.waiting_foldl_removeMessage hs hstart rfl (rfl : mid = _)
  have hsettled : (tasks.foldl removeTask mid).waiting = 0 := by
    rw [waiting_foldl_removeTask, hwaiting, Nat.sub_self]
    · exact hs.tasks.nodup_rows.filter _
    · rw [htasks]
      exact hs.tasks.nodup
    · intro t ht
      rw [htasks]
      exact List.mem_of_mem_filter ht
    · intro t ht
      have hsession : t.sessionId = .ofUuid id := by simpa using (List.mem_filter.mp ht).2
      rw [hsessions, hsession, dangles_eq_true_iff]
      exact ⟨Cell.ofUuid_ne_null id, fun r hr => by simpa using (List.mem_filter.mp hr).2⟩
    · rw [hmessages]
      exact fun m hm => (hs.remove_messages (.ofUuid id)).dangles_parentId hm
  rw [hcontents, hnested]
  split
  next hfits =>
    rw [if_pos (hlevels.mpr hfits)]
    exact ⟨_, rfl, hsettled⟩
  next hdeep =>
    rw [if_neg fun hfits => hdeep (hlevels.mp hfits)]
    rfl

/-- A session is removed if its messages can be removed one inside the other. -/
lemma Linked.exists_deleteSession (h : s.Linked) (hs : s.WellFormed) {id : Uuid}
    (hstored : hasId (.ofUuid id) s.sessions = true)
    (hfits : (s.messages.filter fun m => m.sessionId == .ofUuid id).length < maxNesting) :
    ∃ s', s.deleteSession id = .ok s' := by
  have hcontents := h.removeContents_eq hs id
  rw [if_pos hfits] at hcontents
  obtain ⟨d, hd, hwaiting⟩ := hcontents
  unfold Store.deleteSession
  rw [if_pos hstored]
  refine ⟨{ s with sessions := d.sessions, messages := d.messages, tasks := d.tasks },
    bind_eq_ok_iff.mpr ⟨d, hd, ?_⟩⟩
  rw [if_pos hwaiting]
  rfl

/-- A session with too many messages cannot be removed. -/
lemma Linked.deleteSession_of_length (h : s.Linked) (hs : s.WellFormed) {id : Uuid}
    (hstored : hasId (.ofUuid id) s.sessions = true)
    (hdeep : ¬(s.messages.filter fun m => m.sessionId == .ofUuid id).length < maxNesting) :
    s.deleteSession id = .error (.violation .nesting) := by
  have hcontents := h.removeContents_eq hs id
  rw [if_neg hdeep] at hcontents
  unfold Store.deleteSession
  rw [if_pos hstored]
  change (s.deletionOf id).removeContents (.ofUuid id) >>= _ = _
  rw [hcontents]
  rfl

/-- Removing a session that is stored takes its messages and tasks along, and from the other
messages the references to these tasks, unless it has too many messages. -/
lemma Linked.deleteSession_eq (h : s.Linked) (hs : s.WellFormed) (id : Uuid) :
    s.deleteSession id =
      if hasId (.ofUuid id) s.sessions then
        if (s.messages.filter fun m => m.sessionId == .ofUuid id).length < maxNesting then
          .ok { s with
            sessions := withoutId id s.sessions
            messages := (s.messages.filter fun m => m.sessionId != .ofUuid id).map
              (clearTasks (s.tasks.filter fun t => t.sessionId == .ofUuid id))
            tasks := s.tasks.filter fun t => t.sessionId != .ofUuid id }
        else .error (.violation .nesting)
      else .error (.notFound .session id) := by
  split
  next hstored =>
    split
    next hfits =>
      obtain ⟨s', hs'⟩ := h.exists_deleteSession hs hstored hfits
      obtain ⟨-, rfl⟩ := deleteSession_eq_ok (hs.closed _) hs.tasks.nodup_rows hs'
      exact hs'
    next hdeep => exact h.deleteSession_of_length hs hstored hdeep
  next hnone =>
    unfold Store.deleteSession
    rw [if_neg hnone]

/-- Removing a session, whatever the operations before: a session that is stored goes with its
messages and tasks, and of the rest only the references of messages to these tasks are cleared, so
the other messages keep their order and their parents. It fails, and nothing changes, exactly if the
session is not stored or has too many messages to be removed one inside the other. -/
theorem deleteSession_run (ops : List Operation) (id : Uuid) :
    let s := empty.run ops
    s.deleteSession id =
      if hasId (.ofUuid id) s.sessions then
        if (s.messages.filter fun m => m.sessionId == .ofUuid id).length < maxNesting then
          .ok { s with
            sessions := withoutId id s.sessions
            messages := (s.messages.filter fun m => m.sessionId != .ofUuid id).map
              (clearTasks (s.tasks.filter fun t => t.sessionId == .ofUuid id))
            tasks := s.tasks.filter fun t => t.sessionId != .ofUuid id }
        else .error (.violation .nesting)
      else .error (.notFound .session id) :=
  Linked.deleteSession_eq (.run .empty .empty ops) (.run .empty ops) id

/-- A session with a thousand messages is stored and cannot be removed. -/
theorem deleteSession_thousand_messages :
    let id := Uuid.ofNat 1
    let now := Instant.ofNanos ⟨0, by decide⟩
    let s := empty.run (.createSession (.new id now (.ofNat 7) none []) ::
      ((List.range 1000).map Uuid.ofNat).map fun m => .insertMessage (.new m now id .user [] []))
    hasId (.ofUuid id) s.sessions = true ∧ s.deleteSession id = .error (.violation .nesting) := by
  intro id now s
  have hreachable : s.Reachable := ⟨_, rfl⟩
  let created := empty.step (.createSession (.new id now (.ofNat 7) none []))
  have hcreated : created.WellFormed := WellFormed.empty.step _
  have hsession : hasId (.ofUuid id) created.sessions = true := by decide +kernel
  have hids : ((List.range 1000).map Uuid.ofNat).Nodup := by
    refine List.Nodup.map_on (fun a ha b hb hab => ?_) List.nodup_range
    rw [List.mem_range] at ha hb
    have hmod : a % 2 ^ 128 = b % 2 ^ 128 := congrArg Uuid.toNat hab
    omega
  have hnow : Cell.ofInstant now = .ok (.integer 0) :=
    Cell.ofInstant_eq_ok_iff.mpr ⟨_, Instant.nanos?_ofNanos _, rfl⟩
  obtain ⟨hsessions, hlength⟩ := length_run_insertMessage hcreated hsession hnow hids fun _ _ => rfl
  have hrun : ∀ ops, empty.run (.createSession (.new id now (.ofNat 7) none []) :: ops) =
      created.run ops := fun _ => rfl
  rw [← hrun] at hsessions hlength
  rw [← hsessions] at hsession
  refine ⟨hsession, hreachable.linked.deleteSession_of_length hreachable.wellFormed hsession ?_⟩
  rw [hlength, List.length_map, List.length_range, maxNesting]
  omega

end Store

end Colloquy
