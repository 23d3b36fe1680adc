import Mathlib.Data.List.Nodup
import Colloquy.Proofs.Store.Table
import Colloquy.Store

/-!
# What a deletion leaves

Removing a message removes its replies with it, and theirs. If all of them satisfy a condition, then
the messages that do not are left as they were (`Removes`), however the removals nest. So a session
of which every reply belongs to it again takes exactly its own messages along, and exactly its own
tasks, and from the other messages only the references to these tasks (`removeContents_eq_ok`).
-/

namespace Colloquy.Deletion

open Store

/-! ### Messages -/

/-- What removing some messages that satisfy `P` comes to. -/
structure Removes (P : MessageRow → Bool) (d d' : Deletion) : Prop where
  sublist : d'.messages.Sublist d.messages
  kept : d'.messages.filter (fun m => !P m) = d.messages.filter (fun m => !P m)
  sessions : d'.sessions = d.sessions
  tasks : d'.tasks = d.tasks

/-- Different messages, of which a reply to one that satisfies `P` satisfies it too. -/
structure Closed (P : MessageRow → Bool) (messages : List MessageRow) : Prop where
  nodup : messages.Nodup
  reply : ∀ r ∈ messages, P r → ∀ m ∈ messages, isReply r m → P m

variable {P : MessageRow → Bool} {d d' d'' : Deletion}

/-- Removing nothing removes messages of any kind. -/
lemma Removes.refl (P : MessageRow → Bool) (d : Deletion) : Removes P d d :=
  ⟨List.Sublist.refl _, rfl, rfl, rfl⟩

/-- Removals add up to a removal. -/
lemma Removes.trans (h : Removes P d d') (h' : Removes P d' d'') : Removes P d d'' where
  sublist := h'.sublist.trans h.sublist
  kept := h'.kept.trans h.kept
  sessions := h'.sessions.trans h.sessions
  tasks := h'.tasks.trans h.tasks

/-- Messages that are left of closed ones are closed. -/
lemma Closed.sublist {messages messages' : List MessageRow} (h : Closed P messages)
    (hsub : messages'.Sublist messages) : Closed P messages' :=
  ⟨h.nodup.sublist hsub, fun r hr hP m hm => h.reply r (hsub.mem hr) hP m (hsub.mem hm)⟩

/-- Removing a message removes a message of its kind. -/
lemma removes_removeMessage {r : MessageRow} (hr : P r) (d : Deletion) :
    Removes P d (d.removeMessage r) where
  sublist := List.erase_sublist
  kept := by
    have hnot : r ∉ d.messages.filter fun m => !P m := by simp [List.mem_filter, hr]
    rw [removeMessage, ← List.erase_filter, List.erase_of_not_mem hnot]
  sessions := rfl
  tasks := rfl

/-- Removals one after another leave none of what they were to remove. -/
lemma removes_of_foldlM {f : Deletion → MessageRow → Except StoreError Deletion}
    {l : List MessageRow} (hf : ∀ r ∈ l, ∀ d d', Closed P d.messages → f d r = .ok d' →
      Removes P d d' ∧ r ∉ d'.messages)
    (hd : Closed P d.messages) (h : l.foldlM f d = .ok d') :
    Removes P d d' ∧ ∀ r ∈ l, r ∉ d'.messages := by
  induction l generalizing d with
  | nil =>
    obtain rfl : d = d' := pure_eq_ok_iff.mp h
    exact ⟨Removes.refl P d, by simp⟩
  | cons r rest ih =>
    rw [List.foldlM_cons] at h
    obtain ⟨mid, hmid, hrest⟩ := bind_eq_ok_iff.mp h
    obtain ⟨hfirst, hgone⟩ := hf r List.mem_cons_self d mid hd hmid
    obtain ⟨hlater, hothers⟩ :=
      ih (fun r' hr' => hf r' (List.mem_cons_of_mem _ hr')) (hd.sublist hfirst.sublist) hrest
    refine ⟨hfirst.trans hlater, fun r' hr' => ?_⟩
    rcases List.mem_cons.mp hr' with rfl | hr'
    · exact fun hmem => hgone (hlater.sublist.mem hmem)
    · exact hothers r' hr'

/-- Removing all messages of a kind one after another leaves none of that kind. -/
lemma removes_of_foldlM_filter {f : Deletion → MessageRow → Except StoreError Deletion}
    {doomed : MessageRow → Bool}
    (hf : ∀ r ∈ d.messages, doomed r → ∀ d₁ d₂, Closed P d₁.messages → f d₁ r = .ok d₂ →
      Removes P d₁ d₂ ∧ r ∉ d₂.messages)
    (hd : Closed P d.messages) (h : (d.messages.filter doomed).foldlM f d = .ok d') :
    Removes P d d' ∧ ∀ m ∈ d'.messages, ¬doomed m := by
  have hf' : ∀ r ∈ d.messages.filter doomed, ∀ d₁ d₂, Closed P d₁.messages → f d₁ r = .ok d₂ →
      Removes P d₁ d₂ ∧ r ∉ d₂.messages := fun r hr =>
    hf r (List.mem_filter.mp hr).1 (List.mem_filter.mp hr).2
  obtain ⟨hremoves, hgone⟩ := removes_of_foldlM hf' hd h
  exact ⟨hremoves, fun m hm hdoomed =>
    hgone m (List.mem_filter.mpr ⟨hremoves.sublist.mem hm, hdoomed⟩) hm⟩

/-- Messages are removed with their replies, and nothing else is. -/
lemma removes_of_removeMessages {levels : Nat} {doomed : MessageRow → Bool}
    (h : removeMessages levels doomed d = .ok d') (hd : Closed P d.messages)
    (hdoomed : ∀ m ∈ d.messages, doomed m → P m) :
    Removes P d d' ∧ ∀ m ∈ d'.messages, ¬doomed m := by
  induction levels generalizing doomed d d' with
  | zero =>
    unfold removeMessages at h
    refine removes_of_foldlM_filter (fun r _ _ d₁ d₂ _ hstep => ?_) hd h
    split at hstep
    next => simp at hstep
    next hgone =>
      obtain rfl := Except.ok.inj hstep
      exact ⟨Removes.refl P d₁, by simpa using hgone⟩
  | succ levels ih =>
    unfold removeMessages at h
    refine removes_of_foldlM_filter (fun r hr hdr d₁ d₂ hd₁ hstep => ?_) hd h
    have hP : P r := hdoomed r hr hdr
    split at hstep
    next hstored =>
      have hremove := removes_removeMessage hP d₁
      have hreply : ∀ m ∈ (d₁.removeMessage r).messages, isReply r m → P m := fun m hm =>
        hd₁.reply r (by simpa using hstored) hP m (hremove.sublist.mem hm)
      obtain ⟨hreplies, -⟩ := ih hstep (hd₁.sublist hremove.sublist) hreply
      refine ⟨hremove.trans hreplies, fun hmem => ?_⟩
      exact hd₁.nodup.not_mem_erase (hreplies.sublist.mem hmem)
    next hgone =>
      obtain rfl := Except.ok.inj hstep
      exact ⟨Removes.refl P d₁, by simpa using hgone⟩

/-! ### Tasks -/

/-- A message without its task, if that is one of the given. -/
def clearTasks (tasks : List TaskRow) (m : MessageRow) : MessageRow :=
  if tasks.any (isOfTask · m) then { m with taskId := .null } else m

/-- A message keeps its id when tasks are cleared. -/
@[simp] lemma clearTasks_id (tasks : List TaskRow) (m : MessageRow) :
    (clearTasks tasks m).id = m.id := by
  unfold clearTasks
  split <;> rfl

/-- A message keeps its session when tasks are cleared. -/
@[simp] lemma clearTasks_sessionId (tasks : List TaskRow) (m : MessageRow) :
    (clearTasks tasks m).sessionId = m.sessionId := by
  unfold clearTasks
  split <;> rfl

/-- A message keeps its parent when tasks are cleared. -/
@[simp] lemma clearTasks_parentId (tasks : List TaskRow) (m : MessageRow) :
    (clearTasks tasks m).parentId = m.parentId := by
  unfold clearTasks
  split <;> rfl

/-- A written message is written after tasks are cleared. -/
lemma written_clearTasks (tasks : List TaskRow) (m : MessageRow) (h : Row.Written m) :
    Row.Written (clearTasks tasks m) := by
  unfold clearTasks
  split
  · exact MessageRow.written_withoutTask h
  · exact h

/-- Clearing no tasks changes nothing. -/
lemma clearTasks_nil : clearTasks [] = id := by
  funext m
  simp [clearTasks]

/-- A reference that is cleared is not cleared again. -/
lemma clearTasks_cons (t : TaskRow) (tasks : List TaskRow) :
    clearTasks (t :: tasks) = clearTasks tasks ∘ clearTasks [t] := by
  funext m
  have hnull : (tasks.any fun t => isOfTask t { m with taskId := .null }) = false := by
    refine List.any_eq_false.mpr fun t _ ht => ?_
    obtain ⟨hne, heq⟩ : t.id ≠ .null ∧ Cell.null = t.id := by simpa [isOfTask] using ht
    exact hne heq.symm
  by_cases ht : isOfTask t m <;> simp [clearTasks, ht, hnull]

/-- Removing a task clears it in the messages. -/
lemma messages_removeTask (d : Deletion) (t : TaskRow) :
    (d.removeTask t).messages = d.messages.map (clearTasks [t]) := by
  refine List.map_congr_left fun m _ => ?_
  simp [clearTasks]

/-- Tasks are removed with the references that messages have to them, and nothing else is. -/
lemma foldl_removeTask (tasks : List TaskRow) (d : Deletion) :
    (tasks.foldl removeTask d).sessions = d.sessions ∧
      (tasks.foldl removeTask d).messages = d.messages.map (clearTasks tasks) ∧
      (tasks.foldl removeTask d).tasks = d.tasks.diff tasks := by
  induction tasks generalizing d with
  | nil => simp [clearTasks_nil]
  | cons t rest ih =>
    obtain ⟨hsessions, hmessages, htasks⟩ := ih (d.removeTask t)
    rw [List.foldl_cons]
    refine ⟨hsessions, ?_, ?_⟩
    · rw [hmessages, messages_removeTask, List.map_map, ← clearTasks_cons]
    · rw [htasks, List.diff_cons]
      rfl

/-! ### Sessions -/

/-- The messages and tasks of a session are removed, and the references to these tasks. -/
lemma removeContents_eq_ok {sessionId : Cell}
    (hd : Closed (fun m => m.sessionId == sessionId) d.messages) (htasks : d.tasks.Nodup)
    (h : d.removeContents sessionId = .ok d') :
    d'.sessions = d.sessions ∧
      d'.messages = (d.messages.filter fun m => m.sessionId != sessionId).map
        (clearTasks (d.tasks.filter fun t => t.sessionId == sessionId)) ∧
      d'.tasks = d.tasks.filter fun t => t.sessionId != sessionId := by
  unfold removeContents at h
  obtain ⟨mid, hmid, hrest⟩ := bind_eq_ok_iff.mp h
  obtain ⟨hremoves, hgone⟩ := removes_of_removeMessages hmid hd fun m _ hm => hm
  obtain ⟨hsessions, hmessages, hremaining⟩ :=
    foldl_removeTask (d.tasks.filter fun t => t.sessionId == sessionId) mid
  rw [pure_eq_ok_iff.mp hrest] at hsessions hmessages hremaining
  have hmid_messages : mid.messages = d.messages.filter fun m => m.sessionId != sessionId := by
    have hothers : mid.messages.filter (fun m => !(m.sessionId == sessionId)) = mid.messages :=
      List.filter_eq_self.mpr fun m hm => by simpa using hgone m hm
    rw [← hothers, hremoves.kept]
    rfl
  refine ⟨hsessions.trans hremoves.sessions, hmid_messages ▸ hmessages, ?_⟩
  rw [hremaining, hremoves.tasks, htasks.sdiff_eq_filter]
  refine List.filter_congr fun t ht => ?_
  rw [Bool.eq_iff_iff]
  simp [List.mem_filter, ht]

end Colloquy.Deletion
