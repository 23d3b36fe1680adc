import Colloquy.Store.Reference

/-!
# Deletions in several steps

With a session go its messages, with a message its replies, and with a task go the references that
messages have to it. So a deletion takes many steps, and between them references dangle. `Deletion`
is a store between two steps. It counts the references that still wait for a later step, and the
deletion is complete only if none waits at the end.

A store whose references all name rows never has one left. Where a reference dangled before, a
message that only loses its task is checked anew with its parent, and if that is missing the
deletion is not complete.
-/

namespace Colloquy

/-- The rows between two steps of a deletion. -/
structure Deletion where
  sessions : List SessionRow
  messages : List MessageRow
  tasks : List TaskRow
  /-- How many references have lost their row and wait for a step that removes or clears them. -/
  waiting : Nat

namespace Deletion

open Store

/-- How deeply deletions that follow from one another may be nested. -/
def maxNesting : Nat := 1000

/-- The count of waiting references after a reference is gone. Only one that dangles can have
waited. -/
def settle {ρ α : Type} [Row ρ α] (reference : Cell) (rows : List ρ) (waiting : Nat) : Nat :=
  if dangles reference rows then waiting - 1 else waiting

/-- Whether a message names `r` as its parent. -/
def isReply (r m : MessageRow) : Bool :=
  r.id != .null && m.parentId == r.id

/-- Removes a message. Its own references are gone, and those of its replies wait. -/
def removeMessage (d : Deletion) (r : MessageRow) : Deletion :=
  let waiting := settle r.sessionId d.sessions d.waiting
  let waiting := settle r.parentId d.messages waiting
  let waiting := settle r.taskId d.tasks waiting
  let messages := d.messages.erase r
  { d with messages, waiting := waiting + messages.countP (isReply r) }

/-- Removes the messages that satisfy `doomed` in the order of their insertion, and after each one
its replies. `levels` is how much deeper the deletions may nest. -/
def removeMessages (levels : Nat) (doomed : MessageRow → Bool) (d : Deletion) :
    Except StoreError Deletion :=
  (d.messages.filter doomed).foldlM (fun d r =>
    if d.messages.contains r then
      match levels with
      | 0 => .error (.violation .nesting)
      | levels + 1 => removeMessages levels (isReply r) (d.removeMessage r)
    else .ok d) d

/-- Whether a message names `t` as its task. -/
def isOfTask (t : TaskRow) (m : MessageRow) : Bool :=
  t.id != .null && m.taskId == t.id

/-- The count of waiting references after a message has lost its task. The reference to the parent
is taken anew, and it waits if it dangles. -/
def settleTask (d : Deletion) (waiting : Nat) (m : MessageRow) : Nat :=
  let waiting := settle m.parentId d.messages (settle m.taskId d.tasks waiting)
  if dangles m.parentId d.messages then waiting + 1 else waiting

/-- Removes a task, and clears the references that messages have to it. -/
def removeTask (d : Deletion) (t : TaskRow) : Deletion :=
  let waiting := settle t.sessionId d.sessions d.waiting
  let d := { d with tasks := d.tasks.erase t }
  let members := d.messages.filter (isOfTask t)
  { d with
    messages := d.messages.map fun m => if isOfTask t m then { m with taskId := .null } else m
    waiting := members.foldl d.settleTask (waiting + members.length) }

/-- Removes what belongs to a session that is gone: its messages, and then its tasks. -/
def removeContents (d : Deletion) (sessionId : Cell) : Except StoreError Deletion := do
  let own (m : MessageRow) : Bool := m.sessionId == sessionId
  let tasks := d.tasks.filter fun t => t.sessionId == sessionId
  let d := { d with waiting := d.messages.countP own + tasks.length }
  return tasks.foldl removeTask (← removeMessages (maxNesting - 1) own d)

end Deletion

end Colloquy
