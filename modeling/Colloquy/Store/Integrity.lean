import Colloquy.Store

/-!
# The integrity of a store

What the tables promise to whoever reads them: ids are unique in a table and places in a session,
and every reference that is there names a stored row. A reply stands in the session of the message
that it replies to.
-/

namespace Colloquy.Store

/-- The uniqueness of ids and places, and the references between the tables. -/
structure Integrity (s : Store) : Prop where
  spaceIds : (s.spaces.map SpaceRow.id).Nodup
  sessionIds : (s.sessions.map SessionRow.id).Nodup
  messageIds : (s.messages.map MessageRow.id).Nodup
  taskIds : (s.tasks.map TaskRow.id).Nodup
  diskIds : (s.disks.map DiskRow.id).Nodup
  /-- No two tasks have the same place in the same session. -/
  places : (s.tasks.map fun t => (t.sessionId, t.order)).Nodup
  /-- A session is connected to a stored space or to none. -/
  spaceOfSession : ∀ r ∈ s.sessions, r.spaceId ≠ .null → ∃ space ∈ s.spaces, space.id = r.spaceId
  sessionOfMessage : ∀ m ∈ s.messages, ∃ r ∈ s.sessions, r.id = m.sessionId
  sessionOfTask : ∀ t ∈ s.tasks, ∃ r ∈ s.sessions, r.id = t.sessionId
  /-- A message replies to a message of its session or to none. -/
  parentOfMessage : ∀ m ∈ s.messages, m.parentId ≠ .null →
    ∃ parent ∈ s.messages, parent.id = m.parentId ∧ parent.sessionId = m.sessionId
  /-- A message belongs to a stored task, of whatever session, or to none. -/
  taskOfMessage : ∀ m ∈ s.messages, m.taskId ≠ .null → ∃ t ∈ s.tasks, t.id = m.taskId

end Colloquy.Store
