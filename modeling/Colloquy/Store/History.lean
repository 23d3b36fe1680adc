import Colloquy.Store.Operation

/-!
# Histories of a store

The order in which messages were inserted is kept nowhere but in the numbers of their rows. The rows
of a `Store` have no number of their own: the order of a table stands for the order of the numbers,
and a row that is added at the end of its table is one with a number above all others. This is what
the database is taken to do: a new row gets a number above those of all rows that are there, and the
number of a row that has gone may be given again.

A `History` is a run of operations that notes the insertions of messages with the numbers of their
rows, and forgets them when their messages are no longer stored.
-/

namespace Colloquy

/-- The cells by which a message is found, and by which it names its session and its parent. -/
def MessageRow.links (r : MessageRow) : Cell × Cell × Cell :=
  (r.id, r.sessionId, r.parentId)

/-- The cells that name a message, its session and its parent. -/
def Message.links (m : Message) : Cell × Cell × Cell :=
  (.ofUuid m.id, .ofUuid m.sessionId, .ofUuid? m.parentId)

namespace Store

/-- An insertion of a message that succeeded. -/
structure Insertion where
  /-- The message as it was given back. -/
  message : Message
  /-- The number that the database gave the row. No operation reads it: the queries that go by it
  go by the order of the table, and `History.insert` says what is taken for granted of it. -/
  rowNumber : Nat

/-- Whether the message of an insertion is in the store. -/
def Insertion.isStored (s : Store) (insertion : Insertion) : Bool :=
  hasId (.ofUuid insertion.message.id) s.messages

/-- The stores that operations lead to, with the insertions of the messages that have been stored
ever since, in the order in which they succeeded. The number of a new row is any number above those
of the rows that are there (`hnumber`), which is an assumption on the database and no result. -/
inductive History : Store → List Insertion → Prop
  | empty : History .empty []
  | insert {s s' : Store} {insertions : List Insertion} {message message' : Message}
      {rowNumber : Nat} (h : History s insertions)
      (hinsert : s.insertMessage message = .ok (s', message'))
      (hnumber : ∀ insertion ∈ insertions, insertion.rowNumber < rowNumber) :
      History s' (insertions ++ [⟨message', rowNumber⟩])
  | other {s : Store} {insertions : List Insertion} {op : Operation} (h : History s insertions)
      (hop : ∀ message, op = .insertMessage message → ∃ e, s.insertMessage message = .error e) :
      History (s.step op) (insertions.filter (Insertion.isStored (s.step op)))

end Store

end Colloquy
