import Colloquy.Proofs.Store.Table
import Colloquy.Store.History

/-!
# Chains of messages

The rows of a session form a chain: the first one names no parent, and every other one names the row
just before it (`Chained`). A row that names the last one as its parent extends the chain, and
columns other than id and parent do not matter to it.
-/

namespace Colloquy

namespace MessageRow

/-- The cell by which a message after the given ones names its parent. -/
def lastId (messages : List MessageRow) : Cell :=
  (Cell.null :: messages.map (·.id)).getLast (List.cons_ne_nil _ _)

/-- Messages of which each names the one before it as its parent, and the first one none. -/
def Chained (messages : List MessageRow) : Prop :=
  messages.map (·.parentId) = (Cell.null :: messages.map (·.id)).dropLast

variable {messages : List MessageRow}

/-- The last id is that of the last message. -/
lemma lastId_eq_of_getLast? {r : MessageRow} (h : messages.getLast? = some r) :
    lastId messages = r.id := by
  obtain ⟨before, rfl⟩ := List.getLast?_eq_some_iff.mp h
  simp [lastId]

/-- No messages are a chain. -/
lemma Chained.nil : Chained [] := rfl

/-- A message that names the last one as its parent extends the chain. -/
lemma Chained.append (h : Chained messages) {r : MessageRow} (hr : r.parentId = lastId messages) :
    Chained (messages ++ [r]) := by
  unfold Chained at *
  calc (messages ++ [r]).map (·.parentId)
      = (Cell.null :: messages.map (·.id)).dropLast ++ [lastId messages] := by
        rw [List.map_append, h, List.map_singleton, hr]
    _ = Cell.null :: messages.map (·.id) := List.dropLast_append_getLast _
    _ = (Cell.null :: (messages ++ [r]).map (·.id)).dropLast := by
        rw [List.map_append, List.map_singleton, ← List.cons_append, List.dropLast_concat]

/-- The parent of a message in a chain is in the chain. -/
lemma Chained.exists_parent (h : Chained messages) {r : MessageRow} (hr : r ∈ messages) :
    r.parentId = .null ∨ ∃ parent ∈ messages, parent.id = r.parentId := by
  have hmem : r.parentId ∈ (Cell.null :: messages.map (·.id)).dropLast :=
    h ▸ List.mem_map_of_mem hr
  rcases List.mem_cons.mp ((List.dropLast_sublist _).mem hmem) with hnull | hid
  · exact .inl hnull
  · exact .inr (List.mem_map.mp hid)

/-- Changes to other columns keep a chain. -/
lemma Chained.map (h : Chained messages) {f : MessageRow → MessageRow}
    (hid : ∀ r, (f r).id = r.id) (hparent : ∀ r, (f r).parentId = r.parentId) :
    Chained (messages.map f) := by
  unfold Chained at *
  simp only [List.map_map, Function.comp_def, hid, hparent]
  exact h

end MessageRow

/-- The row of a message names what the message names. -/
lemma Message.links_of_toRow {m : Message} {row : MessageRow} (h : m.toRow = .ok row) :
    row.links = m.links := by
  obtain ⟨hid, hsession, hparent, -⟩ := Message.toRow_eq_ok_iff.mp h
  rw [MessageRow.links, Message.links, hid, hsession, hparent]

end Colloquy
