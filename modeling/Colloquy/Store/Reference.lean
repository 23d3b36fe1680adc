import Colloquy.Store.Row

/-!
# References between rows

A row refers to another by its id: a message to its session, its parent and its task, a task to its
session, and a session to its space. A reference that is absent refers to nothing, and a reference
that is there and names no row dangles.
-/

namespace Colloquy

namespace Store

/-- Whether a table has a row with the given id. -/
def hasId {ρ α : Type} [Row ρ α] (id : Cell) (rows : List ρ) : Bool :=
  rows.any fun r => Row.id r == id

/-- Whether a reference is there and names no row of a table. -/
def dangles {ρ α : Type} [Row ρ α] (reference : Cell) (rows : List ρ) : Bool :=
  reference != .null && !hasId reference rows

/-- Checks that a reference names a row or is absent. -/
def checkReference {ρ α : Type} [Row ρ α] (reference : Cell) (rows : List ρ) :
    Except StoreError Unit :=
  if dangles reference rows then .error (.violation .foreignKey) else .ok ()

end Store

end Colloquy
