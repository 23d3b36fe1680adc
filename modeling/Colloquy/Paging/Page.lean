import Colloquy.Paging.Query

/-!
# Pages

A `Page` holds some records in order, says whether there are more, and if so how to go on.
`Page.assemble` cuts it from the records that a query fetched.
-/

namespace Colloquy

/-- A page of a listing. -/
structure Page (α : Type) where
  items : List α
  hasMore : Bool
  nextCursor : Option String
  deriving DecidableEq

namespace Page

/-- Cuts a page from the records that were fetched, one more than the page holds at most. The
cursor names the last record that is kept. -/
def assemble {α : Type} [Keyed α] (rows : List α) (size : PageSize) :
    Except PagingError (Page α) :=
  if rows.length ≤ size.toNat then .ok ⟨rows, false, none⟩
  else
    let items := rows.take size.toNat
    match items.getLast? with
    | some last => do return ⟨items, true, some (← (sortKey last).cursor)⟩
    | none => .ok ⟨items, true, none⟩

end Page

/-- Cuts the page of a query from the records that it fetched. -/
def KeysetQuery.assemble {α : Type} [Keyed α] (q : KeysetQuery) (rows : List α) :
    Except PagingError (Page α) :=
  Page.assemble rows q.pageSize

end Colloquy
