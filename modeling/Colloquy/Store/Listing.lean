import Colloquy.Paging.Page
import Colloquy.Store.Row

/-!
# Listing stored rows

A page of stored records is cut from rows by their cells: the rows of the scope that come strictly
after the position, ordered by the cells of creation time and id, and one more than the page holds.
The direction enters as the operator of the condition and as the keyword of the ordering clause.
Only the rows that are fetched are read, and the first one that cannot be read fails the listing.
-/

namespace Colloquy.Listing

variable {ρ α : Type} [Row ρ α]

/-- Whether a row comes strictly after a position that is given by its time and its id: its time
does, or the times are the same and its id does. -/
def isAfter (order : SortOrder) (nanos : Int) (id : Uuid) (r : ρ) : Bool :=
  Cell.meets order.afterOperator (Row.createdAt r) (.integer nanos) ||
    (Cell.meets "=" (Row.createdAt r) (.integer nanos) &&
      Cell.meets order.afterOperator (Row.id r) (.ofUuid id))

/-- The rows of a query after its position. -/
def after (q : KeysetQuery) (rows : List ρ) : Except StoreError (List ρ) :=
  match q.after with
  | none => .ok rows
  | some key =>
    match key.createdAt.nanos? with
    | some nanos => .ok (rows.filter (isAfter q.order nanos key.id))
    | none => .error (.paging .timestampOutOfRange)

/-- Rows in ascending order of the cells of creation time and id. -/
def sorted (rows : List ρ) : List ρ :=
  rows.mergeSort fun a b =>
    ((Cell.order (Row.createdAt a) (Row.createdAt b)).then (Cell.order (Row.id a) (Row.id b))).isLE

/-- Rows ordered by the cells of creation time and id, in the direction that a keyword names. -/
def ordered (keyword : String) (rows : List ρ) : List ρ :=
  if keyword = "DESC" then (sorted rows).reverse else sorted rows

/-- Reads rows one after another. -/
def readAll : List ρ → Except StoreError (List α)
  | [] => .ok []
  | r :: rest =>
    match Row.read r with
    | .error fault => .error (.unreadable fault)
    | .ok a =>
      match readAll rest with
      | .error e => .error e
      | .ok more => .ok (a :: more)

/-- The page of a query, cut from the rows of a scope. -/
def page [Keyed α] (q : KeysetQuery) (rows : List ρ) : Except StoreError (Page α) :=
  match after q rows with
  | .error e => .error e
  | .ok rows =>
    match readAll ((ordered q.order.keyword rows).take q.fetchLimit) with
    | .error e => .error e
    | .ok records =>
      match q.assemble records with
      | .error e => .error (.paging e)
      | .ok page => .ok page

/-- The record of the first row with the given id. -/
def find? (id : Uuid) (rows : List ρ) : Except StoreError (Option α) :=
  match rows.find? fun r => Row.id r == Cell.ofUuid id with
  | none => .ok none
  | some r =>
    match Row.read r with
    | .error fault => .error (.unreadable fault)
    | .ok a => .ok (some a)

end Colloquy.Listing
