import Colloquy.Paging.Cursor

/-!
# Page requests and queries

A `PageRequest` is what a caller sends; `PageRequest.resolve` checks it against the limits and gives
a `KeysetQuery`: the position to start after, the direction, and the size of the page. A query can
be run against records in memory (`KeysetQuery.select`), and it fetches one record more than the
page holds, to see whether there is another page.
-/

namespace Colloquy

/-- The direction of a listing. -/
inductive SortOrder where
  | descending
  | ascending
  deriving DecidableEq, Repr

namespace SortOrder

/-- Newest first or oldest first. -/
def ofTimeDesc (timeDesc : Bool) : SortOrder :=
  if timeDesc then .descending else .ascending

/-- The short name of a direction. -/
def label : SortOrder → String
  | .descending => "desc"
  | .ascending => "asc"

/-- The name of a direction in records. -/
def name : SortOrder → String
  | .descending => "descending"
  | .ascending => "ascending"

/-- The keyword of a direction in an ordering clause. -/
def keyword : SortOrder → String
  | .descending => "DESC"
  | .ascending => "ASC"

/-- The comparison that holds of what comes strictly after a position. -/
def afterOperator : SortOrder → String
  | .descending => "<"
  | .ascending => ">"

/-- Whether something that compares like this to a position comes strictly after it. -/
def isAfter : SortOrder → Ordering → Bool
  | .descending, o => o == .lt
  | .ascending, o => o == .gt

end SortOrder

/-- The sizes that pages may have. -/
structure PagingLimits where
  defaultLimit : Nat := 20
  maxLimit : Nat := 200
  deriving DecidableEq, Repr

/-- A page size that has been checked: positive, and not above the limit. -/
structure PageSize where
  toNat : Nat
  pos : 0 < toNat
  deriving DecidableEq

/-- Checks a page size. -/
def PageSize.new (limit max : Nat) : Except PagingError PageSize :=
  if h : 0 < limit ∧ limit ≤ max then .ok ⟨limit, h.1⟩ else .error (.invalidLimit limit max)

/-- A page as a caller asks for it. -/
structure PageRequest where
  limit : Option Nat := none
  cursor : Option String := none
  /-- Whether the newest come first, which is the default. -/
  timeDesc : Option Bool := none
  deriving DecidableEq

/-- A page request that has been checked. -/
structure KeysetQuery where
  /-- The position that the page starts strictly after. -/
  after : Option SortKey
  order : SortOrder
  pageSize : PageSize
  deriving DecidableEq

/-- Checks a request: the size first, then the cursor. -/
def PageRequest.resolve (request : PageRequest) (limits : PagingLimits) :
    Except PagingError KeysetQuery := do
  let pageSize ← PageSize.new (request.limit.getD limits.defaultLimit) limits.maxLimit
  let after ← match request.cursor with
    | some cursor => Cursor.decode cursor
    | none => .ok none
  return ⟨after, .ofTimeDesc (request.timeDesc.getD true), pageSize⟩

namespace KeysetQuery

/-- The page and one record more. -/
def fetchLimit (q : KeysetQuery) : Nat := q.pageSize.toNat + 1

/-- Whether a position comes strictly after the one that the page starts after. -/
def admits (q : KeysetQuery) (key : SortKey) : Bool :=
  match q.after with
  | none => true
  | some after => q.order.isAfter (compare key after)

/-- Sorts records by their positions in ascending order. -/
def sorted {α : Type} [Keyed α] (records : List α) : List α :=
  records.mergeSort fun a b => (compare (sortKey a) (sortKey b)).isLE

/-- Puts ascending records into the direction of the query. -/
def oriented {α : Type} (q : KeysetQuery) (records : List α) : List α :=
  match q.order with
  | .descending => records.reverse
  | .ascending => records

/-- The records that the query fetches from a collection without order. -/
def select {α : Type} [Keyed α] (q : KeysetQuery) (records : List α) : List α :=
  (q.oriented (sorted (records.filter fun r => q.admits (sortKey r)))).take q.fetchLimit

end KeysetQuery

end Colloquy
