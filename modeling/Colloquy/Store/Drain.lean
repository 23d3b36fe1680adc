import Colloquy.Store.Operation
import Colloquy.Store.Scope

/-!
# Drains of a store that changes

A listing is drained by one request after another: the first one without a cursor, and each other
one with the cursor that the page before it names, until a page has no more. Each request chooses
the size of its page, and any operations may run between two requests (`Drain`).
-/

namespace Colloquy.Store

/-- What a request of a listing met, and what it got. -/
structure Fetch (scope : Scope) where
  store : Store
  page : Page scope.Record

/-- A page that some accepted request gets that has this cursor and goes in this order. -/
def Answers (s : Store) {scope : Scope} (order : SortOrder) (cursor : Option String)
    (page : Page scope.Record) : Prop :=
  ∃ (request : PageRequest) (limits : PagingLimits) (q : KeysetQuery), request.cursor = cursor ∧
    request.resolve limits = .ok q ∧ q.order = order ∧ s.list scope q = .ok page

/-- The requests from a cursor to the last page. -/
inductive Drain (scope : Scope) (order : SortOrder) :
    Store → Option String → List (Fetch scope) → Prop
  | last {s : Store} {cursor : Option String} {page : Page scope.Record}
      (hpage : s.Answers order cursor page) (hmore : page.hasMore = false) :
      Drain scope order s cursor [⟨s, page⟩]
  | next {s : Store} {cursor : Option String} {page : Page scope.Record}
      {later : List (Fetch scope)} (hpage : s.Answers order cursor page)
      (hmore : page.hasMore = true) (ops : List Operation)
      (hlater : Drain scope order (s.run ops) page.nextCursor later) :
      Drain scope order s cursor (⟨s, page⟩ :: later)

/-- The records that a drain gets, one page after another. -/
def drained {scope : Scope} (fetches : List (Fetch scope)) : List scope.Record :=
  fetches.flatMap fun fetch => fetch.page.items

end Colloquy.Store
