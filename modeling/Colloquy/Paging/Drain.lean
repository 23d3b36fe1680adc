import Colloquy.Paging.Page

/-!
# Following cursors

A listing is drained by asking for its first page and then, as long as a page names a cursor, for
the page after it. `Page.drain` does so for at most a given number of pages; a listing of `n`
records needs no more than `n + 1`. `Page.Walk` has no such bound, and lets each request have a size
of its own.
-/

namespace Colloquy.Page

/-- The pages from `cursor` on, at most `most` of them; `fetch` gives the page after a cursor. -/
def drain {α ε : Type} (fetch : Option String → Except ε (Page α)) :
    Nat → Option String → Except ε (List (Page α))
  | 0, _ => .ok []
  | most + 1, cursor =>
    match fetch cursor with
    | .error e => .error e
    | .ok page =>
      match page.nextCursor with
      | none => .ok [page]
      | some next =>
        match drain fetch most (some next) with
        | .error e => .error e
        | .ok pages => .ok (page :: pages)

/-- The pages from the request with number `i` on, whose cursor is `cursor`, up to the first page
that names no cursor; `fetch` gives the page that a request gets. -/
inductive Walk {α ε : Type} (fetch : Nat → Option String → Except ε (Page α)) :
    Nat → Option String → List (Page α) → Prop
  | last {i : Nat} {cursor : Option String} {page : Page α} (hpage : fetch i cursor = .ok page)
      (hlast : page.nextCursor = none) : Walk fetch i cursor [page]
  | next {i : Nat} {cursor : Option String} {page : Page α} {next : String}
      {later : List (Page α)} (hpage : fetch i cursor = .ok page)
      (hnext : page.nextCursor = some next) (hlater : Walk fetch (i + 1) (some next) later) :
      Walk fetch i cursor (page :: later)

end Colloquy.Page

namespace Colloquy

/-- The page of a request, cut from records in memory. -/
def PageRequest.pageOf {α : Type} [Keyed α] (request : PageRequest) (limits : PagingLimits)
    (records : List α) : Except PagingError (Page α) := do
  let query ← request.resolve limits
  query.assemble (query.select records)

/-- All pages of a request, cut from records in memory. -/
def PageRequest.drain {α : Type} [Keyed α] (request : PageRequest) (limits : PagingLimits)
    (records : List α) : Except PagingError (List (Page α)) :=
  Page.drain (fun cursor => { request with cursor }.pageOf limits records) (records.length + 1)
    request.cursor

end Colloquy
