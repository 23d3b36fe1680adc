import Colloquy.Paging.Page
import Colloquy.Record.Format

/-!
# JSON form of requests and pages

Requests leave out what they do not say, and pages leave out the cursor when there is no more. The
limits have a default each.
-/

namespace Colloquy

open Json (Document Reader fields?)

namespace SortOrder

/-- Reads a direction. -/
def read : Reader SortOrder :=
  Reader.oneOf fun s => [descending, ascending].find? (·.name == s)

end SortOrder

namespace PagingLimits

/-- Writes the limits. -/
def toDocument (l : PagingLimits) : Document :=
  .record [("default_limit", .int l.defaultLimit), ("max_limit", .int l.maxLimit)]

/-- Reads the limits. -/
def read : Reader PagingLimits := fun levels d => do
  let f ← fields? ["default_limit", "max_limit"] levels d
  return {
    defaultLimit := ← f.withDefault "default_limit" 20 Reader.nat32
    maxLimit := ← f.withDefault "max_limit" 200 Reader.nat32 }

end PagingLimits

namespace PageRequest

/-- Writes a request. -/
def toDocument (r : PageRequest) : Document :=
  .record (presentField "limit" r.limit (fun n => .int n) ++
    presentField "cursor" r.cursor .text ++ presentField "time_desc" r.timeDesc .bool)

/-- Reads a request. -/
def read : Reader PageRequest := fun levels d => do
  let f ← fields? ["limit", "cursor", "time_desc"] levels d
  return {
    limit := ← f.withDefault "limit" none (Reader.optional Reader.nat32)
    cursor := ← f.withDefault "cursor" none (Reader.optional Reader.text)
    timeDesc := ← f.withDefault "time_desc" none (Reader.optional Reader.bool) }

end PageRequest

namespace Page

/-- Writes a page. -/
def toDocument {α : Type} (write : α → Document) (p : Page α) : Document :=
  .record ([("items", .array (p.items.map write)), ("has_more", .bool p.hasMore)] ++
    presentField "next_cursor" p.nextCursor .text)

/-- Reads a page. -/
def read {α : Type} (item : Reader α) : Reader (Page α) := fun levels d => do
  let f ← fields? ["items", "has_more", "next_cursor"] levels d
  return {
    items := ← f.required "items" (Reader.list item)
    hasMore := ← f.required "has_more" Reader.bool
    nextCursor := ← f.withDefault "next_cursor" none (Reader.optional Reader.text) }

end Page

end Colloquy
