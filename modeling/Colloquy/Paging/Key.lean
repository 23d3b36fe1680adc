import Colloquy.Record

/-!
# Sort keys

Listings are ordered by creation time, and records created at the same instant by their ids. A
`SortKey` is such a position; `Keyed` gives each kind of record its own.
-/

namespace Colloquy

/-- A position in a listing. -/
structure SortKey where
  createdAt : Instant
  id : Uuid
  deriving DecidableEq

/-- Creation time first; ids decide between equal times. -/
instance : Ord SortKey where
  compare a b := (compare a.createdAt b.createdAt).then (compare a.id b.id)

/-- Whether one position comes strictly before another. -/
def SortKey.before (a b : SortKey) : Bool := compare a b == .lt

/-- Records that have a position in a listing. -/
class Keyed (α : Type) where
  sortKey : α → SortKey

export Keyed (sortKey)

instance : Keyed SortKey := ⟨id⟩
instance : Keyed Space := ⟨fun s => ⟨s.createdAt, s.id⟩⟩
instance : Keyed Session := ⟨fun s => ⟨s.createdAt, s.id⟩⟩
instance : Keyed Message := ⟨fun m => ⟨m.createdAt, m.id⟩⟩
instance : Keyed Task := ⟨fun t => ⟨t.createdAt, t.id⟩⟩
instance : Keyed Disk := ⟨fun d => ⟨d.createdAt, d.id⟩⟩

end Colloquy
