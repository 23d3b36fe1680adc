import Colloquy.Paging.Drain
import Colloquy.Store.Operation
import Colloquy.Store.Scope

/-!
# What a store keeps of a record

A record is put into the store by the operation of its kind (`Scope.insertion`), and comes back when
it is looked up by its id (`Store.lookup`) or its listing is drained (`Store.DrainsTo`). What the
store changes about it are the parent of a message, which it chooses itself (`Store.chained`), and
the times, which come back as the instants of their counts (`Scope.recounted`).
-/

namespace Colloquy

/-! ### Times that are kept as counts -/

/-- A space as it comes back. -/
def Space.recounted (a : Space) : Space :=
  a.mapTimes Instant.recounted

/-- A session as it comes back. -/
def Session.recounted (a : Session) : Session :=
  a.mapTimes Instant.recounted

/-- A message as it comes back. -/
def Message.recounted (a : Message) : Message :=
  a.mapTimes Instant.recounted

/-- A task as it comes back. -/
def Task.recounted (a : Task) : Task :=
  a.mapTimes Instant.recounted

/-- A disk as it comes back. -/
def Disk.recounted (a : Disk) : Disk :=
  a.mapTimes Instant.recounted

namespace Scope

/-- The operation that puts a record of a scope into the store. -/
def insertion : (scope : Scope) → scope.Record → Store.Operation
  | .spaces _, (a : Space) => .createSpace a
  | .sessions _ _, (a : Session) => .createSession a
  | .messages _, (a : Message) => .insertMessage a
  | .tasks _, (a : Task) => .insertTask a
  | .disks _, (a : Disk) => .createDisk a

/-- A record of a scope as it comes back. -/
def recounted : (scope : Scope) → scope.Record → scope.Record
  | .spaces _, (a : Space) => a.recounted
  | .sessions _ _, (a : Session) => a.recounted
  | .messages _, (a : Message) => a.recounted
  | .tasks _, (a : Task) => a.recounted
  | .disks _, (a : Disk) => a.recounted

/-- The times of a record of a scope. -/
def times : (scope : Scope) → scope.Record → List Instant
  | .spaces _, (a : Space) => [a.createdAt, a.updatedAt]
  | .sessions _ _, (a : Session) => [a.createdAt, a.updatedAt]
  | .messages _, (a : Message) => [a.createdAt, a.updatedAt]
  | .tasks _, (a : Task) => [a.createdAt, a.updatedAt]
  | .disks _, (a : Disk) => [a.createdAt, a.updatedAt]

end Scope

namespace Store

/-- A record as the store takes it: a message gets the parent that the store chooses. -/
def chained (s : Store) : (scope : Scope) → scope.Record → Except StoreError scope.Record
  | .spaces _, a => .ok a
  | .sessions _ _, a => .ok a
  | .messages _, (a : Message) =>
    (s.lastMessageId? a.sessionId).map fun parentId => { a with parentId }
  | .tasks _, a => .ok a
  | .disks _, a => .ok a

/-- The record with the given id, of the kind that a scope lists. Disks have no operation for it and
are looked up in their table. -/
def lookup (s : Store) : (scope : Scope) → Uuid → Except StoreError (Option scope.Record)
  | .spaces _, id => s.space? id
  | .sessions _ _, id => s.session? id
  | .messages _, id => s.message? id
  | .tasks _, id => s.task? id
  | .disks _, id => Listing.find? id s.disks

/-- The page of a scope that a request gets. -/
def pageOf (s : Store) (scope : Scope) (limits : PagingLimits) (request : PageRequest) :
    Except StoreError (Page scope.Record) := do
  let query ← (request.resolve limits).mapError .paging
  s.list scope query

/-- The pages that are got by following cursors through a scope to the end, where request `i` asks
for the page size `limit i`. -/
def DrainsTo (s : Store) (scope : Scope) (limits : PagingLimits) (timeDesc : Option Bool)
    (limit : Nat → Option Nat) (pages : List (Page scope.Record)) : Prop :=
  Page.Walk (fun i cursor => s.pageOf scope limits ⟨limit i, cursor, timeDesc⟩) 0 none pages

/-- All rows of a scope can be read. -/
def Readable (s : Store) (scope : Scope) : Prop :=
  ∀ r ∈ s.rows scope, ∃ a, Row.read r = .ok a

instance (s : Store) (scope : Scope) : Decidable (s.Readable scope) :=
  decidable_of_iff (∀ r ∈ s.rows scope, (Row.read r).isOk = true) <| by
    refine forall_congr' fun r => forall_congr' fun _ => ?_
    cases Row.read r <;> simp [Except.isOk, Except.toBool]

end Store

end Colloquy
