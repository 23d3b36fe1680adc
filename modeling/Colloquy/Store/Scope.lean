import Colloquy.Store

/-!
# Scopes of listings

A `Scope` is what a listing covers: the spaces, sessions or disks of a project, or the messages or
tasks of a session. It fixes the kind of record (`Scope.Record`), the stored rows
(`Store.rows`) and the listing (`Store.list`), and it says of a record by its own fields whether the
record belongs to it (`Scope.covers`).
-/

namespace Colloquy

/-- What a listing covers. -/
inductive Scope where
  | spaces (projectId : Uuid)
  | sessions (projectId : Uuid) (filter : SessionFilter)
  | messages (sessionId : Uuid)
  | tasks (sessionId : Uuid)
  | disks (projectId : Uuid)

namespace Scope

/-- The records of a scope. -/
def Record : Scope → Type
  | .spaces _ => Space
  | .sessions _ _ => Session
  | .messages _ => Message
  | .tasks _ => Task
  | .disks _ => Disk

/-- The rows of the table that a scope is cut from. -/
def TableRow : Scope → Type
  | .spaces _ => SpaceRow
  | .sessions _ _ => SessionRow
  | .messages _ => MessageRow
  | .tasks _ => TaskRow
  | .disks _ => DiskRow

/-- The name of the table that a scope is cut from. -/
def tableName : Scope → String
  | .spaces _ => "spaces"
  | .sessions _ _ => "sessions"
  | .messages _ => "messages"
  | .tasks _ => "tasks"
  | .disks _ => "disks"

instance : (scope : Scope) → Keyed scope.Record
  | .spaces _ => inferInstanceAs (Keyed Space)
  | .sessions _ _ => inferInstanceAs (Keyed Session)
  | .messages _ => inferInstanceAs (Keyed Message)
  | .tasks _ => inferInstanceAs (Keyed Task)
  | .disks _ => inferInstanceAs (Keyed Disk)

instance : (scope : Scope) → Row scope.TableRow scope.Record
  | .spaces _ => inferInstanceAs (Row SpaceRow Space)
  | .sessions _ _ => inferInstanceAs (Row SessionRow Session)
  | .messages _ => inferInstanceAs (Row MessageRow Message)
  | .tasks _ => inferInstanceAs (Row TaskRow Task)
  | .disks _ => inferInstanceAs (Row DiskRow Disk)

/-- Whether a session is one that a filter lets through. -/
def lets (filter : SessionFilter) (session : Session) : Bool :=
  match filter with
  | .all => true
  | .inSpace id => session.spaceId == some id
  | .notConnected => session.spaceId == none

/-- Whether a record belongs to a scope. -/
def covers : (scope : Scope) → scope.Record → Bool
  | .spaces projectId, (space : Space) => space.projectId == projectId
  | .sessions projectId filter, (session : Session) =>
    session.projectId == projectId && lets filter session
  | .messages sessionId, (message : Message) => message.sessionId == sessionId
  | .tasks sessionId, (task : Task) => task.sessionId == sessionId
  | .disks projectId, (disk : Disk) => disk.projectId == projectId

/-- Whether the cells of a row put it into a scope. -/
def selects : (scope : Scope) → scope.TableRow → Bool
  | .spaces projectId, (r : SpaceRow) => r.projectId == .ofUuid projectId
  | .sessions projectId filter, (r : SessionRow) =>
    r.projectId == .ofUuid projectId &&
      match filter with
      | .all => true
      | .inSpace id => r.spaceId == .ofUuid id
      | .notConnected => r.spaceId == .null
  | .messages sessionId, (r : MessageRow) => r.sessionId == .ofUuid sessionId
  | .tasks sessionId, (r : TaskRow) => r.sessionId == .ofUuid sessionId
  | .disks projectId, (r : DiskRow) => r.projectId == .ofUuid projectId

end Scope

/-- The position of a row, if its id and its time can be read. -/
def Row.position? {ρ α : Type} [Row ρ α] (r : ρ) : Option SortKey :=
  match (Row.id r).uuid? 0, (Row.createdAt r).instant? 0 with
  | .ok id, .ok createdAt => some ⟨createdAt, id⟩
  | _, _ => none

namespace Store

/-- The table that a scope is cut from. -/
def table (s : Store) : (scope : Scope) → List scope.TableRow
  | .spaces _ => s.spaces
  | .sessions _ _ => s.sessions
  | .messages _ => s.messages
  | .tasks _ => s.tasks
  | .disks _ => s.disks

/-- The rows of a scope. -/
def rows (s : Store) (scope : Scope) : List scope.TableRow :=
  (s.table scope).filter scope.selects

/-- The positions of the stored records of a scope. -/
def positions (s : Store) (scope : Scope) : List SortKey :=
  (s.rows scope).filterMap Row.position?

/-- All records of the table that a scope is cut from, if every row can be read. -/
def records (s : Store) (scope : Scope) : Except StoreError (List scope.Record) :=
  Listing.readAll (s.table scope)

/-- A page of a scope. -/
def list (s : Store) : (scope : Scope) → KeysetQuery → Except StoreError (Page scope.Record)
  | .spaces projectId, q => s.listSpaces projectId q
  | .sessions projectId filter, q => s.listSessions projectId filter q
  | .messages sessionId, q => s.listMessages sessionId q
  | .tasks sessionId, q => s.listTasks sessionId q
  | .disks projectId, q => s.listDisks projectId q

/-- The listing of a scope is the page that is cut from its rows. -/
theorem list_eq_page (s : Store) (scope : Scope) (q : KeysetQuery) :
    s.list scope q = Listing.page q (s.rows scope) := by
  cases scope <;> rfl

end Store

end Colloquy
