import Colloquy.Store.Keeping

/-!
# Which records the store takes

A record is taken if its times have counts, its id is new, its place is free and what it names is
stored (`Store.Admits`). If not, the store names the first obstacle (`Store.obstacle?`): a time
comes before the constraints, and what has to be unique before references.
-/

namespace Colloquy

/-- Whether an instant lies outside of what a count of nanoseconds can name. -/
def Instant.isUncounted (t : Instant) : Bool := t.nanos?.isNone

namespace Store

/-- Whether the place of a record is taken. Only tasks have one. -/
def placeTaken (s : Store) : (scope : Scope) → scope.Record → Bool
  | .tasks _, (a : Task) =>
    s.tasks.any fun r => r.sessionId == .ofUuid a.sessionId && r.order == .integer a.order
  | _, _ => false

/-- Whether a record names something that is not stored. The parent of a message does not count: it
is the store that chooses it. -/
def lacksReference (s : Store) : (scope : Scope) → scope.Record → Bool
  | .spaces _, _ => false
  | .sessions _ _, (a : Session) => dangles (.ofUuid? a.spaceId) s.spaces
  | .messages _, (a : Message) =>
    dangles (.ofUuid a.sessionId) s.sessions || dangles (.ofUuid? a.taskId) s.tasks
  | .tasks _, (a : Task) => dangles (.ofUuid a.sessionId) s.sessions
  | .disks _, _ => false

/-- Why a record is not taken. -/
def obstacle? (s : Store) (scope : Scope) (a : scope.Record) : Option StoreError :=
  match (scope.times a).find? Instant.isUncounted with
  | some t => some (.timestamp t)
  | none =>
    if s.placeTaken scope a then some (.violation (.unique "tasks" ["session_id", "task_order"]))
    else if hasId (.ofUuid (sortKey a).id) (s.table scope) then
      some (.violation (.unique scope.tableName ["id"]))
    else if s.lacksReference scope a then some (.violation .foreignKey)
    else none

/-- What a record names is stored: the space of a session, if it has one, the session of a message
and its task, if it has one, and the session of a task. -/
def Resolves (s : Store) : (scope : Scope) → scope.Record → Prop
  | .spaces _, _ => True
  | .sessions _ _, (a : Session) => ∀ id, a.spaceId = some id → ∃ r ∈ s.spaces, r.id = .ofUuid id
  | .messages _, (a : Message) =>
    (∃ r ∈ s.sessions, r.id = .ofUuid a.sessionId) ∧
      ∀ id, a.taskId = some id → ∃ r ∈ s.tasks, r.id = .ofUuid id
  | .tasks _, (a : Task) => ∃ r ∈ s.sessions, r.id = .ofUuid a.sessionId
  | .disks _, _ => True

/-- No task has the place of a record. -/
def HasPlace (s : Store) : (scope : Scope) → scope.Record → Prop
  | .tasks _, (a : Task) =>
    ∀ r ∈ s.tasks, ¬(r.sessionId = .ofUuid a.sessionId ∧ r.order = .integer a.order)
  | _, _ => True

/-- A record can be stored. -/
structure Admits (s : Store) (scope : Scope) (a : scope.Record) : Prop where
  counted : ∀ t ∈ scope.times a, Decimal.InInt64 t.toNanos
  place : s.HasPlace scope a
  fresh : ∀ r ∈ s.table scope, Row.id r ≠ .ofUuid (sortKey a).id
  resolves : s.Resolves scope a

/-- A store with one more row at the end of a table. -/
def withRow (s : Store) : (scope : Scope) → scope.TableRow → Store
  | .spaces _, (r : SpaceRow) => { s with spaces := s.spaces ++ [r] }
  | .sessions _ _, (r : SessionRow) => { s with sessions := s.sessions ++ [r] }
  | .messages _, (r : MessageRow) => { s with messages := s.messages ++ [r] }
  | .tasks _, (r : TaskRow) => { s with tasks := s.tasks ++ [r] }
  | .disks _, (r : DiskRow) => { s with disks := s.disks ++ [r] }

/-- A record in the hands of its caller after the store was given it: a message that was inserted
has its parent then. -/
def handedBack (s : Store) : (scope : Scope) → scope.Record → scope.Record
  | .messages _, (a : Message) =>
    match s.insertMessage a with
    | .ok (_, a') => a'
    | .error _ => a
  | _, a => a

end Store

end Colloquy
