import Colloquy.Store.Operation
import Colloquy.Store.Scope

/-!
# What updates change

An update is an operation that neither adds rows nor removes any: it notes its time
(`Operation.noted?`) in the rows that it names and sets one of their columns. `Operation.revise`
says what becomes of a row of each table. Only a batch of messages names several rows, and it may
name one of them several times (`Store.namedBy`).
-/

namespace Colloquy.Store

namespace Operation

/-- The time that an update notes. The operations that add or remove records are none. -/
def noted? : Operation → Option Instant
  | .updateSpaceConfigs now _ _ => some now
  | .updateSessionConfigs now _ _ => some now
  | .connectSession now _ _ => some now
  | .setProcessStatus now _ _ => some now
  | .updateTaskStatus now _ _ => some now
  | .markTaskDigested now _ => some now
  | _ => none

/-- What an update that notes the given time makes of a row. -/
def revise (updatedAt : Cell) : Operation → (scope : Scope) → scope.TableRow → scope.TableRow
  | .updateSpaceConfigs _ id configs, .spaces _, (r : SpaceRow) =>
    if r.id = .ofUuid id then { r with configs := .ofObject configs, updatedAt } else r
  | .updateSessionConfigs _ id configs, .sessions _ _, (r : SessionRow) =>
    if r.id = .ofUuid id then { r with configs := .ofObject configs, updatedAt } else r
  | .connectSession _ id spaceId, .sessions _ _, (r : SessionRow) =>
    if r.id = .ofUuid id then { r with spaceId := .ofUuid spaceId, updatedAt } else r
  | .setProcessStatus _ ids status, .messages _, (r : MessageRow) =>
    if r.id ∈ ids.map Cell.ofUuid then
      { r with processStatus := .text status.name, updatedAt }
    else r
  | .updateTaskStatus _ id status, .tasks _, (r : TaskRow) =>
    if r.id = .ofUuid id then { r with status := .text status.name, updatedAt } else r
  | .markTaskDigested _ id, .tasks _, (r : TaskRow) =>
    if r.id = .ofUuid id then { r with spaceDigested := .ofBool true, updatedAt } else r
  | _, _, r => r

end Operation

/-! ### Batches of messages -/

/-- The stored messages that a list of ids names. -/
def namedBy (s : Store) (ids : List Uuid) : List MessageRow :=
  s.messages.filter fun r => r.id ∈ ids.map Cell.ofUuid

/-- How many ids of a list name a stored message. -/
def hits (s : Store) (ids : List Uuid) : Nat :=
  ids.countP fun id => hasId (.ofUuid id) s.messages

/-- A store in which the named messages have a status, which was noted with its time. -/
def withProcessStatus (s : Store) (ids : List Uuid) (status : TaskStatus) (updatedAt : Cell) :
    Store :=
  { s with
    messages := s.messages.map fun r =>
      if r.id ∈ ids.map Cell.ofUuid then
        { r with processStatus := .text status.name, updatedAt }
      else r }

end Colloquy.Store
