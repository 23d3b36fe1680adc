import Colloquy.Service.Call

/-!
# Runs of the service

An `Event` is a call together with the id and the time that are drawn for it. Events follow one
another (`Service.run`), each is answered (`Service.answers`), and one whose call is refused leaves
the service as it was (`Service.after`).
-/

namespace Colloquy

/-- A call with the id and the time that are drawn for it. -/
structure Event where
  fresh : Uuid
  now : Instant
  call : Call

/-- The id that is given to a new record, if the call makes one. -/
def Event.drawn? (e : Event) : Option Uuid :=
  match e.call with
  | .createSpace _ _ | .createSession _ _ _ | .sendMessage _ | .addTask _ _ _ | .createDisk _ =>
    some e.fresh
  | _ => none

namespace Service

/-- A service whose store is empty. -/
def start (limits : PagingLimits) (queue : Option Queue) : Service := ⟨.empty, limits, queue⟩

/-- The answer to an event. -/
def answer (s : Service) (e : Event) : Except ServiceError Reply :=
  (s.perform e.fresh e.now e.call).map (·.2)

/-- The service after an event, which is the service before it if the call is refused. -/
def after (s : Service) (e : Event) : Service :=
  match s.perform e.fresh e.now e.call with
  | .ok (s, _) => s
  | .error _ => s

/-- The service after events one after another. -/
def run (s : Service) (events : List Event) : Service :=
  events.foldl after s

/-- Events one after another, each with its answer. -/
def answers (s : Service) : List Event → List (Event × Except ServiceError Reply)
  | [] => []
  | e :: rest => (e, s.answer e) :: (s.after e).answers rest

end Service

end Colloquy
