import Colloquy.Service.Run

/-!
# What is announced

The queue of a service is a matter between the service and whoever listens: callers are not told
what became of an announcement (`Service.told`). What a run should have announced can be read off
its answers (`Service.announcement?`).
-/

namespace Colloquy

/-- An answer without what became of an announcement. -/
def Reply.unannounced : Reply → Reply
  | .sent m _ => .sent m none
  | reply => reply

namespace Service

/-- A service with another queue, or with none. -/
def withQueue (s : Service) (queue : Option Queue) : Service := { s with queue }

/-- What the callers are told, one after another. -/
def told (s : Service) (events : List Event) : List (Except ServiceError Reply) :=
  (s.answers events).map fun answered => answered.2.map Reply.unannounced

/-- What has to be announced for an event that got this answer. -/
def announcement? : Event × Except ServiceError Reply → Option MessageInserted
  | (⟨_, _, .sendMessage input⟩, .ok (.sent m _)) => some ⟨input.projectId, m.sessionId, m.id⟩
  | _ => none

end Service

end Colloquy
