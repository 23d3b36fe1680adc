import Colloquy.Record

/-!
# The queue of stored messages

Whoever extracts what messages say listens to a queue on which every stored message is announced.
An announcement reaches the queue as long as somebody listens; otherwise publishing fails.
-/

namespace Colloquy

/-- A queue of announcements. -/
structure Queue where
  /-- Whether somebody listens. -/
  listening : Bool
  /-- What has been announced, oldest first. -/
  received : List MessageInserted

/-- Why an announcement did not reach the queue. -/
inductive PublishError where
  | closed
  deriving DecidableEq, Repr

/-- The wording of the error. -/
def PublishError.message : PublishError → String
  | .closed => "queue for " ++ MessageInserted.routingKey ++ " is closed"

namespace Queue

/-- A queue that nothing has been announced on. -/
def empty (listening : Bool) : Queue := ⟨listening, []⟩

/-- Announces a message. -/
def publish (q : Queue) (event : MessageInserted) : Except PublishError Queue :=
  if q.listening then .ok { q with received := q.received ++ [event] } else .error .closed

end Queue

end Colloquy
