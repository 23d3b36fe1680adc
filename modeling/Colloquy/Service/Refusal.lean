import Colloquy.Service.Run

/-!
# Why calls are refused

Of the parts of a message, the first that lacks something is to blame (`Part.FirstFault`), and if
there is none the message can be sent (`Part.Sendable`).
-/

namespace Colloquy

namespace Part

/-- Parts of which a message can be made: there are some, and none lacks anything. -/
structure Sendable (parts : List Part) : Prop where
  some : parts ≠ []
  valid : ∀ part ∈ parts, part.validate = .ok ()

/-- The part with this index lacks something, and those before it lack nothing. -/
structure FirstFault (parts : List Part) (index : Nat) (fault : PartFault) : Prop where
  lacks : ∃ part, parts[index]? = .some part ∧ part.validate = .error fault
  before : ∀ part ∈ parts.take index, part.validate = .ok ()

end Part

end Colloquy
