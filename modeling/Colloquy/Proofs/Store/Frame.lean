import Colloquy.Proofs.Store.Operation

/-!
# What operations leave alone

`Operation.changes` lists the parts of a store that an operation may change, and every other part
stays as it is (`perform_frame`). A statement on one part, such as where the messages of a store
come from, then goes through the operations that change this part only.
-/

namespace Colloquy.Store

/-- The parts of a store. -/
inductive Field where
  | version
  | spaces
  | sessions
  | messages
  | tasks
  | disks
  deriving DecidableEq

/-- The parts of a store that an operation may change. -/
def Operation.changes : Operation → List Field
  | .migrate => [.version]
  | .createSpace _ | .updateSpaceConfigs _ _ _ => [.spaces]
  | .deleteSpace _ => [.spaces, .sessions]
  | .createSession _ | .updateSessionConfigs _ _ _ | .connectSession _ _ _ => [.sessions]
  | .deleteSession _ => [.sessions, .messages, .tasks]
  | .insertMessage _ | .setProcessStatus _ _ _ => [.messages]
  | .insertTask _ | .updateTaskStatus _ _ _ | .markTaskDigested _ _ => [.tasks]
  | .createDisk _ | .deleteDisk _ => [.disks]

/-- Two stores agree in every part that is not listed. -/
structure AgreesOutside (changes : List Field) (s s' : Store) : Prop where
  version : .version ∉ changes → s'.version = s.version
  spaces : .spaces ∉ changes → s'.spaces = s.spaces
  sessions : .sessions ∉ changes → s'.sessions = s.sessions
  messages : .messages ∉ changes → s'.messages = s.messages
  tasks : .tasks ∉ changes → s'.tasks = s.tasks
  disks : .disks ∉ changes → s'.disks = s.disks

variable {s s' : Store}

/-- An operation changes no part of the store but those that are listed for it. -/
theorem perform_frame {op : Operation} (hop : s.perform op = .ok s') :
    AgreesOutside op.changes s s' := by
  cases op with
  | migrate =>
    obtain ⟨-, rfl⟩ := migrate_eq_ok_iff.mp hop
    constructor <;> simp [Operation.changes]
  | createSpace space =>
    obtain ⟨row, -, -, rfl⟩ := createSpace_eq_ok_iff.mp hop
    constructor <;> simp [Operation.changes]
  | updateSpaceConfigs now id configs =>
    obtain ⟨updatedAt, -, -, rfl⟩ := updateSpaceConfigs_eq_ok_iff.mp hop
    constructor <;> simp [Operation.changes]
  | deleteSpace id =>
    obtain ⟨-, rfl⟩ := deleteSpace_eq_ok_iff.mp hop
    constructor <;> simp [Operation.changes]
  | createSession session =>
    obtain ⟨row, -, -, -, rfl⟩ := createSession_eq_ok_iff.mp hop
    constructor <;> simp [Operation.changes]
  | updateSessionConfigs now id configs =>
    obtain ⟨updatedAt, -, -, rfl⟩ := updateSessionConfigs_eq_ok_iff.mp hop
    constructor <;> simp [Operation.changes]
  | connectSession now id spaceId =>
    obtain ⟨space, updatedAt, -, -, -, rfl⟩ := connectSession_eq_ok_iff.mp hop
    constructor <;> simp [Operation.changes]
  | deleteSession id =>
    obtain ⟨sessions, messages, tasks, rfl⟩ := exists_of_deleteSession hop
    constructor <;> simp [Operation.changes]
  | insertMessage message =>
    obtain ⟨⟨s', message'⟩, hinsert, rfl⟩ := map_eq_ok_iff.mp hop
    obtain ⟨parentId, row, -, -, -, -, -, -, -, rfl⟩ := insertMessage_eq_ok_iff.mp hinsert
    constructor <;> simp [Operation.changes]
  | setProcessStatus now ids status =>
    obtain ⟨⟨s', n⟩, hset, rfl⟩ := map_eq_ok_iff.mp hop
    obtain ⟨updatedAt, -, rfl⟩ := setProcessStatus_eq_ok hset
    constructor <;> simp [Operation.changes]
  | insertTask task =>
    obtain ⟨row, -, -, -, -, rfl⟩ := insertTask_eq_ok_iff.mp hop
    constructor <;> simp [Operation.changes]
  | updateTaskStatus now id status =>
    obtain ⟨updatedAt, -, -, rfl⟩ := updateTaskStatus_eq_ok_iff.mp hop
    constructor <;> simp [Operation.changes]
  | markTaskDigested now id =>
    obtain ⟨updatedAt, -, -, rfl⟩ := markTaskDigested_eq_ok_iff.mp hop
    constructor <;> simp [Operation.changes]
  | createDisk disk =>
    obtain ⟨row, -, -, rfl⟩ := createDisk_eq_ok_iff.mp hop
    constructor <;> simp [Operation.changes]
  | deleteDisk id =>
    obtain ⟨-, rfl⟩ := deleteDisk_eq_ok_iff.mp hop
    constructor <;> simp [Operation.changes]

end Colloquy.Store
