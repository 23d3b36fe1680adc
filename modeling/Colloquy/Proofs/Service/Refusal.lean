import Colloquy.Proofs.Service.Operation
import Colloquy.Service.Refusal

/-!
# Calls that are refused

A call is refused by the first of its checks that fails. The lemmas here take a call that was
refused apart into its checks, and say which of them failed.
-/

namespace Colloquy

namespace Service

variable {s : Service} {e : ServiceError}

/-! ### What is looked up -/

/-- A call on the store fails exactly if the store does, with its error. -/
lemma stored_eq_error_iff {α : Type} {x : Except StoreError α} :
    stored x = .error e ↔ ∃ cause, x = .error cause ∧ e = .storage cause := by
  simp only [stored, mapError_eq_error_iff, eq_comm (a := e)]

/-- What is looked up is missing, or the lookup fails. -/
lemma present_eq_error_iff {α : Type} {entity : Entity} {id : Uuid}
    {lookup : Except StoreError (Option α)} :
    present entity id lookup = .error e ↔
      (lookup = .ok none ∧ e = .notFound entity id) ∨
        ∃ cause, lookup = .error cause ∧ e = .storage cause := by
  cases lookup with
  | error cause => simp [present, stored, mapError_error_eq, error_bind_eq, eq_comm]
  | ok found =>
    cases found with
    | none => simp [present, stored, mapError_ok_eq, ok_bind_eq, eq_comm]
    | some a => exact iff_of_false pure_ne_error (by simp)

/-- A record is given back exactly if it was found. -/
lemma present_eq_ok_iff {α : Type} {entity : Entity} {id : Uuid}
    {lookup : Except StoreError (Option α)} {a : α} :
    present entity id lookup = .ok a ↔ lookup = .ok (some a) := by
  cases lookup with
  | error cause => simp [present, stored, mapError_error_eq, error_bind_eq]
  | ok found => cases found <;> simp [present, stored, mapError_ok_eq, ok_bind_eq]

/-! ### Parts of messages -/

/-- Parts are accepted exactly if each of them is valid. -/
lemma checkParts_eq_ok_iff {parts : List Part} {start : Nat} {u : Unit} :
    checkParts start parts = .ok u ↔ ∀ part ∈ parts, part.validate = .ok () := by
  induction parts generalizing start with
  | nil => simp [checkParts]
  | cons part rest ih =>
    rw [checkParts, List.forall_mem_cons]
    cases hpart : part.validate with
    | error fault => simp
    | ok => simpa using ih

/-- The parts are refused for the first of them that lacks something. -/
lemma checkParts_eq_error_iff {parts : List Part} {start : Nat} :
    checkParts start parts = .error e ↔
      ∃ i fault, Part.FirstFault parts i fault ∧ e = .invalidPart (start + i) fault := by
  induction parts generalizing start with
  | nil =>
    refine iff_of_false (by simp [checkParts]) ?_
    rintro ⟨i, fault, ⟨⟨part, hpart, -⟩, -⟩, -⟩
    simp at hpart
  | cons part rest ih =>
    rw [checkParts]
    cases hpart : part.validate with
    | error fault =>
      constructor
      · rintro ⟨⟩
        exact ⟨0, fault, ⟨⟨part, rfl, hpart⟩, by simp⟩, rfl⟩
      · rintro ⟨i, fault', ⟨⟨part', hpart', hfault'⟩, hbefore⟩, rfl⟩
        cases i with
        | zero =>
          obtain rfl : part = part' := by simpa using hpart'
          obtain rfl : fault = fault' := by simpa [hpart] using hfault'
          rfl
        | succ i =>
          have hvalid := hbefore part (by simp)
          simp [hpart] at hvalid
    | ok =>
      dsimp only
      rw [ih]
      constructor
      · rintro ⟨i, fault, ⟨hlacks, hbefore⟩, rfl⟩
        refine ⟨i + 1, fault, ⟨hlacks, ?_⟩, by rw [Nat.add_right_comm, Nat.add_assoc]⟩
        rw [List.take_succ_cons, List.forall_mem_cons]
        exact ⟨hpart, hbefore⟩
      · rintro ⟨i, fault, ⟨⟨part', hpart', hfault⟩, hbefore⟩, rfl⟩
        cases i with
        | zero =>
          obtain rfl : part = part' := by simpa using hpart'
          simp [hpart] at hfault
        | succ i =>
          rw [List.take_succ_cons, List.forall_mem_cons] at hbefore
          exact ⟨i, fault, ⟨⟨part', hpart', hfault⟩, hbefore.2⟩,
            by rw [Nat.add_right_comm, Nat.add_assoc]⟩

/-- A message is refused because it has no parts, or because of the first part that lacks something,
or because its session cannot be had, or because it cannot be inserted. -/
lemma sendMessage_eq_error_iff {id : Uuid} {now : Instant} {input : SendMessage} :
    s.sendMessage id now input = .error e ↔
      (input.parts = [] ∧ e = .emptyMessage) ∨
      (∃ i fault, Part.FirstFault input.parts i fault ∧ e = .invalidPart i fault) ∨
      (Part.Sendable input.parts ∧
        (s.session input.sessionId = .error e ∨
          ∃ session cause, s.session input.sessionId = .ok session ∧
            s.store.insertMessage
              (.new id now input.sessionId input.role input.parts input.metadata) = .error cause ∧
            e = .storage cause)) := by
  unfold sendMessage
  split
  next hempty =>
    have hnil : input.parts = [] := List.isEmpty_iff.mp hempty
    constructor
    · rintro ⟨⟩
      exact .inl ⟨hnil, rfl⟩
    · rintro (⟨-, rfl⟩ | ⟨i, fault, ⟨⟨part, hpart, -⟩, -⟩, -⟩ | ⟨hsendable, -⟩)
      · rfl
      · simp [hnil] at hpart
      · exact absurd hnil hsendable.some
  next hempty =>
    have hsome : input.parts ≠ [] := fun hnil => hempty (List.isEmpty_iff.mpr hnil)
    have hsendable : (∀ part ∈ input.parts, part.validate = .ok ()) ↔
        Part.Sendable input.parts := ⟨fun hvalid => ⟨hsome, hvalid⟩, fun h => h.valid⟩
    simp only [bind_eq_error_iff, stored_eq_error_iff, checkParts_eq_ok_iff, hsendable,
      checkParts_eq_error_iff, Nat.zero_add, pure_ne_error, hsome, false_and, false_or, and_false,
      exists_false, or_false, exists_const, exists_and_left]

end Service

end Colloquy
