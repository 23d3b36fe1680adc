import Colloquy.Proofs.Store.Keeping

/-!
# Counts and listings

The store counts the messages of a session that wait, and its tasks that have and have not been
folded into its space, by looking at cells. In every store that operations lead to these are the
counts of the records that a drain of the session returns, whatever the order and the page sizes of
the drain (`Store.tallies_drained`): the cells of a written row are those of the record that is read
from it, so that conditions on cells are conditions on records.
-/

namespace Colloquy

/-! ### Conditions on cells -/

/-- What is counted in rows is counted in the records that are read from them. -/
lemma Listing.Reads.countP {ρ α : Type} [Row ρ α] {rows : List ρ} {records : List α}
    (h : Reads rows records) {p : ρ → Bool} {p' : α → Bool}
    (hp : ∀ r ∈ rows, ∀ a, Row.read r = .ok a → p r = p' a) :
    rows.countP p = records.countP p' := by
  have hlength := congrArg List.length (h.filter hp)
  rw [List.length_map, List.length_map] at hlength
  rw [List.countP_eq_length_filter, List.countP_eq_length_filter, hlength]

open Cell in
/-- A written message waits by its cell if it waits as it is read. -/
lemma MessageRow.processStatus_beq {r : MessageRow} {a : Message} (hr : Row.Written r)
    (ha : r.read = .ok a) (status : TaskStatus) :
    (r.processStatus == .text status.name) = (a.processStatus == status) := by
  obtain ⟨b, hb⟩ := hr
  obtain ⟨-, -, -, -, -, -, -, hwritten, -⟩ := Message.toRow_eq_ok_iff.mp hb
  obtain ⟨-, -, -, -, -, -, -, hread, -⟩ := MessageRow.read_eq_ok_iff.mp ha
  rw [hwritten, label?_name (TaskStatus.parse_name _), Except.ok.injEq] at hread
  rw [hwritten, hread]
  cases a.processStatus <;> cases status <;> decide

open Cell in
/-- A written task is folded by its cell if it is folded as it is read. -/
lemma TaskRow.spaceDigested_beq {r : TaskRow} {a : Task} (hr : Row.Written r)
    (ha : r.read = .ok a) (digested : Bool) :
    (r.spaceDigested == .ofBool digested) = (a.spaceDigested == digested) := by
  obtain ⟨b, hb⟩ := hr
  obtain ⟨-, -, -, -, -, -, hwritten, -⟩ := Task.toRow_eq_ok_iff.mp hb
  obtain ⟨-, -, -, -, -, -, hread, -⟩ := TaskRow.read_eq_ok_iff.mp ha
  rw [hwritten, bool?_ofBool, Except.ok.injEq] at hread
  rw [hwritten, hread]
  cases a.spaceDigested <;> cases digested <;> decide

namespace Store

variable {s : Store} {limits : PagingLimits} {limit : Nat → Option Nat} {timeDesc : Option Bool}

/-! ### Counts of rows -/

/-- What is counted of the rows of a scope, row by row, is what is counted of the records that a
drain of the scope returns. -/
lemma countP_drained (hs : s.WellFormed) (scope : Scope) {pages : List (Page scope.Record)}
    (hlimit : ∀ i, limits.Accepts (limit i))
    (hpages : s.DrainsTo scope limits timeDesc limit pages) {p : scope.TableRow → Bool}
    {p' : scope.Record → Bool}
    (hp : ∀ r, Row.Written r → ∀ a, Row.read r = .ok a → p r = p' a) :
    (s.table scope).countP (fun r => scope.selects r && p r) =
      (pages.flatMap Page.items).countP p' := by
  have hread := (exists_drainsTo_iff hs hlimit timeDesc).mp ⟨pages, hpages⟩
  obtain ⟨records, hrecords⟩ := Listing.exists_reads hread
  obtain ⟨ordered, hordered, -, hdrains⟩ := exists_drainsTo_of_reads hs hrecords limits timeDesc
  obtain ⟨pages', hpages', rfl⟩ := hdrains hlimit
  obtain rfl := hpages.unique hpages'
  have hrows : (s.table scope).countP (fun r => scope.selects r && p r) =
      (s.rows scope).countP p := by
    rw [rows, List.countP_filter]
    exact List.countP_congr fun r _ => by rw [Bool.and_comm]
  rw [hrows, hrecords.countP fun r hr => hp r ((hs.rows scope).written r hr),
    hordered.countP_eq]

/-- The counts of a session, stored or not, are those of its listings. If the rows of a listing can
be read, there is a drain of it, and in every drain, with pages of any sizes and in either order,
as many messages wait as the store counts, and as many tasks have been folded and have not; these
two make up all of the tasks. -/
theorem tallies_drained (hs : s.Reachable) (sessionId : Uuid) (limits : PagingLimits)
    (timeDesc : Option Bool) (limit : Nat → Option Nat) (hlimit : ∀ i, limits.Accepts (limit i)) :
    ((s.Readable (.messages sessionId) →
        ∃ pages, s.DrainsTo (.messages sessionId) limits timeDesc limit pages) ∧
      ∀ pages : List (Page Message),
        s.DrainsTo (.messages sessionId) limits timeDesc limit pages →
          s.pendingMessageCount sessionId =
            (pages.flatMap Page.items).countP fun m => m.processStatus == .pending) ∧
    (s.Readable (.tasks sessionId) →
        ∃ pages, s.DrainsTo (.tasks sessionId) limits timeDesc limit pages) ∧
      ∀ pages : List (Page Task), s.DrainsTo (.tasks sessionId) limits timeDesc limit pages →
        (s.learningStatus sessionId).digested =
            (pages.flatMap Page.items).countP (fun t => t.spaceDigested) ∧
          (s.learningStatus sessionId).notDigested =
            (pages.flatMap Page.items).countP (fun t => !t.spaceDigested) ∧
          (s.learningStatus sessionId).digested + (s.learningStatus sessionId).notDigested =
            (pages.flatMap Page.items).length := by
  refine ⟨⟨(exists_drainsTo_iff hs.wellFormed hlimit timeDesc).mpr, ?_⟩,
    (exists_drainsTo_iff hs.wellFormed hlimit timeDesc).mpr, ?_⟩
  · intro pages hpages
    refine countP_drained hs.wellFormed (.messages sessionId) hlimit hpages
      (p := fun r : MessageRow => r.processStatus == .text TaskStatus.pending.name) ?_
    intro r hr a ha
    exact MessageRow.processStatus_beq hr ha .pending
  · intro pages hpages
    have hcount : ∀ digested : Bool,
        s.tasks.countP (fun r => r.sessionId == .ofUuid sessionId &&
          r.spaceDigested == .ofBool digested) =
            (pages.flatMap Page.items).countP fun t => t.spaceDigested == digested := by
      intro digested
      refine countP_drained hs.wellFormed (.tasks sessionId) hlimit hpages
        (p := fun r : TaskRow => r.spaceDigested == .ofBool digested) ?_
      intro r hr a ha
      exact TaskRow.spaceDigested_beq hr ha digested
    have hdigested : (s.learningStatus sessionId).digested =
        (pages.flatMap Page.items).countP fun t => t.spaceDigested := by
      refine (hcount true).trans ?_
      simp
    have hother : (s.learningStatus sessionId).notDigested =
        (pages.flatMap Page.items).countP fun t => !t.spaceDigested := by
      refine (hcount false).trans ?_
      simp
    refine ⟨hdigested, hother, ?_⟩
    rw [hdigested, hother, List.length_eq_countP_add_countP fun t : Task => t.spaceDigested]
    simp

/-- A session with two messages and two tasks: one message has been extracted, and one task has been
folded. Both pages of each listing are walked, and a session that is not stored has nothing. -/
theorem tallies_drained_two_tasks :
    let time : Instant := .ofNanos ⟨-1, by decide⟩
    let message (id : Nat) : Message := .new (.ofNat id) time (.ofNat 1) .user [.ofText "hello"] []
    let task (id : Nat) (order : Int) : Task := .new (.ofNat id) time (.ofNat 1) order []
    let s := empty.run [.createSession (.new (.ofNat 1) time (.ofNat 7) none []),
      .insertMessage (message 2), .insertMessage (message 3), .insertTask (task 4 0),
      .insertTask (task 5 (-1)), .setProcessStatus time [.ofNat 2] .success,
      .markTaskDigested time (.ofNat 5)]
    (∃ pages : List (Page Message),
      s.DrainsTo (.messages (.ofNat 1)) {} (some true) (fun _ => some 1) pages ∧
        1 = (pages.flatMap Page.items).countP fun m => m.processStatus == .pending) ∧
    (∃ pages : List (Page Task),
      s.DrainsTo (.tasks (.ofNat 1)) {} (some true) (fun _ => some 1) pages ∧
        1 = (pages.flatMap Page.items).countP (fun t => t.spaceDigested) ∧
        2 = (pages.flatMap Page.items).length) ∧
    s.pendingMessageCount (.ofNat 6) = 0 := by
  intro time message task s
  have hs : s.Reachable := ⟨_, rfl⟩
  have hlimit : PagingLimits.Accepts {} (some 1) := by
    unfold PagingLimits.Accepts
    decide
  have hheld : (s.Readable (.messages (.ofNat 1)) ∧ s.Readable (.tasks (.ofNat 1))) ∧
      s.pendingMessageCount (.ofNat 1) = 1 ∧ s.learningStatus (.ofNat 1) = ⟨1, 1⟩ ∧
      s.pendingMessageCount (.ofNat 6) = 0 := by decide +kernel
  -- what the store holds is not to be computed once more
  clear_value s
  obtain ⟨⟨hmessages, htasks⟩, hpending, hlearning, hnone⟩ := hheld
  obtain ⟨⟨hends, hwaiting⟩, hends', hfolded⟩ :=
    tallies_drained hs (.ofNat 1) {} (some true) (fun _ => some 1) fun _ => hlimit
  obtain ⟨pages, hpages⟩ := hends hmessages
  obtain ⟨pages', hpages'⟩ := hends' htasks
  obtain ⟨hdigested, -, hall⟩ := hfolded pages' hpages'
  refine ⟨⟨pages, hpages, ?_⟩, ⟨pages', hpages', ?_, ?_⟩, hnone⟩
  · rw [← hwaiting pages hpages, hpending]
  · rw [← hdigested, hlearning]
  · rw [hlearning] at hall
    exact hall

end Store

end Colloquy
