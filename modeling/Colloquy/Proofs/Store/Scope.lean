import Colloquy.Proofs.Store.Listing
import Colloquy.Proofs.Store.Reachable
import Colloquy.Store.Scope

/-!
# Listings of the store

A listing cuts its page from the cells of the stored rows. In every store that operations lead to,
it gives the page that the same query cuts from the records of its scope in memory
(`list_eq_assemble_select`).
-/

namespace Colloquy

instance : (scope : Scope) → StoredRow scope.TableRow scope.Record
  | .spaces _ => inferInstanceAs (StoredRow SpaceRow Space)
  | .sessions _ _ => inferInstanceAs (StoredRow SessionRow Session)
  | .messages _ => inferInstanceAs (StoredRow MessageRow Message)
  | .tasks _ => inferInstanceAs (StoredRow TaskRow Task)
  | .disks _ => inferInstanceAs (StoredRow DiskRow Disk)

/-! ### Rows and records of a scope -/

open Cell in
/-- The cells of a row put it into a scope as the fields of its record do. -/
lemma Scope.selects_eq_covers {scope : Scope} {r : scope.TableRow} {a : scope.Record}
    (hr : Row.Written r) (ha : Row.read r = .ok a) : scope.selects r = scope.covers a := by
  cases scope with
  | spaces projectId =>
    change (SpaceRow.projectId r == .ofUuid projectId) = (Space.projectId a == projectId)
    rw [SpaceRow.projectId_of_read hr ha, ofUuid_beq]
  | sessions projectId filter =>
    obtain ⟨hproject, hspace⟩ := SessionRow.owners_of_read hr ha
    cases filter with
    | all =>
      change (SessionRow.projectId r == .ofUuid projectId && true) =
        (Session.projectId a == projectId && true)
      rw [hproject, ofUuid_beq]
    | inSpace id =>
      change (SessionRow.projectId r == .ofUuid projectId && SessionRow.spaceId r == .ofUuid id) =
        (Session.projectId a == projectId && Session.spaceId a == some id)
      rw [hproject, ofUuid_beq, hspace, ofUuid?_beq_ofUuid]
    | notConnected =>
      change (SessionRow.projectId r == .ofUuid projectId && SessionRow.spaceId r == .null) =
        (Session.projectId a == projectId && Session.spaceId a == none)
      rw [hproject, ofUuid_beq, hspace, ofUuid?_beq_null]
  | messages sessionId =>
    change (MessageRow.sessionId r == .ofUuid sessionId) = (Message.sessionId a == sessionId)
    rw [MessageRow.sessionId_of_read hr ha, ofUuid_beq]
  | tasks sessionId =>
    change (TaskRow.sessionId r == .ofUuid sessionId) = (Task.sessionId a == sessionId)
    rw [TaskRow.sessionId_of_read hr ha, ofUuid_beq]
  | disks projectId =>
    change (DiskRow.projectId r == .ofUuid projectId) = (Disk.projectId a == projectId)
    rw [DiskRow.projectId_of_read hr ha, ofUuid_beq]

namespace Store

variable {s : Store} {scope : Scope}

/-- Each table of a well-formed store is a table. -/
lemma WellFormed.table (h : s.WellFormed) (scope : Scope) : IsTable (s.table scope) := by
  cases scope with
  | spaces => exact h.spaces
  | sessions => exact h.sessions
  | messages => exact h.messages
  | tasks => exact h.tasks
  | disks => exact h.disks

/-- The rows of a scope of a well-formed store are a table. -/
lemma WellFormed.rows (h : s.WellFormed) (scope : Scope) : IsTable (s.rows scope) :=
  (h.table scope).filter _

/-- The rows of a scope are read as the records that belong to it. -/
lemma reads_rows (h : s.WellFormed) {records : List scope.Record}
    (hread : s.records scope = .ok records) :
    Listing.Reads (s.rows scope) (records.filter scope.covers) :=
  (Listing.readAll_eq_ok_iff.mp hread).filter fun r hr _ ha =>
    Scope.selects_eq_covers ((h.table scope).written r hr) ha

/-! ### Pages -/

/-- A listing gives the page that its query cuts from the records of its scope in memory. -/
theorem list_eq_assemble_select (hs : s.Reachable) {records : List scope.Record}
    (hread : s.records scope = .ok records) {request : PageRequest} {limits : PagingLimits}
    {q : KeysetQuery} (hq : request.resolve limits = .ok q) :
    ∃ page, q.assemble (q.select (records.filter scope.covers)) = .ok page ∧
      s.list scope q = .ok page := by
  obtain ⟨hcounted, -⟩ := PageRequest.resolve_eq_ok hq
  obtain ⟨page, hpage, hlist⟩ := Listing.page_eq_assemble_select (reads_rows hs.wellFormed hread)
    (hs.wellFormed.rows scope).written hcounted
  exact ⟨page, hpage, (list_eq_page s scope q).trans hlist⟩

/-- Of three disks that were made at one time, the page after the first one of a project. -/
theorem list_eq_assemble_select_three_disks :
    let disk (id projectId : Nat) : Disk :=
      .new (.ofNat id) (.ofNanos ⟨-5, by decide⟩) (.ofNat projectId)
    let s := empty.run [.createDisk (disk 1 7), .createDisk (disk 2 7), .createDisk (disk 3 8)]
    let scope := Scope.disks (.ofNat 7)
    let records : List Disk := [disk 1 7, disk 2 7, disk 3 8]
    let q : KeysetQuery := ⟨some (sortKey (disk 1 7)), .ascending, ⟨1, by decide⟩⟩
    ∃ page : Page Disk, q.assemble (q.select (records.filter scope.covers)) = .ok page ∧
      s.list scope q = .ok page := by
  intro disk s scope records q
  have hs : s.Reachable := ⟨_, rfl⟩
  have hread : Listing.readAll s.disks = .ok records := by decide +kernel
  have hq : PageRequest.resolve ⟨some 1, some
      "LTV8MDAwMDAwMDAtMDAwMC0wMDAwLTAwMDAtMDAwMDAwMDAwMDAx", some false⟩ {} = .ok q := by
    decide +kernel
  -- what the store holds is not to be computed once more
  clear_value s records
  exact list_eq_assemble_select hs (show s.records scope = .ok records from hread) hq

end Store

end Colloquy
