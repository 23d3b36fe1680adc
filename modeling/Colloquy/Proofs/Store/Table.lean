import Mathlib.Data.List.Nodup
import Colloquy.Proofs.Store.Row

/-!
# Tables

A table is a list of written rows whose ids differ (`IsTable`). Adding a row under a new id,
changing rows without touching their ids and removing rows all keep it a table. The changes that the
store makes to single columns leave a row written: it becomes the row of the record with that field
changed.
-/

namespace Colloquy

namespace Store

variable {ρ α : Type} [Row ρ α]

/-! ### Constraints that are met -/

/-- An id is found exactly if a row has it. -/
lemma hasId_eq_true_iff {id : Cell} {rows : List ρ} :
    hasId id rows = true ↔ ∃ r ∈ rows, Row.id r = id := by
  simp [hasId]

/-- An id is not found exactly if no row has it. -/
lemma hasId_eq_false_iff {id : Cell} {rows : List ρ} :
    hasId id rows = false ↔ ∀ r ∈ rows, Row.id r ≠ id := by
  simp [hasId]

/-- Changes of rows do not change which ids there are. -/
lemma hasId_updateWhere {rows : List ρ} {change : ρ → ρ}
    (hid : ∀ r, Row.id (change r) = Row.id r) (id : Uuid) (other : Cell) :
    hasId other (updateWhere id change rows) = hasId other rows := by
  unfold hasId updateWhere
  rw [List.any_map]
  refine congrArg rows.any (funext fun r => ?_)
  rw [Function.comp_apply]
  split
  · rw [hid]
  · rfl

/-- A row is added exactly if its id is new, and then at the end. -/
lemma append_eq_ok_iff {table : String} {r : ρ} {rows rows' : List ρ} :
    append table r rows = .ok rows' ↔ hasId (Row.id r) rows = false ∧ rows' = rows ++ [r] := by
  unfold append
  cases hasId (Row.id r) rows <;> simp [eq_comm]

/-- A change is given back exactly if its record was found. -/
lemma found_eq_ok_iff {entity : Entity} {id : Uuid} {any : Bool} {s s' : Store} :
    found entity id any s = .ok s' ↔ any = true ∧ s' = s := by
  unfold found
  cases any <;> simp [eq_comm]

/-- A reference is accepted exactly if it does not dangle. -/
lemma checkReference_eq_ok_iff {reference : Cell} {rows : List ρ} {u : Unit} :
    checkReference reference rows = .ok u ↔ dangles reference rows = false := by
  unfold checkReference
  cases dangles reference rows <;> simp

/-- Nothing is found exactly if no row has the id. -/
lemma find?_eq_ok_none_iff {id : Uuid} {rows : List ρ} :
    Listing.find? id rows = .ok none ↔ hasId (.ofUuid id) rows = false := by
  unfold Listing.find?
  cases hfind : rows.find? fun r => Row.id r == Cell.ofUuid id with
  | none =>
    refine iff_of_true rfl (hasId_eq_false_iff.mpr fun r hr hid => ?_)
    exact List.find?_eq_none.mp hfind r hr (beq_iff_eq.mpr hid)
  | some r =>
    have hid : Row.id r = .ofUuid id := by simpa using List.find?_some hfind
    have hstored := hasId_eq_true_iff.mpr ⟨r, List.mem_of_find?_eq_some hfind, hid⟩
    cases hread : Row.read r <;> simp [hread, hstored]

/-- The row with this id is there and cannot be read. -/
def Unread (id : Uuid) (rows : List ρ) (cause : StoreError) : Prop :=
  ∃ fault, cause = .unreadable fault ∧ ∃ r ∈ rows, Row.id r = .ofUuid id ∧ Row.read r = .error fault

/-! ### Changes of rows -/

/-- A row that stands in a table after some rows were changed stood there before, or is what a row
that stood there has become. -/
lemma mem_or_exists_of_mem_changed {p : ρ → Prop} [DecidablePred p] {change : ρ → ρ} {rows : List ρ}
    {r' : ρ} (hr' : r' ∈ rows.map fun r => if p r then change r else r) :
    r' ∈ rows ∨ ∃ r ∈ rows, r' = change r := by
  obtain ⟨r, hr, rfl⟩ := List.mem_map.mp hr'
  split
  · exact .inr ⟨r, hr, rfl⟩
  · exact .inl hr

/-- Changing the row with one id and then those with others is one change of all these rows, if it
makes no difference to change a row twice. -/
lemma map_updateWhere {id : Uuid} {ids : List Uuid} {change : ρ → ρ}
    (hid : ∀ r, Row.id (change r) = Row.id r) (htwice : ∀ r, change (change r) = change r)
    (rows : List ρ) :
    (updateWhere id change rows).map
        (fun r => if Row.id r ∈ ids.map Cell.ofUuid then change r else r) =
      rows.map fun r => if Row.id r ∈ (id :: ids).map Cell.ofUuid then change r else r := by
  rw [updateWhere, List.map_map]
  refine List.map_congr_left fun r _ => ?_
  simp only [Function.comp_apply, List.map_cons, List.mem_cons]
  by_cases hfirst : Row.id r = Cell.ofUuid id
  · simp only [hfirst, if_true, hid, true_or, htwice, ite_self]
  · simp only [hfirst, if_false, false_or]

/-! ### Tables of written rows -/

variable [Keyed α] [StoredRow ρ α]

/-- Written rows with different ids. -/
structure IsTable (rows : List ρ) : Prop where
  written : ∀ r ∈ rows, Row.Written r
  nodup : (rows.map Row.id).Nodup

namespace IsTable

/-- No rows are a table. -/
lemma nil : IsTable ([] : List ρ) := ⟨by simp, List.nodup_nil⟩

variable {rows rows' : List ρ}

/-- A row with a new id can be added. -/
lemma append (h : IsTable rows) {r : ρ} (hr : Row.Written r)
    (hnew : hasId (Row.id r) rows = false) : IsTable (rows ++ [r]) := by
  refine ⟨fun r' hr' => ?_, ?_⟩
  · rcases List.mem_append.mp hr' with hold | hlast
    · exact h.written r' hold
    · exact List.mem_singleton.mp hlast ▸ hr
  · rw [List.map_append, List.nodup_append]
    refine ⟨h.nodup, List.nodup_singleton _, fun a ha b hb => ?_⟩
    obtain ⟨r', hr', rfl⟩ := List.mem_map.mp ha
    rw [List.map_singleton, List.mem_singleton] at hb
    exact hb ▸ hasId_eq_false_iff.mp hnew r' hr'

/-- Rows can be changed in their columns other than the id. -/
lemma map (h : IsTable rows) {f : ρ → ρ} (hid : ∀ r, Row.id (f r) = Row.id r)
    (hwritten : ∀ r, Row.Written r → Row.Written (f r)) : IsTable (rows.map f) := by
  refine ⟨fun r' hr' => ?_, ?_⟩
  · obtain ⟨r, hr, rfl⟩ := List.mem_map.mp hr'
    exact hwritten r (h.written r hr)
  · rw [List.map_map, show Row.id ∘ f = Row.id from funext hid]
    exact h.nodup

/-- The row with an id can be changed if the change keeps its id and leaves it written. -/
lemma updateWhere (h : IsTable rows) (id : Uuid) {change : ρ → ρ}
    (hid : ∀ r, Row.id (change r) = Row.id r)
    (hwritten : ∀ r, Row.Written r → Row.Written (change r)) :
    IsTable (updateWhere id change rows) := by
  refine h.map (fun r => ?_) fun r hr => ?_
  · split
    · exact hid r
    · rfl
  · split
    · exact hwritten r hr
    · exact hr

/-- Rows can be removed. -/
lemma sublist (h : IsTable rows) (hsub : rows'.Sublist rows) : IsTable rows' :=
  ⟨fun r hr => h.written r (hsub.mem hr), h.nodup.sublist (hsub.map _)⟩

/-- Rows can be removed. -/
lemma filter (h : IsTable rows) (p : ρ → Bool) : IsTable (rows.filter p) :=
  h.sublist List.filter_sublist

/-- No row stands in a table twice. -/
lemma nodup_rows (h : IsTable rows) : rows.Nodup := h.nodup.of_map _

/-- Rows of a table are told apart by their ids. -/
lemma eq_of_id_eq (h : IsTable rows) {r r' : ρ} (hr : r ∈ rows) (hr' : r' ∈ rows)
    (hid : Row.id r = Row.id r') : r = r' :=
  List.inj_on_of_nodup_map h.nodup hr hr' hid

/-- The positions of different rows have different ids. -/
lemma nodup_keys (h : IsTable rows) : ((rows.map Row.key).map SortKey.id).Nodup := by
  have hids : rows.map Row.id = ((rows.map Row.key).map SortKey.id).map Cell.ofUuid := by
    rw [List.map_map, List.map_map]
    exact List.map_congr_left fun r hr => (h.written r hr).isAt_key.1
  exact (hids ▸ h.nodup).of_map _

/-- A record is found by its id if its row is in the table and can be read. -/
lemma find?_eq_ok_some_iff (h : IsTable rows) {id : Uuid} {a : α} :
    Listing.find? id rows = .ok (some a) ↔
      ∃ r ∈ rows, Row.id r = .ofUuid id ∧ Row.read r = .ok a := by
  unfold Listing.find?
  constructor
  · intro hfind
    split at hfind
    next => simp at hfind
    next r hr =>
      cases hread : Row.read r with
      | error fault => simp [hread] at hfind
      | ok b =>
        obtain rfl : b = a := by simpa [hread] using hfind
        exact ⟨r, List.mem_of_find?_eq_some hr, by simpa using List.find?_some hr, hread⟩
  · rintro ⟨r, hr, hid, hread⟩
    cases hfind : rows.find? fun r => Row.id r == Cell.ofUuid id with
    | none =>
      have hother := List.find?_eq_none.mp hfind r hr
      exact absurd (beq_iff_eq.mpr hid) hother
    | some r' =>
      have hid' : Row.id r' = .ofUuid id := by simpa using List.find?_some hfind
      obtain rfl := h.eq_of_id_eq (List.mem_of_find?_eq_some hfind) hr (hid'.trans hid.symm)
      simp only [hread]

/-- A lookup is refused exactly if the row with the id is in the table and cannot be read. -/
lemma find?_eq_error_iff (h : IsTable rows) {id : Uuid} {e : StoreError} :
    Listing.find? id rows = .error e ↔ Unread id rows e := by
  unfold Listing.find? Unread
  cases hfind : rows.find? fun r => Row.id r == Cell.ofUuid id with
  | none =>
    refine iff_of_false (by simp) ?_
    rintro ⟨fault, -, r, hr, hid, -⟩
    exact List.find?_eq_none.mp hfind r hr (beq_iff_eq.mpr hid)
  | some r =>
    have hr := List.mem_of_find?_eq_some hfind
    have hid : Row.id r = .ofUuid id := by simpa using List.find?_some hfind
    have hsame : ∀ r' ∈ rows, Row.id r' = .ofUuid id → r' = r := fun r' hr' hid' =>
      h.eq_of_id_eq hr' hr (hid'.trans hid.symm)
    cases hread : Row.read r with
    | error fault =>
      simp only [hread, Except.error.injEq]
      constructor
      · rintro rfl
        exact ⟨fault, rfl, r, hr, hid, hread⟩
      · rintro ⟨fault', rfl, r', hr', hid', hread'⟩
        obtain rfl := hsame r' hr' hid'
        rw [Except.error.inj (hread.symm.trans hread')]
    | ok a =>
      refine iff_of_false (by simp [hread]) ?_
      rintro ⟨fault, -, r', hr', hid', hread'⟩
      obtain rfl := hsame r' hr' hid'
      simp [hread] at hread'

end IsTable

end Store

/-! ### Rows that stay written -/

open Row

/-- A space is written after its configuration has been replaced. -/
lemma SpaceRow.written_configs {r : SpaceRow} (h : Written r) {now : Instant} {updatedAt : Cell}
    (hnow : Cell.ofInstant now = .ok updatedAt) (configs : JsonObject) :
    Written { r with configs := .ofObject configs, updatedAt } := by
  obtain ⟨a, ha⟩ := h
  obtain ⟨hid, hproject, -, hcreated, -⟩ := Space.toRow_eq_ok_iff.mp ha
  refine ⟨{ a with configs, updatedAt := now }, Space.toRow_eq_ok_iff.mpr ?_⟩
  exact ⟨hid, hproject, rfl, hcreated, hnow⟩

namespace SessionRow

variable {r : SessionRow} {now : Instant} {updatedAt : Cell}

/-- A session is written after its configuration has been replaced. -/
lemma written_configs (h : Written r) (hnow : Cell.ofInstant now = .ok updatedAt)
    (configs : JsonObject) : Written { r with configs := .ofObject configs, updatedAt } := by
  obtain ⟨a, ha⟩ := h
  obtain ⟨hid, hproject, hspace, -, hcreated, -⟩ := Session.toRow_eq_ok_iff.mp ha
  refine ⟨{ a with configs, updatedAt := now }, Session.toRow_eq_ok_iff.mpr ?_⟩
  exact ⟨hid, hproject, hspace, rfl, hcreated, hnow⟩

/-- A session is written after it has been connected to a space. -/
lemma written_connected (h : Written r) (hnow : Cell.ofInstant now = .ok updatedAt)
    (spaceId : Uuid) : Written { r with spaceId := .ofUuid spaceId, updatedAt } := by
  obtain ⟨a, ha⟩ := h
  obtain ⟨hid, hproject, -, hconfigs, hcreated, -⟩ := Session.toRow_eq_ok_iff.mp ha
  refine ⟨{ a with spaceId := some spaceId, updatedAt := now }, Session.toRow_eq_ok_iff.mpr ?_⟩
  exact ⟨hid, hproject, rfl, hconfigs, hcreated, hnow⟩

/-- A session is written after it has lost its space. -/
lemma written_disconnected (h : Written r) : Written { r with spaceId := .null } := by
  obtain ⟨a, ha⟩ := h
  obtain ⟨hid, hproject, -, hrest⟩ := Session.toRow_eq_ok_iff.mp ha
  exact ⟨{ a with spaceId := none }, Session.toRow_eq_ok_iff.mpr ⟨hid, hproject, rfl, hrest⟩⟩

end SessionRow

namespace MessageRow

/-- A message is written after its status has been set. -/
lemma written_processStatus {r : MessageRow} (h : Written r) {now : Instant} {updatedAt : Cell}
    (hnow : Cell.ofInstant now = .ok updatedAt) (status : TaskStatus) :
    Written { r with processStatus := .text status.name, updatedAt } := by
  obtain ⟨a, ha⟩ := h
  obtain ⟨hid, hsession, hparent, hrole, hmetadata, hparts, htask, -, hcreated, -⟩ :=
    Message.toRow_eq_ok_iff.mp ha
  refine ⟨{ a with processStatus := status, updatedAt := now }, Message.toRow_eq_ok_iff.mpr ?_⟩
  exact ⟨hid, hsession, hparent, hrole, hmetadata, hparts, htask, rfl, hcreated, hnow⟩

/-- A message is written after it has lost its task. -/
lemma written_withoutTask {r : MessageRow} (h : Written r) :
    Written { r with taskId := .null } := by
  obtain ⟨a, ha⟩ := h
  obtain ⟨hid, hsession, hparent, hrole, hmetadata, hparts, -, hrest⟩ :=
    Message.toRow_eq_ok_iff.mp ha
  refine ⟨{ a with taskId := none }, Message.toRow_eq_ok_iff.mpr ?_⟩
  exact ⟨hid, hsession, hparent, hrole, hmetadata, hparts, rfl, hrest⟩

end MessageRow

namespace TaskRow

variable {r : TaskRow} {now : Instant} {updatedAt : Cell}

/-- A task is written after its status has been set. -/
lemma written_status (h : Written r) (hnow : Cell.ofInstant now = .ok updatedAt)
    (status : TaskStatus) : Written { r with status := .text status.name, updatedAt } := by
  obtain ⟨a, ha⟩ := h
  obtain ⟨hid, hsession, horder, hdata, -, hplanning, hdigested, hcreated, -⟩ :=
    Task.toRow_eq_ok_iff.mp ha
  refine ⟨{ a with status, updatedAt := now }, Task.toRow_eq_ok_iff.mpr ?_⟩
  exact ⟨hid, hsession, horder, hdata, rfl, hplanning, hdigested, hcreated, hnow⟩

/-- A task is written after it has been marked. -/
lemma written_digested (h : Written r) (hnow : Cell.ofInstant now = .ok updatedAt)
    (digested : Bool) : Written { r with spaceDigested := .ofBool digested, updatedAt } := by
  obtain ⟨a, ha⟩ := h
  obtain ⟨hid, hsession, horder, hdata, hstatus, hplanning, -, hcreated, -⟩ :=
    Task.toRow_eq_ok_iff.mp ha
  refine ⟨{ a with spaceDigested := digested, updatedAt := now }, Task.toRow_eq_ok_iff.mpr ?_⟩
  exact ⟨hid, hsession, horder, hdata, hstatus, hplanning, rfl, hcreated, hnow⟩

end TaskRow

end Colloquy
