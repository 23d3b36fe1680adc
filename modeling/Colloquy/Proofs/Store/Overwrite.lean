import Mathlib.Tactic.FinCases
import Colloquy.Proofs.Store.Scope
import Colloquy.Store.Overwrite

/-!
# What an overwritten cell can break

A row that is read column by column fails at the first cell that cannot be read, and the fault names
the column of this cell. So a cell that is overwritten by hand can make a row that could be read
unreadable in its own column only (`Column.IsConfined`, for every column of every table), and a
listing of such rows can only stop at this column (`list_of_overwrite`). Listings of other tables
are not concerned. If listings neither select nor order rows by the column, exactly the pages that
fetch the row fail: the row is not left out of them (`list_of_corrupt_cell`). A version of the
layout that is written by hand is refused as newer, or brought up to date again
(`migrate_overwriteVersion`).
-/

namespace Colloquy

/-! ### Cells -/

/-- Whatever goes wrong in a reading, it is this column that is named. -/
def BlamesOnly {α : Type} (column : Nat) (x : Except ColumnFault α) : Prop :=
  ∀ fault, x = .error fault → fault.column = column

/-- What is made of a value that was read cannot go wrong. -/
lemma BlamesOnly.bind_pure {α β : Type} {column : Nat} {x : Except ColumnFault α}
    (h : BlamesOnly column x) (f : α → β) : BlamesOnly column (x >>= fun a => pure (f a)) := by
  intro fault hfault
  rcases bind_eq_error_iff.mp hfault with hx | ⟨a, -, hpure⟩
  · exact h fault hx
  · exact absurd hpure pure_ne_error

namespace Cell

/-- The number of a cell can only be missing in the column of the cell. -/
lemma blamesOnly_integer? (column : Nat) (c : Cell) : BlamesOnly column (c.integer? column) := by
  rintro fault h
  cases c with
  | integer n => simp [integer?] at h
  | null => exact congrArg ColumnFault.column (Except.error.inj h).symm
  | text s => exact congrArg ColumnFault.column (Except.error.inj h).symm

/-- The text of a cell can only be missing, or be of no value, in the column of the cell. -/
lemma blamesOnly_convert? {α : Type} (column : Nat) (read : String → Option α) (c : Cell) :
    BlamesOnly column (c.convert? column read) := by
  intro fault h
  unfold convert? at h
  cases c with
  | null => exact congrArg ColumnFault.column (Except.error.inj h).symm
  | integer n => exact congrArg ColumnFault.column (Except.error.inj h).symm
  | text s =>
    rw [show (text s).text? column = .ok s from rfl] at h
    dsimp only at h
    split at h
    next => simp at h
    next => exact congrArg ColumnFault.column (Except.error.inj h).symm

/-- A reference that may be absent can only be unreadable in the column of the cell. -/
lemma blamesOnly_optionalUuid? (column : Nat) (c : Cell) :
    BlamesOnly column (c.optionalUuid? column) := by
  intro fault h
  cases c with
  | null => simp [optionalUuid?] at h
  | integer n =>
    simp only [optionalUuid?] at h
    exact blamesOnly_convert? column _ _ fault (map_eq_error_iff.mp h)
  | text s =>
    simp only [optionalUuid?] at h
    exact blamesOnly_convert? column _ _ fault (map_eq_error_iff.mp h)

/-- A count can only be missing, or be of no time, in the column of the cell. -/
lemma blamesOnly_instant? (column : Nat) (c : Cell) : BlamesOnly column (c.instant? column) := by
  intro fault h
  unfold instant? at h
  split at h
  next e he =>
    obtain rfl := Except.error.inj h
    exact blamesOnly_integer? column c e he
  next =>
    split at h
    next => simp at h
    next => exact congrArg ColumnFault.column (Except.error.inj h).symm

/-- A truth value can only be missing in the column of the cell. -/
lemma blamesOnly_bool? (column : Nat) (c : Cell) : BlamesOnly column (c.bool? column) :=
  fun fault h => blamesOnly_integer? column c fault (map_eq_error_iff.mp h)

end Cell

/-! ### Rows -/

/-- Writing into a column can make a row that could be read unreadable in this column only, which is
the one with the given number. -/
def Column.IsConfined {ρ α : Type} [Row ρ α] (c : Column ρ) (column : Nat) : Prop :=
  ∀ (r : ρ) (a : α) (value : Cell), Row.read r = .ok a →
    BlamesOnly column (Row.read (c.set value r))

open Cell

/-- Every column of spaces is confined. -/
lemma SpaceRow.isConfined : ∀ p ∈ SpaceRow.columns.zipIdx, p.1.IsConfined p.2 := by
  simp only [columns, List.zipIdx_cons, List.zipIdx_nil, List.forall_mem_cons]
  refine ⟨?_, ?_, ?_, ?_, ?_, List.forall_mem_nil _⟩
  all_goals
    intro r a value h
    obtain ⟨hid, hproject, hconfigs, hcreated, hupdated⟩ := read_eq_ok_iff.mp h
    simp only [Row.read, read, hid, hproject, hconfigs, hcreated, hupdated, ok_bind_eq]
  · exact (blamesOnly_convert? 0 _ value).bind_pure _
  · exact (blamesOnly_convert? 1 _ value).bind_pure _
  · exact (blamesOnly_convert? 2 _ value).bind_pure _
  · exact (blamesOnly_instant? 3 value).bind_pure _
  · exact (blamesOnly_instant? 4 value).bind_pure _

/-- Every column of sessions is confined. -/
lemma SessionRow.isConfined : ∀ p ∈ SessionRow.columns.zipIdx, p.1.IsConfined p.2 := by
  simp only [columns, List.zipIdx_cons, List.zipIdx_nil, List.forall_mem_cons]
  refine ⟨?_, ?_, ?_, ?_, ?_, ?_, List.forall_mem_nil _⟩
  all_goals
    intro r a value h
    obtain ⟨hid, hproject, hspace, hconfigs, hcreated, hupdated⟩ := read_eq_ok_iff.mp h
    simp only [Row.read, read, hid, hproject, hspace, hconfigs, hcreated, hupdated, ok_bind_eq]
  · exact (blamesOnly_convert? 0 _ value).bind_pure _
  · exact (blamesOnly_convert? 1 _ value).bind_pure _
  · exact (blamesOnly_optionalUuid? 2 value).bind_pure _
  · exact (blamesOnly_convert? 3 _ value).bind_pure _
  · exact (blamesOnly_instant? 4 value).bind_pure _
  · exact (blamesOnly_instant? 5 value).bind_pure _

/-- Every column of messages is confined. -/
lemma MessageRow.isConfined : ∀ p ∈ MessageRow.columns.zipIdx, p.1.IsConfined p.2 := by
  simp only [columns, List.zipIdx_cons, List.zipIdx_nil, List.forall_mem_cons]
  refine ⟨?_, ?_, ?_, ?_, ?_, ?_, ?_, ?_, ?_, ?_, List.forall_mem_nil _⟩
  all_goals
    intro r a value h
    obtain ⟨hid, hsession, hparent, hrole, hmetadata, hparts, htask, hstatus, hcreated, hupdated⟩ :=
      read_eq_ok_iff.mp h
    simp only [Row.read, read, hid, hsession, hparent, hrole, hmetadata, hparts, htask, hstatus,
      hcreated, hupdated, ok_bind_eq]
  · exact (blamesOnly_convert? 0 _ value).bind_pure _
  · exact (blamesOnly_convert? 1 _ value).bind_pure _
  · exact (blamesOnly_optionalUuid? 2 value).bind_pure _
  · exact (blamesOnly_convert? 3 _ value).bind_pure _
  · exact (blamesOnly_convert? 4 _ value).bind_pure _
  · exact (blamesOnly_convert? 5 _ value).bind_pure _
  · exact (blamesOnly_optionalUuid? 6 value).bind_pure _
  · exact (blamesOnly_convert? 7 _ value).bind_pure _
  · exact (blamesOnly_instant? 8 value).bind_pure _
  · exact (blamesOnly_instant? 9 value).bind_pure _

/-- Every column of tasks is confined. -/
lemma TaskRow.isConfined : ∀ p ∈ TaskRow.columns.zipIdx, p.1.IsConfined p.2 := by
  simp only [columns, List.zipIdx_cons, List.zipIdx_nil, List.forall_mem_cons]
  refine ⟨?_, ?_, ?_, ?_, ?_, ?_, ?_, ?_, ?_, List.forall_mem_nil _⟩
  all_goals
    intro r a value h
    obtain ⟨hid, hsession, horder, hdata, hstatus, hplanning, hdigested, hcreated, hupdated⟩ :=
      read_eq_ok_iff.mp h
    simp only [Row.read, read, hid, hsession, horder, hdata, hstatus, hplanning, hdigested,
      hcreated, hupdated, ok_bind_eq]
  · exact (blamesOnly_convert? 0 _ value).bind_pure _
  · exact (blamesOnly_convert? 1 _ value).bind_pure _
  · exact (blamesOnly_integer? 2 value).bind_pure _
  · exact (blamesOnly_convert? 3 _ value).bind_pure _
  · exact (blamesOnly_convert? 4 _ value).bind_pure _
  · exact (blamesOnly_bool? 5 value).bind_pure _
  · exact (blamesOnly_bool? 6 value).bind_pure _
  · exact (blamesOnly_instant? 7 value).bind_pure _
  · exact (blamesOnly_instant? 8 value).bind_pure _

/-- Every column of disks is confined. -/
lemma DiskRow.isConfined : ∀ p ∈ DiskRow.columns.zipIdx, p.1.IsConfined p.2 := by
  simp only [columns, List.zipIdx_cons, List.zipIdx_nil, List.forall_mem_cons]
  refine ⟨?_, ?_, ?_, ?_, List.forall_mem_nil _⟩
  all_goals
    intro r a value h
    obtain ⟨hid, hproject, hcreated, hupdated⟩ := read_eq_ok_iff.mp h
    simp only [Row.read, read, hid, hproject, hcreated, hupdated, ok_bind_eq]
  · exact (blamesOnly_convert? 0 _ value).bind_pure _
  · exact (blamesOnly_convert? 1 _ value).bind_pure _
  · exact (blamesOnly_instant? 2 value).bind_pure _
  · exact (blamesOnly_instant? 3 value).bind_pure _

/-- The columns of the table that a scope is cut from. -/
def Scope.columns : (scope : Scope) → List (Column scope.TableRow)
  | .spaces _ => SpaceRow.columns
  | .sessions _ _ => SessionRow.columns
  | .messages _ => MessageRow.columns
  | .tasks _ => TaskRow.columns
  | .disks _ => DiskRow.columns

/-- Every column of every table is confined. -/
lemma Scope.isConfined (scope : Scope) : ∀ p ∈ scope.columns.zipIdx, p.1.IsConfined p.2 := by
  cases scope with
  | spaces => exact SpaceRow.isConfined
  | sessions => exact SessionRow.isConfined
  | messages => exact MessageRow.isConfined
  | tasks => exact TaskRow.isConfined
  | disks => exact DiskRow.isConfined

/-! ### Tables -/

/-- Writes into a column of a row if it has the given id. -/
def Column.write {ρ α : Type} [Row ρ α] (c : Column ρ) (id : String) (value : Cell) (r : ρ) : ρ :=
  if Row.id r == .text id then c.set (c.adapt value) r else r

namespace Store

variable {s s' : Store} {table column id : String} {value : Cell} {n : Nat}

/-- Overwriting a cell writes into the rows with the given id, and counts them. -/
lemma overwriteIn_eq_ok {ρ α : Type} [Row ρ α] {clash : ρ → ρ → Option (List String)}
    {c : Column ρ} {rows rows' : List ρ}
    (h : overwriteIn table clash c id value rows = .ok (rows', n)) :
    rows' = rows.map (c.write id value) ∧ n = rows.countP fun r => Row.id r == .text id := by
  unfold overwriteIn at h
  rw [List.partition_eq_filter_filter] at h
  dsimp only at h
  split at h
  next hnone =>
    obtain ⟨rfl, rfl⟩ := Prod.mk.inj (Except.ok.inj h)
    rw [List.isEmpty_iff, List.filter_eq_nil_iff] at hnone
    refine ⟨?_, (List.countP_eq_zero.mpr hnone).symm⟩
    conv_lhs => rw [← List.map_id rows]
    exact List.map_congr_left fun r hr => (if_neg (hnone r hr)).symm
  next =>
    split at h
    next => simp at h
    next =>
      split at h
      next => simp at h
      next =>
        obtain ⟨rfl, rfl⟩ := Prod.mk.inj (Except.ok.inj h)
        exact ⟨rfl, List.countP_eq_length_filter.symm⟩

/-- The same for a column that is looked up by its name, in a table that is part of a store. -/
lemma exists_column_of_overwrite {ρ α : Type} [Row ρ α] {clash : ρ → ρ → Option (List String)}
    {columns : List (Column ρ)} {rows : List ρ} (put : List ρ → Store)
    (h : (columns.find? (·.name == column)).map (fun c => do
      let (rows, n) ← overwriteIn table clash c id value rows
      return (put rows, n)) = some (.ok (s', n))) :
    ∃ c ∈ columns, c.name = column ∧ s' = put (rows.map (c.write id value)) ∧
      n = rows.countP fun r => Row.id r == .text id := by
  obtain ⟨c, hc, h⟩ := Option.map_eq_some_iff.mp h
  obtain ⟨⟨rows', m⟩, hrows, hpair⟩ := bind_eq_ok_iff.mp h
  obtain ⟨rfl, rfl⟩ := Prod.mk.inj (pure_eq_ok_iff.mp hpair)
  obtain ⟨rfl, rfl⟩ := overwriteIn_eq_ok hrows
  exact ⟨c, List.mem_of_find?_eq_some hc, by simpa using List.find?_some hc, rfl, rfl⟩

/-- Overwriting a cell changes the rows of its table that have the given id, in one column that has
the given name. -/
lemma table_of_overwrite (h : s.overwrite table column id value = some (.ok (s', n)))
    (scope : Scope) :
    (scope.tableName ≠ table ∧ s'.table scope = s.table scope) ∨
      (scope.tableName = table ∧ ∃ c ∈ scope.columns, c.name = column ∧
        s'.table scope = (s.table scope).map (c.write id value) ∧
        n = (s.table scope).countP fun r => Row.id r == .text id) := by
  unfold overwrite at h
  split at h
  next =>
    obtain ⟨c, hc, hname, rfl, rfl⟩ :=
      exists_column_of_overwrite (fun spaces => { s with spaces }) h
    cases scope with
    | spaces => exact .inr ⟨rfl, c, hc, hname, rfl, rfl⟩
    | _ => exact .inl ⟨by simp [Scope.tableName], rfl⟩
  next =>
    obtain ⟨c, hc, hname, rfl, rfl⟩ :=
      exists_column_of_overwrite (fun sessions => { s with sessions }) h
    cases scope with
    | sessions => exact .inr ⟨rfl, c, hc, hname, rfl, rfl⟩
    | _ => exact .inl ⟨by simp [Scope.tableName], rfl⟩
  next =>
    obtain ⟨c, hc, hname, rfl, rfl⟩ :=
      exists_column_of_overwrite (fun messages => { s with messages }) h
    cases scope with
    | messages => exact .inr ⟨rfl, c, hc, hname, rfl, rfl⟩
    | _ => exact .inl ⟨by simp [Scope.tableName], rfl⟩
  next =>
    obtain ⟨c, hc, hname, rfl, rfl⟩ :=
      exists_column_of_overwrite (fun tasks => { s with tasks }) h
    cases scope with
    | tasks => exact .inr ⟨rfl, c, hc, hname, rfl, rfl⟩
    | _ => exact .inl ⟨by simp [Scope.tableName], rfl⟩
  next =>
    obtain ⟨c, hc, hname, rfl, rfl⟩ :=
      exists_column_of_overwrite (fun disks => { s with disks }) h
    cases scope with
    | disks => exact .inr ⟨rfl, c, hc, hname, rfl, rfl⟩
    | _ => exact .inl ⟨by simp [Scope.tableName], rfl⟩
  next => simp at h

/-! ### Listings -/

/-- Listings of other tables do not see that a cell was overwritten. If all rows of its own table
could be read, a listing of this table can only stop at the overwritten column. -/
theorem list_of_overwrite (h : s.overwrite table column id value = some (.ok (s', n)))
    (scope : Scope) (q : KeysetQuery) :
    (scope.tableName ≠ table → s'.list scope q = s.list scope q) ∧
      (scope.tableName = table → (∀ r ∈ s.table scope, ∃ a, Row.read r = .ok a) →
        ∀ fault, s'.list scope q = .error (.unreadable fault) →
          scope.columns[fault.column]?.map Column.name = some column) := by
  rcases table_of_overwrite h scope with ⟨hother, hsame⟩ | ⟨hown, c, hc, hname, htable, -⟩
  · refine ⟨fun _ => ?_, fun hown => absurd hown hother⟩
    rw [list_eq_page, list_eq_page, rows, rows, hsame]
  · refine ⟨fun hother => absurd hown hother, fun _ hread fault hlist => ?_⟩
    rw [list_eq_page] at hlist
    obtain ⟨r', hr', hfault⟩ := Listing.exists_row_of_unreadable hlist
    replace hr' := List.mem_of_mem_filter hr'
    rw [htable] at hr'
    obtain ⟨r, hr, rfl⟩ := List.mem_map.mp hr'
    obtain ⟨a, ha⟩ := hread r hr
    obtain ⟨i, hi⟩ := List.mem_iff_getElem?.mp hc
    unfold Column.write at hfault
    split at hfault
    next =>
      have hcolumn : fault.column = i :=
        scope.isConfined (c, i) (List.mk_mem_zipIdx_iff_getElem?.mpr hi) r a _ ha fault hfault
      rw [hcolumn, hi, Option.map_some, hname]
    next => exact absurd hfault (ne_error_of_ok ha)

end Store

namespace Listing

variable {ρ α : Type} [Row ρ α] {q : KeysetQuery} {rows : List ρ} {f : ρ → ρ}

/-- A change that leaves ids and times alone leaves alone which rows come after a position. -/
lemma after_map (hid : ∀ r, Row.id (f r) = Row.id r)
    (hcreated : ∀ r, Row.createdAt (f r) = Row.createdAt r) :
    after q (rows.map f) = (after q rows).map (List.map f) := by
  unfold after
  split
  next => rfl
  next key hkey =>
    split
    next nanos hnanos =>
      have hsame : isAfter q.order nanos key.id ∘ f = isAfter q.order nanos key.id := by
        funext r
        simp only [Function.comp_apply, isAfter, hid, hcreated]
      rw [List.filter_map, hsame]
      rfl
    next => rfl

/-- Neither does it change their order. -/
lemma ordered_map (hid : ∀ r, Row.id (f r) = Row.id r)
    (hcreated : ∀ r, Row.createdAt (f r) = Row.createdAt r) :
    ordered q.order.keyword (rows.map f) = (ordered q.order.keyword rows).map f := by
  rw [ordered_keyword, ordered_keyword, KeysetQuery.map_oriented]
  refine congrArg q.oriented (List.map_mergeSort fun a _ b _ => ?_).symm
  rw [hid, hid, hcreated, hcreated]

variable [Keyed α] [StoredRow ρ α]

/-- A row that is changed and cannot be read any more fails the pages that fetch it, and no others.
It is not left out of a page. -/
lemma page_map_of_unreadable (hrows : Store.IsTable rows)
    (hq : ∀ key, q.after = some key → key.createdAt.Counted)
    (hread : ∀ r ∈ rows, ∃ a, Row.read r = .ok a) (hid : ∀ r, Row.id (f r) = Row.id r)
    (hcreated : ∀ r, Row.createdAt (f r) = Row.createdAt r) {r : ρ}
    (hsame : ∀ r' ∈ rows, r' ≠ r → f r' = r') {fault : ColumnFault}
    (hfault : Row.read (f r) = .error fault) :
    (r ∈ fetched q rows → page q (rows.map f) = .error (.unreadable fault)) ∧
      (r ∉ fetched q rows → page q (rows.map f) = page q rows) := by
  have hafter : after q (rows.map f) = .ok ((rows.filter fun r => q.admits (Row.key r)).map f) := by
    rw [after_map hid hcreated, after_eq_ok hrows.written hq]
    rfl
  have hfetched : (ordered q.order.keyword
      ((rows.filter fun r => q.admits (Row.key r)).map f)).take q.fetchLimit =
        (fetched q rows).map f := by
    rw [ordered_map hid hcreated, ← List.map_take, ordered_keyword]
    rfl
  constructor
  · intro hmem
    obtain ⟨before, rest, hsplit, hfirst⟩ := List.eq_append_cons_of_mem hmem
    have hbefore : ∀ r' ∈ before, r' ∈ rows ∧ r' ≠ r := fun r' hr' =>
      ⟨mem_of_mem_fetched (hsplit ▸ List.mem_append_left _ hr'), fun h => hfirst (h ▸ hr')⟩
    -- the rows that come before it in the page are as they were, and are read
    have hstops : FirstUnread ((fetched q rows).map f) fault := by
      refine ⟨before.map f, f r, rest.map f, by rw [hsplit, List.map_append, List.map_cons], ?_,
        hfault⟩
      intro r' hr'
      obtain ⟨r₀, hr₀, rfl⟩ := List.mem_map.mp hr'
      obtain ⟨hstored, hne⟩ := hbefore r₀ hr₀
      rw [hsame r₀ hstored hne]
      exact hread r₀ hstored
    have hreadAll : readAll ((fetched q rows).map f) = .error (.unreadable fault) :=
      readAll_eq_error_iff.mpr ⟨fault, hstops, rfl⟩
    simp only [page, hafter, hfetched, hreadAll]
  · intro hmem
    have hunchanged : (fetched q rows).map f = fetched q rows := by
      conv_rhs => rw [← List.map_id (fetched q rows)]
      refine List.map_congr_left fun r' hr' => ?_
      exact hsame r' (mem_of_mem_fetched hr') fun h => hmem (h ▸ hr')
    have horiginal : (ordered q.order.keyword
        (rows.filter fun r => q.admits (Row.key r))).take q.fetchLimit = fetched q rows := by
      rw [ordered_keyword]
      rfl
    simp only [page, hafter, hfetched, hunchanged, after_eq_ok hrows.written hq, horiginal]

end Listing

/-- The columns by which listings select and order rows. -/
def Scope.selecting : List String :=
  ["id", "project_id", "space_id", "session_id", "created_at_ns"]

/-- Writing into a column changes nothing by which a listing selects and orders its rows. -/
structure Column.IsInert (scope : Scope) (c : Column scope.TableRow) : Prop where
  id : ∀ value r, Row.id (c.set value r) = Row.id r
  createdAt : ∀ value r, Row.createdAt (c.set value r) = Row.createdAt r
  selects : ∀ value r, scope.selects (c.set value r) = scope.selects r

/-- Writing into such a column of the rows with an id changes nothing of the kind either. -/
lemma Column.IsInert.write {scope : Scope} {c : Column scope.TableRow} (h : c.IsInert scope)
    (id : String) (value : Cell) (r : scope.TableRow) :
    Row.id (c.write id value r) = Row.id r ∧ Row.createdAt (c.write id value r) = Row.createdAt r ∧
      scope.selects (c.write id value r) = scope.selects r := by
  unfold Column.write
  split
  · exact ⟨h.id _ r, h.createdAt _ r, h.selects _ r⟩
  · exact ⟨rfl, rfl, rfl⟩

/-- Columns with other names are inert. -/
lemma Scope.isInert (scope : Scope) {c : Column scope.TableRow} (hc : c ∈ scope.columns)
    (hname : c.name ∉ selecting) : c.IsInert scope := by
  cases scope <;>
    simp only [columns, SpaceRow.columns, SessionRow.columns, MessageRow.columns, TaskRow.columns,
      DiskRow.columns] at hc <;>
    fin_cases hc <;>
    first
      | exact ⟨fun _ _ => rfl, fun _ _ => rfl, fun _ _ => rfl⟩
      | simp [selecting] at hname

namespace Store

variable {s s' : Store} {column id : String} {value : Cell} {n : Nat}

/-- A corrupt cell fails the pages that fetch its row instead of shortening them, with the column of
the cell; other pages are as before. -/
theorem list_of_corrupt_cell (hs : s.WellFormed) {scope : Scope}
    (h : s.overwrite scope.tableName column id value = some (.ok (s', n)))
    (hcolumn : column ∉ Scope.selecting) (hread : ∀ r ∈ s.rows scope, ∃ a, Row.read r = .ok a)
    {r r' : scope.TableRow} (hr : r ∈ s.rows scope) (hid : Row.id r = .text id)
    (hr' : r' ∈ s'.table scope) (hid' : Row.id r' = .text id) {fault : ColumnFault}
    (hfault : Row.read r' = .error fault) {request : PageRequest} {limits : PagingLimits}
    {q : KeysetQuery} (hq : request.resolve limits = .ok q) :
    (r ∈ Listing.fetched q (s.rows scope) → s'.list scope q = .error (.unreadable fault)) ∧
      (r ∉ Listing.fetched q (s.rows scope) → s'.list scope q = s.list scope q) := by
  rcases table_of_overwrite h scope with ⟨hother, -⟩ | ⟨-, c, hc, rfl, htable, -⟩
  · exact absurd rfl hother
  have hinert := scope.isInert hc hcolumn
  have hids := fun r => (hinert.write id value r).1
  have hcreated := fun r => (hinert.write id value r).2.1
  have hselects : scope.selects ∘ c.write id value = scope.selects :=
    funext fun r => (hinert.write id value r).2.2
  have hrows : s'.rows scope = (s.rows scope).map (c.write id value) := by
    rw [rows, rows, htable, List.filter_map, hselects]
  obtain ⟨r₀, hr₀, rfl⟩ := List.mem_map.mp (htable ▸ hr')
  have hstored := List.mem_of_mem_filter hr
  obtain rfl : r₀ = r :=
    (hs.table scope).eq_of_id_eq hr₀ hstored ((hids r₀).symm.trans (hid'.trans hid.symm))
  have hsame : ∀ r' ∈ s.rows scope, r' ≠ r₀ → c.write id value r' = r' := by
    intro r' hr' hne
    refine if_neg fun hsameId => hne ?_
    exact (hs.rows scope).eq_of_id_eq hr' hr ((eq_of_beq hsameId).trans hid.symm)
  rw [list_eq_page, list_eq_page, hrows]
  exact Listing.page_map_of_unreadable (hs.rows scope) (PageRequest.resolve_eq_ok hq).1 hread hids
    hcreated hsame hfault

/-! ### The layout -/

/-- Whatever is written as the version of the layout, bringing the store up to date refuses it as
newer than what is supported, or gives the store back as it was. -/
theorem migrate_overwriteVersion (h : s.Reachable) (version : Int) :
    (s.overwriteVersion version).migrate =
      if supportedVersion < version ∧ version ≤ 2147483647 then
        .error (.unsupportedVersion version supportedVersion)
      else .ok s := by
  have hversion : s.version = 1 := h.version_eq
  have hrestored : { s with version := 1 } = s := by rw [← hversion]
  unfold overwriteVersion migrate supportedVersion
  dsimp only
  by_cases hrange : -2147483648 ≤ version ∧ version ≤ 2147483647
  · rw [if_pos hrange]
    rcases lt_trichotomy version 1 with hless | rfl | hmore
    · rw [if_neg (by omega), if_pos hless, if_neg (by omega), hrestored]
    · rw [if_neg (by decide), if_neg (by decide), if_neg (by decide), hrestored]
    · rw [if_pos hmore, if_pos ⟨hmore, hrange.2⟩]
  · rw [if_neg hrange, if_neg (by decide), if_pos (by decide), if_neg (by omega), hrestored]

end Store

end Colloquy
