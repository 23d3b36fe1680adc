import Mathlib.Data.List.Nodup
import Colloquy.Proofs.Paging.Query
import Colloquy.Proofs.Store.Row

/-!
# A listing of rows is a query of records

`Listing.page` filters, sorts and cuts rows by their cells, and `KeysetQuery.select` does the same
to records by their positions. `Reads` is the correspondence between rows and the records that are
read from them; every step of the one keeps it when the same step of the other is taken, so the two
give the same page (`page_eq_assemble_select`).
-/

namespace Colloquy.Listing

open Std

variable {ρ α : Type} [Row ρ α]

/-! ### Reading many rows -/

/-- The rows are read as the records, one by one. -/
def Reads (rows : List ρ) (records : List α) : Prop :=
  rows.map Row.read = records.map .ok

/-- Rows are read one after another exactly if each of them can be read. -/
lemma readAll_eq_ok_iff {rows : List ρ} {records : List α} :
    readAll rows = .ok records ↔ Reads rows records := by
  unfold Reads
  induction rows generalizing records with
  | nil => simp [readAll, eq_comm]
  | cons r rest ih =>
    rw [readAll, List.map_cons]
    cases hr : Row.read r with
    | error fault => cases records <;> simp
    | ok a =>
      dsimp only
      cases hrest : readAll rest with
      | error e =>
        cases records with
        | nil => simp
        | cons b more => simp [← ih, hrest]
      | ok found =>
        cases records with
        | nil => simp
        | cons b more => simp [← ih, hrest]

/-- The first of the rows that cannot be read fails in this way. -/
def FirstUnread (rows : List ρ) (fault : ColumnFault) : Prop :=
  ∃ before r after, rows = before ++ r :: after ∧ (∀ r' ∈ before, ∃ a, Row.read r' = .ok a) ∧
    Row.read r = .error fault

/-- Reading rows stops at the first one that cannot be read. -/
lemma readAll_eq_error_iff {rows : List ρ} {e : StoreError} :
    readAll rows = .error e ↔ ∃ fault, FirstUnread rows fault ∧ e = .unreadable fault := by
  induction rows with
  | nil => simp [readAll, FirstUnread]
  | cons r rest ih =>
    rw [readAll]
    cases hr : Row.read r with
    | error fault =>
      constructor
      · rintro ⟨⟩
        exact ⟨fault, ⟨[], r, rest, rfl, by simp, hr⟩, rfl⟩
      · rintro ⟨fault', ⟨before, r', after, hsplit, hbefore, hr'⟩, rfl⟩
        rcases List.cons_eq_append_iff.mp hsplit with ⟨rfl, hrest⟩ | ⟨more, rfl, -⟩
        · obtain ⟨rfl, rfl⟩ := List.cons.inj hrest
          rw [Except.error.inj (hr.symm.trans hr')]
        · obtain ⟨a, ha⟩ := hbefore r List.mem_cons_self
          simp [hr] at ha
    | ok a =>
      have hrest : FirstUnread (r :: rest) = FirstUnread rest := by
        funext fault
        refine propext ⟨?_, ?_⟩
        · rintro ⟨before, r', after, hsplit, hbefore, hr'⟩
          rcases List.cons_eq_append_iff.mp hsplit with ⟨rfl, hrest⟩ | ⟨more, rfl, hrest⟩
          · obtain ⟨rfl, rfl⟩ := List.cons.inj hrest
            simp [hr] at hr'
          · exact ⟨more, r', after, hrest, fun b hb => hbefore b (List.mem_cons_of_mem _ hb), hr'⟩
        · rintro ⟨before, r', after, rfl, hbefore, hr'⟩
          exact ⟨r :: before, r', after, rfl, List.forall_mem_cons.mpr ⟨⟨a, hr⟩, hbefore⟩, hr'⟩
      rw [hrest, ← ih]
      cases hall : readAll rest <;> simp

/-- Rows that can be read one by one can be read together. -/
lemma exists_reads {rows : List ρ} (h : ∀ r ∈ rows, ∃ a, Row.read r = .ok a) :
    ∃ records, Reads rows records := by
  induction rows with
  | nil => exact ⟨[], rfl⟩
  | cons r rest ih =>
    obtain ⟨a, ha⟩ := h r List.mem_cons_self
    obtain ⟨records, hrecords⟩ := ih fun r hr => h r (List.mem_cons_of_mem _ hr)
    refine ⟨a :: records, ?_⟩
    unfold Reads at *
    rw [List.map_cons, List.map_cons, ha, hrecords]

/-- A record that was read comes from a row. -/
lemma Reads.exists_row {rows : List ρ} {records : List α} (h : Reads rows records) {a : α}
    (ha : a ∈ records) : ∃ r ∈ rows, Row.read r = .ok a := by
  have hmem : Except.ok a ∈ records.map (Except.ok : α → Except ColumnFault α) :=
    List.mem_map_of_mem ha
  rw [← show rows.map Row.read = _ from h] at hmem
  exact List.mem_map.mp hmem

/-- A row that was read gives a record. -/
lemma Reads.exists_record {rows : List ρ} {records : List α} (h : Reads rows records) {r : ρ}
    (hr : r ∈ rows) : ∃ a ∈ records, Row.read r = .ok a := by
  have hmem : Row.read r ∈ rows.map Row.read := List.mem_map_of_mem hr
  rw [show rows.map Row.read = _ from h] at hmem
  obtain ⟨a, ha, hread⟩ := List.mem_map.mp hmem
  exact ⟨a, ha, hread.symm⟩

/-- The first rows are read as the first records. -/
lemma Reads.take {rows : List ρ} {records : List α} (h : Reads rows records) (n : Nat) :
    Reads (rows.take n) (records.take n) := by
  unfold Reads at *
  rw [List.map_take, List.map_take, h]

/-- Rows in reverse are read as the records in reverse. -/
lemma Reads.reverse {rows : List ρ} {records : List α} (h : Reads rows records) :
    Reads rows.reverse records.reverse := by
  unfold Reads at *
  rw [List.map_reverse, List.map_reverse, h]

/-- Rows in the direction of a query are read as the records in that direction. -/
lemma Reads.oriented {rows : List ρ} {records : List α} (h : Reads rows records) (q : KeysetQuery) :
    Reads (q.oriented rows) (q.oriented records) := by
  unfold KeysetQuery.oriented
  split
  · exact h.reverse
  · exact h

/-- A condition on rows selects the rows of the records that a condition on records selects, if the
two agree. -/
lemma Reads.filter {rows : List ρ} {records : List α} (h : Reads rows records) {p : ρ → Bool}
    {p' : α → Bool} (hp : ∀ r ∈ rows, ∀ a, Row.read r = .ok a → p r = p' a) :
    Reads (rows.filter p) (records.filter p') := by
  unfold Reads at *
  induction rows generalizing records with
  | nil =>
    obtain rfl : records = [] := by simpa using h.symm
    rfl
  | cons r rest ih =>
    cases records with
    | nil => simp at h
    | cons a more =>
      obtain ⟨hr, hmore⟩ : Row.read r = .ok a ∧ rest.map Row.read = more.map .ok := by
        simpa using h
      have hrest := ih hmore fun r hr => hp r (List.mem_cons_of_mem _ hr)
      have hpr := hp r List.mem_cons_self a hr
      cases hpa : p' a <;> simp [hpr, hpa, hr, hrest]

/-- Changed rows are read as changed records, if each row is. -/
lemma Reads.map {rows : List ρ} {records : List α} (h : Reads rows records) {change : ρ → ρ}
    {change' : α → α} (hchange : ∀ r ∈ rows, ∀ a, Row.read r = .ok a →
      Row.read (change r) = .ok (change' a)) :
    Reads (rows.map change) (records.map change') := by
  unfold Reads at *
  induction rows generalizing records with
  | nil =>
    obtain rfl : records = [] := by simpa using h.symm
    rfl
  | cons r rest ih =>
    cases records with
    | nil => simp at h
    | cons a more =>
      obtain ⟨hr, hmore⟩ : Row.read r = .ok a ∧ rest.map Row.read = more.map .ok := by
        simpa using h
      have hrest := ih hmore fun r hr => hchange r (List.mem_cons_of_mem _ hr)
      have hfirst := hchange r List.mem_cons_self a hr
      simp only [List.map_cons, hfirst, hrest]

/-- A comparison of records as one of outcomes of reading, of which only successful ones count. -/
def compareRead (le : α → α → Bool) : Except ColumnFault α → Except ColumnFault α → Bool
  | .ok a, .ok a' => le a a'
  | _, _ => true

/-- Rows are sorted like the records, if they are compared like the records. -/
lemma Reads.mergeSort {rows : List ρ} {records : List α} (h : Reads rows records)
    {le : ρ → ρ → Bool} {le' : α → α → Bool}
    (hle : ∀ r ∈ rows, ∀ r' ∈ rows, ∀ a a', Row.read r = .ok a → Row.read r' = .ok a' →
      le r r' = le' a a') :
    Reads (rows.mergeSort le) (records.mergeSort le') := by
  have hrows : (rows.mergeSort le).map Row.read =
      (rows.map Row.read).mergeSort (compareRead le') := by
    refine List.map_mergeSort fun r hr r' hr' => ?_
    obtain ⟨a, -, ha⟩ := h.exists_record hr
    obtain ⟨a', -, ha'⟩ := h.exists_record hr'
    rw [ha, ha', hle r hr r' hr' a a' ha ha', compareRead]
  have hrecords : (records.mergeSort le').map (Except.ok : α → Except ColumnFault α) =
      (records.map .ok).mergeSort (compareRead le') := List.map_mergeSort fun a _ a' _ => rfl
  unfold Reads at *
  rw [hrows, hrecords, h]

/-! ### The page of a query -/

/-- The keyword of a query orders rows in its direction. -/
lemma ordered_keyword (q : KeysetQuery) (rows : List ρ) :
    ordered q.order.keyword rows = q.oriented (sorted rows) := by
  unfold ordered KeysetQuery.oriented
  cases q.order with
  | descending => exact if_pos rfl
  | ascending => exact if_neg (by decide)

/-- The page of rows that are stored in order. -/
lemma page_eq_ok_of_pairwise [Keyed α] {q : KeysetQuery} {rows : List ρ} {p : Page α}
    (later : List ρ) (records : List α) (hafter : after q rows = .ok later)
    (hsorted : later.Pairwise fun a b =>
      ((Cell.order (Row.createdAt a) (Row.createdAt b)).then
        (Cell.order (Row.id a) (Row.id b))).isLE)
    (hread : readAll ((q.oriented later).take q.fetchLimit) = .ok records)
    (hpage : q.assemble records = .ok p) : page q rows = .ok p := by
  have hsame : sorted later = later := List.mergeSort_of_pairwise hsorted
  simp only [page, hafter, ordered_keyword, hsame, hread, hpage]

/-- The rows after the position of a query are rows of the table. -/
lemma mem_of_mem_after {q : KeysetQuery} {rows later : List ρ}
    (h : after q rows = .ok later) {r : ρ} (hr : r ∈ later) : r ∈ rows := by
  unfold after at h
  split at h
  next => exact Except.ok.inj h ▸ hr
  next =>
    split at h
    next => exact List.mem_of_mem_filter (Except.ok.inj h ▸ hr)
    next => simp at h

/-- Rows are only refused for a position whose time has no count. -/
lemma eq_of_after_eq_error {q : KeysetQuery} {rows : List ρ} {e : StoreError}
    (h : after q rows = .error e) : e = .paging .timestampOutOfRange := by
  unfold after at h
  split at h
  next => simp at h
  next => split at h <;> simp_all

/-- A page that stops at a fault stops at a row that has it. -/
lemma exists_row_of_unreadable [Keyed α] {q : KeysetQuery} {rows : List ρ}
    {fault : ColumnFault} (h : page q rows = .error (.unreadable fault)) :
    ∃ r ∈ rows, Row.read r = .error fault := by
  unfold page at h
  split at h
  next e hafter =>
    rw [eq_of_after_eq_error hafter] at h
    simp at h
  next later hafter =>
    split at h
    next e hread =>
      obtain rfl := Except.error.inj h
      obtain ⟨fault', ⟨before, r, rest, hfetched, -, hfault⟩, hsame⟩ :=
        readAll_eq_error_iff.mp hread
      obtain rfl := StoreError.unreadable.inj hsame
      have hmem : r ∈ (ordered q.order.keyword later).take q.fetchLimit := by
        rw [hfetched]
        exact List.mem_append_right _ List.mem_cons_self
      rw [ordered_keyword] at hmem
      have hlater : r ∈ later :=
        List.mem_mergeSort.mp (KeysetQuery.mem_oriented.mp (List.mem_of_mem_take hmem))
      exact ⟨r, mem_of_mem_after hafter hlater, hfault⟩
    next => split at h <;> simp at h

/-- The rows that a query fetches. -/
def fetched (q : KeysetQuery) (rows : List ρ) : List ρ :=
  (q.oriented (sorted (rows.filter fun r => q.admits (Row.key r)))).take q.fetchLimit

/-- A row that is fetched is one of the rows. -/
lemma mem_of_mem_fetched {q : KeysetQuery} {rows : List ρ} {r : ρ} (h : r ∈ fetched q rows) :
    r ∈ rows :=
  List.mem_of_mem_filter
    (List.mem_mergeSort.mp (KeysetQuery.mem_oriented.mp (List.mem_of_mem_take h)))

variable [Keyed α] [StoredRow ρ α]

/-- The rows after a counted position are those whose positions a query admits. -/
lemma after_eq_ok {q : KeysetQuery} {rows : List ρ} (hrows : ∀ r ∈ rows, Row.Written r)
    (hq : ∀ key, q.after = some key → key.createdAt.Counted) :
    after q rows = .ok (rows.filter fun r => q.admits (Row.key r)) := by
  cases hafter : q.after with
  | none =>
    simp only [after, hafter, KeysetQuery.admits, List.filter_true]
  | some position =>
    obtain ⟨n, hn⟩ := hq position hafter
    have hposition : (⟨.ofNanos n, position.id⟩ : SortKey) = position := by rw [← hn]
    simp only [after, hafter, hn, Instant.nanos?_ofNanos, KeysetQuery.admits, Except.ok.injEq]
    refine List.filter_congr fun r hr => ?_
    rw [Row.isAfter_of_isAt (hrows r hr).isAt_key, hposition]
    rfl

/-- A page of written rows is assembled from the records of the rows that are fetched. -/
lemma page_eq_ok_iff {q : KeysetQuery} {rows : List ρ} (hrows : ∀ r ∈ rows, Row.Written r)
    (hq : ∀ key, q.after = some key → key.createdAt.Counted) {p : Page α} :
    page q rows = .ok p ↔
      ∃ records, Reads (fetched q rows) records ∧ q.assemble records = .ok p := by
  have hfetched : (q.oriented (sorted (rows.filter fun r => q.admits (Row.key r)))).take
      q.fetchLimit = fetched q rows := rfl
  simp only [page, after_eq_ok hrows hq, ordered_keyword, hfetched, ← readAll_eq_ok_iff]
  cases readAll (fetched q rows) with
  | error e => simp
  | ok records =>
    dsimp only
    cases hpage : q.assemble records with
    | error e => simp [hpage]
    | ok page => simp [hpage]

/-- Written rows are sorted like the records that are read from them. -/
lemma Reads.sorted {rows : List ρ} {records : List α} (h : Reads rows records)
    (hrows : ∀ r ∈ rows, Row.Written r) : Reads (sorted rows) (KeysetQuery.sorted records) := by
  refine h.mergeSort fun r hr r' hr' a a' ha ha' => ?_
  have hkey := (hrows r hr).isAt_key
  have hkey' := (hrows r' hr').isAt_key
  rw [Row.order_of_isAt hkey hkey', hkey.sortKey_eq ha, hkey'.sortKey_eq ha']

/-- The rows that a query fetches are the rows of the records that it selects. -/
lemma Reads.select {rows : List ρ} {records : List α} (h : Reads rows records)
    (hrows : ∀ r ∈ rows, Row.Written r) (q : KeysetQuery) :
    Reads (fetched q rows) (q.select records) := by
  have hlater : Reads (rows.filter fun r => q.admits (Row.key r))
      (records.filter fun a => q.admits (sortKey a)) :=
    h.filter fun r hr a ha => by rw [(hrows r hr).isAt_key.sortKey_eq ha]
  exact ((hlater.sorted fun r hr => hrows r (List.mem_of_mem_filter hr)).oriented q).take _

/-- What is read from written rows stands where they stand. -/
lemma Reads.map_sortKey {rows : List ρ} {records : List α} (h : Reads rows records)
    (hrows : ∀ r ∈ rows, Row.Written r) : records.map sortKey = rows.map Row.key := by
  induction rows generalizing records with
  | nil =>
    obtain rfl : records = [] := by simpa [Reads] using h.symm
    rfl
  | cons r rest ih =>
    cases records with
    | nil => simp [Reads] at h
    | cons a more =>
      obtain ⟨hr, hmore⟩ : Row.read r = .ok a ∧ Reads rest more := by simpa [Reads] using h
      rw [List.map_cons, List.map_cons, (hrows r List.mem_cons_self).isAt_key.sortKey_eq hr,
        ih hmore fun r' hr' => hrows r' (List.mem_cons_of_mem _ hr')]

/-- What is read from written rows has positions that cursors can name. -/
lemma Reads.counted {rows : List ρ} {records : List α} (h : Reads rows records)
    (hrows : ∀ r ∈ rows, Row.Written r) : ∀ a ∈ records, (sortKey a).createdAt.Counted := by
  intro a ha
  obtain ⟨r, hr, hread⟩ := h.exists_row ha
  obtain ⟨-, n, -, hn⟩ := (hrows r hr).isAt_key
  rw [(hrows r hr).isAt_key.sortKey_eq hread]
  exact ⟨n, hn⟩

/-- The page that is cut from written rows is the page of the records in them, and it is given. -/
lemma page_eq_assemble_select {q : KeysetQuery} {rows : List ρ} {records : List α}
    (h : Reads rows records) (hrows : ∀ r ∈ rows, Row.Written r)
    (hq : ∀ key, q.after = some key → key.createdAt.Counted) :
    ∃ p, q.assemble (q.select records) = .ok p ∧ page q rows = .ok p := by
  have hselect := h.select hrows q
  obtain ⟨p, hp⟩ := Page.exists_assemble q.pageSize
    (hselect.counted fun r hr => hrows r (mem_of_mem_fetched hr))
  exact ⟨p, hp, (page_eq_ok_iff hrows hq).mpr ⟨_, hselect, hp⟩⟩

/-- A page of written rows is refused exactly if one of the rows that are fetched cannot be read. -/
lemma page_eq_error_iff {q : KeysetQuery} {rows : List ρ} (hrows : ∀ r ∈ rows, Row.Written r)
    (hq : ∀ key, q.after = some key → key.createdAt.Counted) {e : StoreError} :
    page q rows = .error e ↔
      ∃ fault, FirstUnread (fetched q rows) fault ∧ e = .unreadable fault := by
  have hfetched : (q.oriented (sorted (rows.filter fun r => q.admits (Row.key r)))).take
      q.fetchLimit = fetched q rows := rfl
  rw [← readAll_eq_error_iff]
  simp only [page, after_eq_ok hrows hq, ordered_keyword, hfetched]
  cases hread : readAll (fetched q rows) with
  | error e => simp
  | ok records =>
    have hreads : Reads (fetched q rows) records := readAll_eq_ok_iff.mp hread
    obtain ⟨p, hp⟩ := Page.exists_assemble q.pageSize
      (hreads.counted fun r hr => hrows r (mem_of_mem_fetched hr))
    simp [KeysetQuery.assemble, hp]

/-- What a page holds was read from one of the rows. -/
lemma exists_row_of_mem_page {q : KeysetQuery} {rows : List ρ} {p : Page α}
    (hrows : ∀ r ∈ rows, Row.Written r) (hq : ∀ key, q.after = some key → key.createdAt.Counted)
    (h : page q rows = .ok p) {a : α} (ha : a ∈ p.items) : ∃ r ∈ rows, Row.read r = .ok a := by
  obtain ⟨records, hreads, hassemble⟩ := (page_eq_ok_iff hrows hq).mp h
  have hcounted := hreads.counted fun r hr => hrows r (mem_of_mem_fetched hr)
  obtain ⟨r, hr, hread⟩ := hreads.exists_row (Page.mem_of_mem_items hcounted hassemble ha)
  exact ⟨r, mem_of_mem_fetched hr, hread⟩

/-! ### The positions of a page -/

/-- Written rows are sorted by their positions. -/
lemma map_key_sorted {rows : List ρ} (hrows : ∀ r ∈ rows, Row.Written r) :
    (sorted rows).map Row.key = KeysetQuery.sorted (rows.map Row.key) := by
  refine List.map_mergeSort fun r hr r' hr' => ?_
  rw [Row.order_of_isAt (hrows r hr).isAt_key (hrows r' hr').isAt_key]
  rfl

/-- The page that is cut from written rows is cut from the positions that the query admits. -/
lemma cutFrom_of_page {q : KeysetQuery} {rows : List ρ} {p : Page α}
    (hrows : ∀ r ∈ rows, Row.Written r) (hq : ∀ key, q.after = some key → key.createdAt.Counted)
    (h : page q rows = .ok p) :
    p.CutFrom (q.oriented (KeysetQuery.sorted ((rows.map Row.key).filter q.admits))) := by
  obtain ⟨records, hreads, hassemble⟩ := (page_eq_ok_iff hrows hq).mp h
  have hwritten : ∀ r ∈ fetched q rows, Row.Written r := fun r hr => hrows r (mem_of_mem_fetched hr)
  have hlater : ∀ r ∈ rows.filter fun r => q.admits (Row.key r), Row.Written r := fun r hr =>
    hrows r (List.mem_of_mem_filter hr)
  refine Page.cutFrom_of_assemble ?_ (hreads.counted hwritten) hassemble
  calc records.map sortKey
      = (fetched q rows).map Row.key := hreads.map_sortKey hwritten
    _ = (q.oriented ((sorted (rows.filter fun r => q.admits (Row.key r))).map Row.key)).take
          q.fetchLimit := by rw [fetched, List.map_take, KeysetQuery.map_oriented]
    _ = (q.oriented (KeysetQuery.sorted ((rows.map Row.key).filter q.admits))).take
          q.fetchLimit := by rw [map_key_sorted hlater, List.filter_map]; rfl

end Colloquy.Listing
