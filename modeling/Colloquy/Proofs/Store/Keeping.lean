import Colloquy.Proofs.Paging.Drain
import Colloquy.Proofs.Store.Drain
import Colloquy.Proofs.Store.Legible
import Colloquy.Store.Keeping

/-!
# Records that come back as they were

What is written into a row comes back from it: ids, labels and numbers as they were, instants as
those of their counts, and JSON without doubles as it was, if it fits the levels that reading has
(`Scope.read_of_write`). So a record that is put into the store is found by its id. A drain returns
it once, and comes to an end if the other rows of the listing can be read (`Store.reads_back`): one
row that cannot be read stops every drain (`Store.exists_drainsTo_iff`,
`Store.drain_stops_at_deep_message`).
-/

namespace Colloquy

open Json (Reader)

/-! ### Cells -/

namespace Cell

/-- The cell of a plain object is read as that object. -/
lemma json?_ofObject {fields : JsonObject} (h : Json.Plain Json.maxLevels fields) (column : Nat) :
    (ofObject fields).json? column Reader.object = .ok fields := by
  have hread := Json.objectOfDocument?_objectToDocument h.fits
  rw [Json.rereadFields_eq_self h.floatFree] at hread
  exact json?_text (Json.toDocument_wellFormed (.object fields)) hread column

/-- The cell of plain parts is read as those parts. -/
lemma json?_ofParts {parts : List Part} (h : ∀ p ∈ parts, p.Plain (Json.maxLevels - 2))
    (column : Nat) : (ofParts parts).json? column Part.listReader = .ok parts := by
  have hread := Part.listReader_listToDocument fun p hp => (h p hp).fits
  have hsame : parts.map Part.reread = parts := by
    rw [List.map_congr_left fun p hp => (h p hp).reread_eq_self, List.map_id']
  rw [hsame] at hread
  exact json?_text (Part.listToDocument_wellFormed parts) hread column

/-- The cell of a written document is read only if the document can be read. -/
lemma read_of_json?_text {α : Type} {read : Reader α} {d : Json.Document} (hd : d.WellFormed)
    {v : α} {column : Nat} (h : (Cell.text d.compact).json? column read = .ok v) :
    read Json.maxLevels d = some v := by
  simp only [json?, convert?, text?, Json.ofString?_compact_bind hd] at h
  cases hread : read Json.maxLevels d with
  | none => simp [hread] at h
  | some w => simpa [hread] using h

/-- The cell of a time is read as the instant of its count. -/
lemma instant?_ofInstant {t : Instant} {c : Cell} (h : ofInstant t = .ok c) (column : Nat) :
    c.instant? column = .ok t.recounted := by
  obtain ⟨n, hn, rfl⟩ := ofInstant_eq_ok_iff.mp h
  rw [instant?_integer, Instant.recounted_of_nanos? hn]

/-- Times that have cells are the instants of their counts exactly if neither lies within a leap
second. -/
lemma recounted_eq_self_iff {t t' : Instant} {c c' : Cell} (h : ofInstant t = .ok c)
    (h' : ofInstant t' = .ok c') :
    (t.recounted = t ∧ t'.recounted = t') ↔ ∀ u ∈ [t, t'], u.nanos < nanosPerSecond := by
  obtain ⟨n, hn, -⟩ := ofInstant_eq_ok_iff.mp h
  obtain ⟨n', hn', -⟩ := ofInstant_eq_ok_iff.mp h'
  rw [Instant.recounted_eq_self_iff (by simp [hn]), Instant.recounted_eq_self_iff (by simp [hn'])]
  simp

end Cell

/-! ### Rows -/

/-- A space that was written is read with the times that its counts stand for. -/
lemma SpaceRow.read_of_toRow {a : Space} {r : SpaceRow} (h : a.toRow = .ok r)
    (hplain : Json.Plain Json.maxLevels a.configs) : r.read = .ok a.recounted := by
  obtain ⟨hid, hproject, hconfigs, hcreated, hupdated⟩ := Space.toRow_eq_ok_iff.mp h
  rw [read_eq_ok_iff, hid, hproject, hconfigs]
  exact ⟨Cell.uuid?_ofUuid _ _, Cell.uuid?_ofUuid _ _, Cell.json?_ofObject hplain _,
    Cell.instant?_ofInstant hcreated _, Cell.instant?_ofInstant hupdated _⟩

/-- A session that was written is read with the times that its counts stand for. -/
lemma SessionRow.read_of_toRow {a : Session} {r : SessionRow} (h : a.toRow = .ok r)
    (hplain : Json.Plain Json.maxLevels a.configs) : r.read = .ok a.recounted := by
  obtain ⟨hid, hproject, hspace, hconfigs, hcreated, hupdated⟩ := Session.toRow_eq_ok_iff.mp h
  rw [read_eq_ok_iff, hid, hproject, hspace, hconfigs]
  exact ⟨Cell.uuid?_ofUuid _ _, Cell.uuid?_ofUuid _ _, Cell.optionalUuid?_ofUuid? _ _,
    Cell.json?_ofObject hplain _, Cell.instant?_ofInstant hcreated _,
    Cell.instant?_ofInstant hupdated _⟩

/-- A message that was written is read with the times that its counts stand for. -/
lemma MessageRow.read_of_toRow {a : Message} {r : MessageRow} (h : a.toRow = .ok r)
    (hmetadata : Json.Plain Json.maxLevels a.metadata)
    (hparts : ∀ p ∈ a.parts, p.Plain (Json.maxLevels - 2)) : r.read = .ok a.recounted := by
  obtain ⟨hid, hsession, hparent, hrole, hmeta, hpart, htask, hstatus, hcreated, hupdated⟩ :=
    Message.toRow_eq_ok_iff.mp h
  rw [read_eq_ok_iff, hid, hsession, hparent, hrole, hmeta, hpart, htask, hstatus]
  exact ⟨Cell.uuid?_ofUuid _ _, Cell.uuid?_ofUuid _ _, Cell.optionalUuid?_ofUuid? _ _,
    Cell.label?_name a.role.parse_name _, Cell.json?_ofObject hmetadata _,
    Cell.json?_ofParts hparts _, Cell.optionalUuid?_ofUuid? _ _,
    Cell.label?_name a.processStatus.parse_name _, Cell.instant?_ofInstant hcreated _,
    Cell.instant?_ofInstant hupdated _⟩

/-- A task that was written is read with the times that its counts stand for. -/
lemma TaskRow.read_of_toRow {a : Task} {r : TaskRow} (h : a.toRow = .ok r)
    (hplain : Json.Plain Json.maxLevels a.data) : r.read = .ok a.recounted := by
  obtain ⟨hid, hsession, horder, hdata, hstatus, hplanning, hdigested, hcreated, hupdated⟩ :=
    Task.toRow_eq_ok_iff.mp h
  rw [read_eq_ok_iff, hid, hsession, horder, hdata, hstatus, hplanning, hdigested]
  exact ⟨Cell.uuid?_ofUuid _ _, Cell.uuid?_ofUuid _ _, rfl, Cell.json?_ofObject hplain _,
    Cell.label?_name a.status.parse_name _, Cell.bool?_ofBool _ _, Cell.bool?_ofBool _ _,
    Cell.instant?_ofInstant hcreated _, Cell.instant?_ofInstant hupdated _⟩

/-- A disk that was written is read with the times that its counts stand for. -/
lemma DiskRow.read_of_toRow {a : Disk} {r : DiskRow} (h : a.toRow = .ok r) :
    r.read = .ok a.recounted := by
  obtain ⟨hid, hproject, hcreated, hupdated⟩ := Disk.toRow_eq_ok_iff.mp h
  rw [read_eq_ok_iff, hid, hproject]
  exact ⟨Cell.uuid?_ofUuid _ _, Cell.uuid?_ofUuid _ _, Cell.instant?_ofInstant hcreated _,
    Cell.instant?_ofInstant hupdated _⟩

namespace Scope

/-- A record whose JSON holds no doubles and, as it is stored, nests no more than reading allows.
The metadata of a part lies in the part, and the part in the array of the parts. -/
def Plain : (scope : Scope) → scope.Record → Prop
  | .spaces _, (a : Space) => Json.Plain Json.maxLevels a.configs
  | .sessions _ _, (a : Session) => Json.Plain Json.maxLevels a.configs
  | .messages _, (a : Message) =>
    Json.Plain Json.maxLevels a.metadata ∧ ∀ p ∈ a.parts, p.Plain (Json.maxLevels - 2)
  | .tasks _, (a : Task) => Json.Plain Json.maxLevels a.data
  | .disks _, _ => True

/-- Recounting the times of a record keeps its id. -/
lemma id_recounted (scope : Scope) (a : scope.Record) :
    (sortKey (scope.recounted a)).id = (sortKey a).id := by
  cases scope <;> rfl

/-- Recounting the times of a record keeps it in its scope. -/
lemma covers_recounted (scope : Scope) (a : scope.Record) :
    scope.covers (scope.recounted a) = scope.covers a := by
  cases scope <;> rfl

/-- A record comes back with its times exactly if none of them lies within a leap second. -/
lemma recounted_eq_self_iff {scope : Scope} {a : scope.Record} {r : scope.TableRow}
    (h : StoredRow.write a = .ok r) :
    scope.recounted a = a ↔ ∀ t ∈ scope.times a, t.nanos < nanosPerSecond := by
  cases scope with
  | spaces =>
    obtain ⟨-, -, -, hcreated, hupdated⟩ := Space.toRow_eq_ok_iff.mp h
    exact Space.mapTimes_eq_self_iff.trans (Cell.recounted_eq_self_iff hcreated hupdated)
  | sessions =>
    obtain ⟨-, -, -, -, hcreated, hupdated⟩ := Session.toRow_eq_ok_iff.mp h
    exact Session.mapTimes_eq_self_iff.trans (Cell.recounted_eq_self_iff hcreated hupdated)
  | messages =>
    obtain ⟨-, -, -, -, -, -, -, -, hcreated, hupdated⟩ := Message.toRow_eq_ok_iff.mp h
    exact Message.mapTimes_eq_self_iff.trans (Cell.recounted_eq_self_iff hcreated hupdated)
  | tasks =>
    obtain ⟨-, -, -, -, -, -, -, hcreated, hupdated⟩ := Task.toRow_eq_ok_iff.mp h
    exact Task.mapTimes_eq_self_iff.trans (Cell.recounted_eq_self_iff hcreated hupdated)
  | disks =>
    obtain ⟨-, -, hcreated, hupdated⟩ := Disk.toRow_eq_ok_iff.mp h
    exact Disk.mapTimes_eq_self_iff.trans (Cell.recounted_eq_self_iff hcreated hupdated)

/-- A row is read as the record that was written into it. -/
lemma read_of_write {scope : Scope} {a : scope.Record} {r : scope.TableRow}
    (h : StoredRow.write a = .ok r) (hplain : scope.Plain a) :
    Row.read r = .ok (scope.recounted a) := by
  cases scope with
  | spaces => exact SpaceRow.read_of_toRow h hplain
  | sessions => exact SessionRow.read_of_toRow h hplain
  | messages => exact MessageRow.read_of_toRow h hplain.1 hplain.2
  | tasks => exact TaskRow.read_of_toRow h hplain
  | disks => exact DiskRow.read_of_toRow h

end Scope

namespace Store

open Cursor (StartsAt)

variable {s s' : Store} {scope : Scope} {a kept : scope.Record}

/-! ### A record that is put into the store -/

/-- The parent of a message touches neither its position and its times, nor where it belongs, nor
its JSON. -/
lemma of_chained (h : s.chained scope a = .ok kept) :
    sortKey kept = sortKey a ∧ scope.times kept = scope.times a ∧
      scope.covers kept = scope.covers a ∧ (scope.Plain a → scope.Plain kept) := by
  cases scope with
  | spaces =>
    obtain rfl := Except.ok.inj h
    exact ⟨rfl, rfl, rfl, id⟩
  | sessions =>
    obtain rfl := Except.ok.inj h
    exact ⟨rfl, rfl, rfl, id⟩
  | messages =>
    obtain ⟨parentId, -, rfl⟩ := map_eq_ok_iff.mp h
    exact ⟨rfl, rfl, rfl, id⟩
  | tasks =>
    obtain rfl := Except.ok.inj h
    exact ⟨rfl, rfl, rfl, id⟩
  | disks =>
    obtain rfl := Except.ok.inj h
    exact ⟨rfl, rfl, rfl, id⟩

/-- The row of a record is added at the end of its table. -/
lemma exists_row_of_insertion (h : s.perform (scope.insertion a) = .ok s') :
    ∃ kept r, s.chained scope a = .ok kept ∧ StoredRow.write kept = .ok r ∧
      s'.table scope = s.table scope ++ [r] := by
  cases scope with
  | spaces =>
    obtain ⟨r, hr, -, rfl⟩ := createSpace_eq_ok_iff.mp h
    exact ⟨a, r, rfl, hr, rfl⟩
  | sessions =>
    obtain ⟨r, hr, -, -, rfl⟩ := createSession_eq_ok_iff.mp h
    exact ⟨a, r, rfl, hr, rfl⟩
  | messages =>
    obtain ⟨⟨_, kept⟩, hinsert, rfl⟩ := map_eq_ok_iff.mp h
    obtain ⟨parentId, r, hparent, rfl, hr, -, -, -, -, rfl⟩ := insertMessage_eq_ok_iff.mp hinsert
    exact ⟨_, r, map_eq_ok_iff.mpr ⟨parentId, hparent, rfl⟩, hr, rfl⟩
  | tasks =>
    obtain ⟨r, hr, -, -, -, rfl⟩ := insertTask_eq_ok_iff.mp h
    exact ⟨a, r, rfl, hr, rfl⟩
  | disks =>
    obtain ⟨r, hr, -, rfl⟩ := createDisk_eq_ok_iff.mp h
    exact ⟨a, r, rfl, hr, rfl⟩

/-- An operation that is carried out leads to the next store of a run. -/
lemma perform_eq_ok_run {op : Operation} (h : (s.perform op).isOk = true) :
    s.perform op = .ok (s.run [op]) := by
  rw [run, List.foldl_cons, List.foldl_nil, step]
  cases hop : s.perform op with
  | error e => simp [hop, Except.isOk, Except.toBool] at h
  | ok s' => rfl

/-- A record is looked up in the table of its scope. -/
lemma lookup_eq_find? (s : Store) (scope : Scope) (id : Uuid) :
    s.lookup scope id = Listing.find? id (s.table scope) := by
  cases scope <;> rfl

/-! ### A drain of rows that can be read -/

/-- The page of records that rows are read as is the page of the rows. -/
lemma pageOf_eq_ok_of_reads (hs : s.WellFormed) {records : List scope.Record}
    (hrecords : Listing.Reads (s.rows scope) records) {limits : PagingLimits}
    {request : PageRequest} {page : Page scope.Record}
    (hpage : request.pageOf limits records = .ok page) :
    s.pageOf scope limits request = .ok page := by
  obtain ⟨q, hq, hpage⟩ := bind_eq_ok_iff.mp hpage
  obtain ⟨hcounted, -⟩ := PageRequest.resolve_eq_ok hq
  obtain ⟨page', hpage', hlist⟩ :=
    Listing.page_eq_assemble_select hrecords (hs.rows scope).written hcounted
  obtain rfl := Except.ok.inj (hpage.symm.trans hpage')
  exact bind_eq_ok_iff.mpr ⟨q, mapError_eq_ok_iff.mpr hq, (list_eq_page s scope q).trans hlist⟩

/-- The records of a scope have different ids. -/
lemma nodup_ids_of_reads (hs : s.WellFormed) {records : List scope.Record}
    (hrecords : Listing.Reads (s.rows scope) records) :
    ((records.map sortKey).map SortKey.id).Nodup := by
  rw [hrecords.map_sortKey (hs.rows scope).written, ← hs.positions_eq]
  exact hs.nodup_positions scope

/-- If the rows of a scope are read as records, its listing is drained without an error, in every
order and with every choice of page sizes, and returns these records in that order. -/
lemma exists_drainsTo_of_reads (hs : s.WellFormed) {records : List scope.Record}
    (hrecords : Listing.Reads (s.rows scope) records) (limits : PagingLimits)
    (timeDesc : Option Bool) :
    ∃ ordered : List scope.Record, ordered.Perm records ∧
      (ordered.Pairwise fun a b =>
        (SortOrder.ofTimeDesc (timeDesc.getD true)).precedes (sortKey a) (sortKey b)) ∧
      ∀ {limit : Nat → Option Nat}, (∀ i, limits.Accepts (limit i)) →
        ∃ pages, s.DrainsTo scope limits timeDesc limit pages ∧
          pages.flatMap Page.items = ordered := by
  have hsorted := KeysetQuery.pairwise_sorted_records ((nodup_ids_of_reads hs hrecords).of_map _)
  have hperm : (KeysetQuery.sorted records).Perm records := List.mergeSort_perm _ _
  refine ⟨_, (Page.directed_perm _ _).trans hperm, Page.pairwise_directed timeDesc hsorted, ?_⟩
  intro limit hlimit
  obtain ⟨pages, hwalk, hsplits⟩ := Page.exists_walk timeDesc hlimit hperm hsorted
    (hrecords.counted (hs.rows scope).written)
  exact ⟨pages, hwalk.mono fun _ _ _ => pageOf_eq_ok_of_reads hs hrecords, hsplits.items⟩

/-- If all rows of a scope can be read, its listing is drained without an error, in every order and
with every choice of page sizes, and returns the record of each row once. -/
lemma exists_drainsTo (hs : s.WellFormed) (hread : s.Readable scope) {limits : PagingLimits}
    {limit : Nat → Option Nat} (hlimit : ∀ i, limits.Accepts (limit i)) (timeDesc : Option Bool) :
    ∃ pages, s.DrainsTo scope limits timeDesc limit pages ∧
      ∀ r ∈ s.rows scope, ∀ a, Row.read r = .ok a →
        (pages.flatMap Page.items).filter (fun b => (sortKey b).id == (sortKey a).id) = [a] := by
  obtain ⟨records, hrecords⟩ := Listing.exists_reads hread
  obtain ⟨ordered, hordered, -, hdrains⟩ := exists_drainsTo_of_reads hs hrecords limits timeDesc
  obtain ⟨pages, hdrain, rfl⟩ := hdrains hlimit
  refine ⟨pages, hdrain, ?_⟩
  intro r hr a ha
  obtain ⟨b, hb, hread⟩ := hrecords.exists_record hr
  obtain rfl := Except.ok.inj (ha.symm.trans hread)
  refine Drain.filter_eq_singleton (f := SortKey.id ∘ sortKey) ?_ (hordered.mem_iff.mpr hb)
    (beq_self_eq_true _) fun c _ hc => eq_of_beq hc
  rw [← List.map_map]
  exact ((hordered.map sortKey).map SortKey.id).nodup_iff.mpr (nodup_ids_of_reads hs hrecords)

/-- A row that a page has to hold, or to leave to the pages after it, can be read if it holds it. -/
lemma exists_read_of_pageOf (hs : s.WellFormed) {limits : PagingLimits} {request : PageRequest}
    {page : Page scope.Record} (hpage : s.pageOf scope limits request = .ok page)
    {start : Option SortKey} (hstart : StartsAt request.cursor start) {r : scope.TableRow}
    (hr : r ∈ s.rows scope)
    (hahead : (SortOrder.ofTimeDesc (request.timeDesc.getD true)).Ahead start (Row.key r)) :
    (∃ b, Row.read r = .ok b) ∨ ∃ last, StartsAt page.nextCursor (some last) ∧
      (SortOrder.ofTimeDesc (request.timeDesc.getD true)).precedes last (Row.key r) := by
  have hrows := hs.rows scope
  obtain ⟨q, hq, hlist⟩ := bind_eq_ok_iff.mp hpage
  have hq := mapError_eq_ok_iff.mp hq
  obtain ⟨hcounted, -⟩ := PageRequest.resolve_eq_ok hq
  have hanswer : s.Answers (.ofTimeDesc (request.timeDesc.getD true)) request.cursor page :=
    ⟨request, limits, q, rfl, hq, PageRequest.order_of_resolve hq, hlist⟩
  obtain ⟨keys, hcut, hascends, hmem⟩ := hanswer.exists_cutFrom hs hstart
  have hkey : Row.key r ∈ keys := by
    refine (hmem _).mpr ⟨?_, hahead⟩
    rw [hs.positions_eq]
    exact List.mem_map_of_mem hr
  have hheld : Row.key r ∈ page.items.map sortKey → ∃ b, Row.read r = .ok b := by
    intro hheld
    obtain ⟨b, hb, hsame⟩ := List.mem_map.mp hheld
    rw [list_eq_page] at hlist
    obtain ⟨r', hr', hread⟩ := Listing.exists_row_of_mem_page hrows.written hcounted hlist hb
    have hkey' := (hrows.written r' hr').isAt_key
    rw [hkey'.sortKey_eq hread] at hsame
    have hid : Row.id r' = Row.id r := by
      rw [hkey'.1, (hrows.written r hr).isAt_key.1, hsame]
    obtain rfl := hrows.eq_of_id_eq hr' hr hid
    exact ⟨b, hread⟩
  obtain ⟨rest, rfl, hlast⟩ := hcut.begins
  cases hmore : page.hasMore with
  | false =>
    rw [hlast hmore, List.append_nil] at hkey
    exact .inl (hheld hkey)
  | true =>
    obtain ⟨last, -, hnext, -, hleft⟩ := exists_last_of_cutFrom hcut hascends hmore
    rcases hleft _ hkey with hkey | hbeyond
    · exact .inl (hheld hkey)
    · exact .inr ⟨last, hnext, hbeyond⟩

/-- If a scope is drained to the end, every row that lies ahead can be read. -/
lemma exists_read_of_walk (hs : s.WellFormed) {limits : PagingLimits} {limit : Nat → Option Nat}
    {timeDesc : Option Bool} {i : Nat} {cursor : Option String} {pages : List (Page scope.Record)}
    (h : Page.Walk (fun i cursor => s.pageOf scope limits ⟨limit i, cursor, timeDesc⟩)
      i cursor pages) {start : Option SortKey} (hstart : StartsAt cursor start) :
    ∀ r ∈ s.rows scope, (SortOrder.ofTimeDesc (timeDesc.getD true)).Ahead start (Row.key r) →
      ∃ b, Row.read r = .ok b := by
  induction h generalizing start with
  | last hpage hlast =>
    intro r hr hahead
    rcases exists_read_of_pageOf hs hpage hstart hr hahead with hread | ⟨last, hnext, -⟩
    · exact hread
    · rw [hlast] at hnext
      simp [StartsAt] at hnext
  | next hpage hnext _ ih =>
    intro r hr hahead
    rcases exists_read_of_pageOf hs hpage hstart hr hahead with hread | ⟨last, hstart, hbeyond⟩
    · exact hread
    · rw [hnext] at hstart
      refine ih hstart r hr ?_
      rintro position ⟨⟩
      exact hbeyond

/-- A scope is drained to the end exactly if all its rows can be read, whatever the order and the
page sizes. -/
theorem exists_drainsTo_iff (hs : s.WellFormed) {limits : PagingLimits}
    {limit : Nat → Option Nat} (hlimit : ∀ i, limits.Accepts (limit i)) (timeDesc : Option Bool) :
    (∃ pages, s.DrainsTo scope limits timeDesc limit pages) ↔ s.Readable scope := by
  constructor
  · rintro ⟨pages, hpages⟩
    intro r hr
    have hstart : StartsAt none none := rfl
    refine exists_read_of_walk hs hpages hstart r hr ?_
    intro position hposition
    simp at hposition
  · intro hread
    obtain ⟨pages, hpages, -⟩ := exists_drainsTo hs hread hlimit timeDesc
    exact ⟨pages, hpages⟩

/-- After a row has been added that can be read, every drain of the scope returns its record once,
and comes to an end if the other rows can be read. -/
lemma drainsTo_of_append (hs' : s'.WellFormed) {r : scope.TableRow}
    (hrows : s'.rows scope = s.rows scope ++ [r]) (hread : Row.read r = .ok a)
    {limits : PagingLimits} {limit : Nat → Option Nat} (hlimit : ∀ i, limits.Accepts (limit i))
    (timeDesc : Option Bool) :
    ((∃ pages, s'.DrainsTo scope limits timeDesc limit pages) ↔ s.Readable scope) ∧
      ∀ pages, s'.DrainsTo scope limits timeDesc limit pages →
        (pages.flatMap Page.items).filter (fun b => (sortKey b).id == (sortKey a).id) = [a] := by
  have hreadable : s'.Readable scope ↔ s.Readable scope := by
    unfold Readable
    rw [hrows]
    constructor
    · intro hall r' hr'
      exact hall r' (List.mem_append_left _ hr')
    · intro hothers r' hr'
      rcases List.mem_append.mp hr' with hold | hnew
      · exact hothers r' hold
      · obtain rfl := List.mem_singleton.mp hnew
        exact ⟨a, hread⟩
  refine ⟨(exists_drainsTo_iff hs' hlimit timeDesc).trans hreadable, ?_⟩
  intro pages hpages
  have hall := (exists_drainsTo_iff hs' hlimit timeDesc).mp ⟨pages, hpages⟩
  obtain ⟨pages', hpages', honce⟩ := exists_drainsTo hs' hall hlimit timeDesc
  obtain rfl := hpages.unique hpages'
  refine honce r ?_ a hread
  rw [hrows]
  exact List.mem_append_right _ (List.mem_singleton_self r)

/-! ### Records that come back -/

/-- A record that was put into the store is found by its id. A drain of its listing ends if the
other rows of the listing can be read, and returns it once. -/
lemma reads_back_insertion (hs : s.Reachable) (hplain : scope.Plain a)
    (hop : s.perform (scope.insertion a) = .ok s') :
    ∃ kept, s.chained scope a = .ok kept ∧
      s'.lookup scope (sortKey a).id = .ok (some (scope.recounted kept)) ∧
      (scope.recounted kept = kept ↔ ∀ t ∈ scope.times a, t.nanos < nanosPerSecond) ∧
      (scope.covers a → ∀ (limits : PagingLimits) (timeDesc : Option Bool)
        (limit : Nat → Option Nat), (∀ i, limits.Accepts (limit i)) →
          ((∃ pages, s'.DrainsTo scope limits timeDesc limit pages) ↔ s.Readable scope) ∧
          ∀ pages, s'.DrainsTo scope limits timeDesc limit pages →
            (pages.flatMap Page.items).filter (fun b => (sortKey b).id == (sortKey a).id) =
              [scope.recounted kept]) := by
  obtain ⟨kept, r, hkept, hr, htable⟩ := exists_row_of_insertion hop
  obtain ⟨hkey, htimes, hcovers, hplain'⟩ := of_chained hkept
  have hread := Scope.read_of_write hr (hplain' hplain)
  have hs' := (hs.perform hop).wellFormed
  refine ⟨kept, hkept, ?_, ?_, ?_⟩
  · rw [lookup_eq_find?, (hs'.table scope).find?_eq_ok_some_iff, ← hkey, htable]
    exact ⟨r, List.mem_append_right _ (List.mem_singleton_self r), (StoredRow.cells_of_write hr).1,
      hread⟩
  · rw [← htimes]
    exact Scope.recounted_eq_self_iff hr
  · intro hcovered limits timeDesc limit hlimit
    have hselects : scope.selects r := by
      rw [Scope.selects_eq_covers ⟨kept, hr⟩ hread, Scope.covers_recounted, hcovers]
      exact hcovered
    have hrows : s'.rows scope = s.rows scope ++ [r] := by
      rw [rows, htable, List.filter_append, List.filter_singleton, hselects]
      rfl
    rw [← hkey, ← Scope.id_recounted]
    exact drainsTo_of_append hs' hrows hread hlimit timeDesc

/-- A changed row stands in the changed table. -/
lemma mem_updateWhere {ρ α : Type} [Row ρ α] {rows : List ρ} {id : Uuid} {change : ρ → ρ} {r : ρ}
    (hr : r ∈ rows) (hid : Row.id r = .ofUuid id) : change r ∈ updateWhere id change rows :=
  List.mem_map.mpr ⟨r, hr, if_pos hid⟩

/-- New configurations of a space come back, and the rest of the space as it was. -/
lemma reads_back_spaceConfigs (hs : s.Reachable) {now : Instant} {id : Uuid} {configs : JsonObject}
    (hplain : Json.Plain Json.maxLevels configs)
    (hop : s.perform (.updateSpaceConfigs now id configs) = .ok s') :
    ∃ before : Space, before.id = id ∧ (∃ r ∈ s.spaces, before.toRow = .ok r) ∧
      s'.space? id = .ok (some { before.recounted with configs, updatedAt := now.recounted }) ∧
      ∀ found, s.space? id = .ok (some found) →
        s'.space? id = .ok (some { found with configs, updatedAt := now.recounted }) := by
  have hs' := (hs.perform hop).wellFormed
  obtain ⟨updatedAt, hnow, hfound, rfl⟩ := updateSpaceConfigs_eq_ok_iff.mp hop
  obtain ⟨r, hr, hid⟩ := hasId_eq_true_iff.mp hfound
  obtain ⟨before, hbefore⟩ := hs.wellFormed.spaces.written r hr
  obtain ⟨hrow, hproject, -, hcreated, -⟩ := Space.toRow_eq_ok_iff.mp hbefore
  refine ⟨before, Cell.ofUuid_injective (hrow.symm.trans hid), ⟨r, hr, hbefore⟩, ?_, ?_⟩
  · have hnew : ({ before with configs, updatedAt := now } : Space).toRow =
        .ok { r with configs := .ofObject configs, updatedAt } :=
      Space.toRow_eq_ok_iff.mpr ⟨hrow, hproject, rfl, hcreated, hnow⟩
    refine hs'.spaces.find?_eq_ok_some_iff.mpr ⟨_, mem_updateWhere hr hid, hid, ?_⟩
    exact SpaceRow.read_of_toRow hnew hplain
  · intro found hfound
    obtain ⟨r', hr', hid', hread⟩ := hs.wellFormed.spaces.find?_eq_ok_some_iff.mp hfound
    refine hs'.spaces.find?_eq_ok_some_iff.mpr ⟨_, mem_updateWhere hr' hid', hid', ?_⟩
    obtain ⟨hreadId, hreadProject, -, hreadCreated, -⟩ := SpaceRow.read_eq_ok_iff.mp hread
    exact SpaceRow.read_eq_ok_iff.mpr ⟨hreadId, hreadProject, Cell.json?_ofObject hplain _,
      hreadCreated, Cell.instant?_ofInstant hnow _⟩

/-- New configurations of a session come back, and the rest of the session as it was. -/
lemma reads_back_sessionConfigs (hs : s.Reachable) {now : Instant} {id : Uuid}
    {configs : JsonObject} (hplain : Json.Plain Json.maxLevels configs)
    (hop : s.perform (.updateSessionConfigs now id configs) = .ok s') :
    ∃ before : Session, before.id = id ∧ (∃ r ∈ s.sessions, before.toRow = .ok r) ∧
      s'.session? id = .ok (some { before.recounted with configs, updatedAt := now.recounted }) ∧
      ∀ found, s.session? id = .ok (some found) →
        s'.session? id = .ok (some { found with configs, updatedAt := now.recounted }) := by
  have hs' := (hs.perform hop).wellFormed
  obtain ⟨updatedAt, hnow, hfound, rfl⟩ := updateSessionConfigs_eq_ok_iff.mp hop
  obtain ⟨r, hr, hid⟩ := hasId_eq_true_iff.mp hfound
  obtain ⟨before, hbefore⟩ := hs.wellFormed.sessions.written r hr
  obtain ⟨hrow, hproject, hspace, -, hcreated, -⟩ := Session.toRow_eq_ok_iff.mp hbefore
  refine ⟨before, Cell.ofUuid_injective (hrow.symm.trans hid), ⟨r, hr, hbefore⟩, ?_, ?_⟩
  · have hnew : ({ before with configs, updatedAt := now } : Session).toRow =
        .ok { r with configs := .ofObject configs, updatedAt } :=
      Session.toRow_eq_ok_iff.mpr ⟨hrow, hproject, hspace, rfl, hcreated, hnow⟩
    refine hs'.sessions.find?_eq_ok_some_iff.mpr ⟨_, mem_updateWhere hr hid, hid, ?_⟩
    exact SessionRow.read_of_toRow hnew hplain
  · intro found hfound
    obtain ⟨r', hr', hid', hread⟩ := hs.wellFormed.sessions.find?_eq_ok_some_iff.mp hfound
    refine hs'.sessions.find?_eq_ok_some_iff.mpr ⟨_, mem_updateWhere hr' hid', hid', ?_⟩
    obtain ⟨hreadId, hreadProject, hreadSpace, -, hreadCreated, -⟩ :=
      SessionRow.read_eq_ok_iff.mp hread
    exact SessionRow.read_eq_ok_iff.mpr ⟨hreadId, hreadProject, hreadSpace,
      Cell.json?_ofObject hplain _, hreadCreated, Cell.instant?_ofInstant hnow _⟩

/-- In every store that operations lead to, a record without doubles that nests no more than reading
allows comes back after it has been put into the store: as it was, but for the parent of a message,
which the store chooses, and times within a leap second. It is found by its id, and it is returned
once by every drain of its listing, which comes to an end if the other rows of the listing can be
read. New configurations come back in the same way, and nothing else of their row changes but its
last time. -/
theorem reads_back (hs : s.Reachable) :
    (∀ (scope : Scope) (a : scope.Record) (s' : Store), scope.Plain a →
      s.perform (scope.insertion a) = .ok s' →
        ∃ kept, s.chained scope a = .ok kept ∧
          s'.lookup scope (sortKey a).id = .ok (some (scope.recounted kept)) ∧
          (scope.recounted kept = kept ↔ ∀ t ∈ scope.times a, t.nanos < nanosPerSecond) ∧
          (scope.covers a → ∀ (limits : PagingLimits) (timeDesc : Option Bool)
            (limit : Nat → Option Nat), (∀ i, limits.Accepts (limit i)) →
              ((∃ pages, s'.DrainsTo scope limits timeDesc limit pages) ↔ s.Readable scope) ∧
              ∀ pages, s'.DrainsTo scope limits timeDesc limit pages →
                (pages.flatMap Page.items).filter (fun b => (sortKey b).id == (sortKey a).id) =
                  [scope.recounted kept])) ∧
    (∀ (now : Instant) (id : Uuid) (configs : JsonObject) (s' : Store),
      Json.Plain Json.maxLevels configs → s.perform (.updateSpaceConfigs now id configs) = .ok s' →
        ∃ before : Space, before.id = id ∧ (∃ r ∈ s.spaces, before.toRow = .ok r) ∧
          s'.space? id =
            .ok (some { before.recounted with configs, updatedAt := now.recounted }) ∧
          ∀ found, s.space? id = .ok (some found) →
            s'.space? id = .ok (some { found with configs, updatedAt := now.recounted })) ∧
    ∀ (now : Instant) (id : Uuid) (configs : JsonObject) (s' : Store),
      Json.Plain Json.maxLevels configs →
        s.perform (.updateSessionConfigs now id configs) = .ok s' →
          ∃ before : Session, before.id = id ∧ (∃ r ∈ s.sessions, before.toRow = .ok r) ∧
            s'.session? id =
              .ok (some { before.recounted with configs, updatedAt := now.recounted }) ∧
            ∀ found, s.session? id = .ok (some found) →
              s'.session? id = .ok (some { found with configs, updatedAt := now.recounted }) := by
  refine ⟨?_, ?_, ?_⟩
  · intro scope a s' hplain hop
    exact reads_back_insertion hs hplain hop
  · intro now id configs s' hplain hop
    exact reads_back_spaceConfigs hs hplain hop
  · intro now id configs s' hplain hop
    exact reads_back_sessionConfigs hs hplain hop

/-- A message of a leap second comes back in the second after it. -/
theorem reads_back_leap_second :
    let leap : Instant := ⟨59, nanosPerSecond, by decide, by decide⟩
    let next : Instant := .ofNanos ⟨60000000000, by decide⟩
    let message : Message :=
      .new (.ofNat 3) leap (.ofNat 1) .user [.ofText "hello"] [("a", .int 1)]
    let s := empty.run [.createSession (.new (.ofNat 1) next (.ofNat 7) none [])]
    let s' := s.run [.insertMessage message]
    let back : Message := { message with createdAt := next, updatedAt := next }
    s'.message? (.ofNat 3) = .ok (some back) ∧
      ∃ pages, s'.DrainsTo (.messages (.ofNat 1)) {} none (fun _ => some 1) pages ∧
        (pages.flatMap Page.items).filter (fun m => (sortKey m).id == .ofNat 3) = [back] := by
  intro leap next message s s' back
  have hs : s.Reachable := ⟨_, rfl⟩
  have hop : s.perform (.insertMessage message) = .ok s' := perform_eq_ok_run (by decide +kernel)
  have hplain : Scope.Plain (.messages (.ofNat 1)) message := by
    refine ⟨⟨⟨⟨⟨by decide, by decide⟩, trivial⟩, List.pairwise_singleton _ _⟩, trivial, trivial⟩,
      ?_⟩
    intro p hp
    obtain rfl := List.mem_singleton.mp hp
    exact Part.plain_ofText _ _
  have hparent : s.lastMessageId? (.ofNat 1) = .ok none := by decide +kernel
  have hnone : s.rows (.messages (.ofNat 1)) = [] := by decide +kernel
  have hrecounted : Scope.recounted (.messages (.ofNat 1)) message = back := by
    have htime : leap.recounted = next := Instant.recounted_of_nanos? (by decide)
    exact congrArg (fun t => { message with createdAt := t, updatedAt := t }) htime
  -- what the store holds is not to be computed once more
  clear_value s s'
  obtain ⟨hback, -⟩ := reads_back hs
  obtain ⟨kept, hkept, hlookup, -, hdrain⟩ :=
    hback (.messages (.ofNat 1)) message s' hplain hop
  obtain ⟨parentId, hparent', rfl⟩ := map_eq_ok_iff.mp hkept
  obtain rfl := Except.ok.inj (hparent.symm.trans hparent')
  rw [← hrecounted]
  obtain ⟨hends, honce⟩ := hdrain (by decide) {} none (fun _ => some 1) fun _ =>
    ⟨by decide, by decide⟩
  have hreadable : s.Readable (.messages (.ofNat 1)) := by
    intro r hr
    simp [hnone] at hr
  obtain ⟨pages, hpages⟩ := hends.mpr hreadable
  exact ⟨hlookup, pages, hpages, honce pages hpages⟩

/-- After a message has been put into the store whose parts cannot be read, its session cannot be
read. -/
lemma not_readable_of_parts {message : Message}
    (hparts : Part.listReader Json.maxLevels (Part.listToDocument message.parts) = none)
    (hop : s.perform (.insertMessage message) = .ok s') :
    ¬s'.Readable (.messages message.sessionId) := by
  obtain ⟨⟨_, kept⟩, hinsert, rfl⟩ := map_eq_ok_iff.mp hop
  obtain ⟨parentId, r, -, rfl, hr, -, -, -, -, rfl⟩ := insertMessage_eq_ok_iff.mp hinsert
  obtain ⟨-, hsession, -, -, -, hpartsCell, -⟩ := Message.toRow_eq_ok_iff.mp hr
  intro hreadable
  obtain ⟨m, hm⟩ := hreadable r (List.mem_filter.mpr
    ⟨List.mem_append_right _ (List.mem_singleton_self r), beq_iff_eq.mpr hsession⟩)
  obtain ⟨-, -, -, -, -, hread, -⟩ := MessageRow.read_eq_ok_iff.mp hm
  rw [hpartsCell] at hread
  have hread := Cell.read_of_json?_text (Part.listToDocument_wellFormed _) hread
  rw [hparts] at hread
  simp at hread

/-- A message whose parts cannot be read stops every drain of its session, although another message
was put into the store last. -/
lemma not_drainsTo_of_parts {deep last : Message} {s'' : Store} (hs : s.Reachable)
    (hparts : Part.listReader Json.maxLevels (Part.listToDocument deep.parts) = none)
    (hdeep : s.perform (.insertMessage deep) = .ok s')
    (hplain : Scope.Plain (.messages deep.sessionId) last)
    (hsession : last.sessionId = deep.sessionId)
    (hlast : s'.perform (.insertMessage last) = .ok s'') {limits : PagingLimits}
    {limit : Nat → Option Nat} (hlimit : ∀ i, limits.Accepts (limit i)) (timeDesc : Option Bool) :
    ¬∃ pages, s''.DrainsTo (.messages deep.sessionId) limits timeDesc limit pages := by
  intro hends
  have hinsert : s'.perform (Scope.insertion (.messages deep.sessionId) last) = .ok s'' := hlast
  obtain ⟨_, -, -, -, hdrain⟩ := reads_back_insertion (hs.perform hdeep) hplain hinsert
  have hreadable := (hdrain (beq_iff_eq.mpr hsession) limits timeDesc limit hlimit).1.mp hends
  exact not_readable_of_parts hparts hdeep hreadable

/-- The part of the first message nests 127 levels, as many as reading has, and one more in the
array of the parts: the second message is put into the store, and no drain of the session ends. -/
theorem drain_stops_at_deep_message :
    let time : Instant := .ofNanos ⟨0, by decide⟩
    let nested : Json := Nat.repeat (fun v => .array [v]) 124 (.array [])
    let message (id : Nat) (part : Part) : Message :=
      .new (.ofNat id) time (.ofNat 1) .user [part] []
    let deep := message 2 ((Part.ofText "x").withMeta [("a", nested)])
    let last := message 3 (.ofText "hello")
    let scope := Scope.messages (.ofNat 1)
    let started := empty.run [.createSession (.new (.ofNat 1) time (.ofNat 7) none [])]
    let s := started.run [.insertMessage deep]
    s.Reachable ∧ scope.Plain last ∧ scope.covers last ∧ ∃ s',
      s.perform (.insertMessage last) = .ok s' ∧
      ∀ (limits : PagingLimits) (timeDesc : Option Bool) (limit : Nat → Option Nat),
        (∀ i, limits.Accepts (limit i)) →
          ¬∃ pages, s'.DrainsTo scope limits timeDesc limit pages := by
  intro time nested message deep last scope started s
  have hstarted : started.Reachable := ⟨_, rfl⟩
  have hplain : scope.Plain last := by
    refine ⟨⟨⟨trivial, List.Pairwise.nil⟩, trivial⟩, ?_⟩
    intro p hp
    obtain rfl := List.mem_singleton.mp hp
    exact Part.plain_ofText _ _
  have hparts : Part.listReader Json.maxLevels (Part.listToDocument deep.parts) = none :=
    Option.isNone_iff_eq_none.mp (by decide +kernel)
  have hdeep : started.perform (.insertMessage deep) = .ok s :=
    perform_eq_ok_run (by decide +kernel)
  have hlast : s.perform (.insertMessage last) = .ok (s.run [.insertMessage last]) :=
    perform_eq_ok_run (by decide +kernel)
  refine ⟨hstarted.run _, hplain, by decide, _, hlast, ?_⟩
  -- what the stores hold is not to be computed once more
  clear_value s started
  intro limits timeDesc limit hlimit
  exact not_drainsTo_of_parts hstarted hparts hdeep hplain rfl hlast hlimit timeDesc

end Store

end Colloquy
