import Mathlib.Logic.Basic
import Colloquy.Proofs.Paging.Order
import Colloquy.Proofs.Store.Column
import Colloquy.Store.Scope

/-!
# What written rows hold

A row that was written from a record holds the texts of its ids and the counts of its times, and
reading it gives these ids back and the instants of these counts. `StoredRow` says so once for the
five kinds of rows, as far as the order of a listing needs it.
-/

namespace Colloquy

/-! ### Cells -/

namespace Cell

/-- Different ids have different cells. -/
lemma ofUuid_injective {a b : Uuid} (h : ofUuid a = ofUuid b) : a = b :=
  Uuid.text_injective (Cell.text.inj h)

/-- Two cells of ids are the same exactly if the ids are. -/
@[simp] lemma ofUuid_inj {a b : Uuid} : ofUuid a = ofUuid b ↔ a = b :=
  ⟨ofUuid_injective, fun h => h ▸ rfl⟩

/-- The cell of an id is not empty. -/
@[simp] lemma ofUuid_ne_null (id : Uuid) : ofUuid id ≠ .null := Cell.noConfusion

/-- The cell of a reference that is there is that of its id. -/
@[simp] lemma ofUuid?_some (id : Uuid) : ofUuid? (some id) = ofUuid id := rfl

/-- The cell of a reference that is absent is empty. -/
@[simp] lemma ofUuid?_none : ofUuid? none = .null := rfl

/-- The cell of a reference is that of an id exactly if it is a reference to this id. -/
lemma ofUuid?_eq_ofUuid {id? : Option Uuid} {id : Uuid} :
    ofUuid? id? = ofUuid id ↔ id? = some id := by
  cases id? <;> simp [eq_comm (a := Cell.null)]

/-- The cell of a reference is empty exactly if the reference is absent. -/
lemma ofUuid?_eq_null {id? : Option Uuid} : ofUuid? id? = .null ↔ id? = none := by
  cases id? <;> simp

/-- Different references have different cells. -/
lemma ofUuid?_injective {a b : Option Uuid} (h : ofUuid? a = ofUuid? b) : a = b := by
  cases b with
  | none => exact ofUuid?_eq_null.mp h
  | some b => exact ofUuid?_eq_ofUuid.mp h

/-- Comparing the cells of ids is comparing the ids. -/
lemma ofUuid_beq (a b : Uuid) : (ofUuid a == ofUuid b) = (a == b) := by
  rw [Bool.eq_iff_iff]
  simp

/-- Comparing the cell of a reference with that of an id is comparing the reference with the id. -/
lemma ofUuid?_beq_ofUuid (a : Option Uuid) (b : Uuid) :
    (ofUuid? a == ofUuid b) = (a == some b) := by
  rw [Bool.eq_iff_iff, beq_iff_eq, beq_iff_eq, ofUuid?_eq_ofUuid]

/-- Comparing the cell of a reference with the empty cell tells whether the reference is absent. -/
lemma ofUuid?_beq_null (a : Option Uuid) : (ofUuid? a == .null) = (a == none) := by
  rw [Bool.eq_iff_iff, beq_iff_eq, beq_iff_eq, ofUuid?_eq_null]

/-- The cell of an id is read as that id. -/
@[simp] lemma uuid?_ofUuid (column : Nat) (id : Uuid) : (ofUuid id).uuid? column = .ok id := by
  simp [uuid?, convert?, text?, ofUuid, Uuid.read?, Uuid.text, Uuid.ofChars?_chars]

/-- The cell of a reference is read as that reference. -/
@[simp] lemma optionalUuid?_ofUuid? (column : Nat) (id? : Option Uuid) :
    (ofUuid? id?).optionalUuid? column = .ok id? := by
  cases id? with
  | none => rfl
  | some id =>
    have h := uuid?_ofUuid column id
    simp only [ofUuid] at h
    simp only [ofUuid?_some, ofUuid, optionalUuid?, h, Except.map]

/-- A cell that was written for an id holds the id that is read from it. -/
lemma eq_ofUuid_of_read {c : Cell} {id id' : Uuid} {column : Nat} (hwrite : c = .ofUuid id)
    (hread : c.uuid? column = .ok id') : c = .ofUuid id' := by
  rw [hwrite, uuid?_ofUuid, Except.ok.injEq] at hread
  rw [hwrite, hread]

/-- A cell that was written for a reference holds the reference that is read from it. -/
lemma eq_ofUuid?_of_read {c : Cell} {id? id?' : Option Uuid} {column : Nat}
    (hwrite : c = .ofUuid? id?) (hread : c.optionalUuid? column = .ok id?') :
    c = .ofUuid? id?' := by
  rw [hwrite, optionalUuid?_ofUuid?, Except.ok.injEq] at hread
  rw [hwrite, hread]

/-- The cell of a count is read as the instant of that count. -/
@[simp] lemma instant?_integer (column : Nat) (n : Decimal.Int64) :
    (integer n.1).instant? column = .ok (.ofNanos n) := by
  simp [instant?, integer?]

/-- A time has a cell exactly if it has a count, and the cell holds the count. -/
lemma ofInstant_eq_ok_iff {t : Instant} {c : Cell} :
    ofInstant t = .ok c ↔ ∃ n : Decimal.Int64, t.nanos? = some n.1 ∧ c = .integer n.1 := by
  unfold ofInstant
  constructor
  · intro h
    split at h
    next n hn =>
      have hrange : Decimal.InInt64 n := by
        unfold Instant.nanos? at hn
        split at hn
        next hin => exact Option.some.inj hn ▸ hin
        next => simp at hn
      exact ⟨⟨n, hrange⟩, hn, (Except.ok.inj h).symm⟩
    next => simp at h
  · rintro ⟨n, hn, rfl⟩
    rw [hn]

/-- The operator of a direction is met by what compares as coming after in this direction. -/
lemma meets_afterOperator (order : SortOrder) (a b : Cell) :
    meets order.afterOperator a b = (compare? a b).any order.isAfter := by
  unfold meets
  cases compare? a b <;> cases order <;> rfl

end Cell

/-! ### Rows of every kind -/

/-- Rows that are written from records: how, and what becomes of the position of a record when it
is written and when it is read. -/
class StoredRow (ρ : Type) (α : outParam Type) [Row ρ α] [Keyed α] where
  /-- The row of a record. -/
  write : α → Except StoreError ρ
  cells_of_write {a : α} {r : ρ} (h : write a = .ok r) :
    Row.id r = .ofUuid (sortKey a).id ∧ Cell.ofInstant (sortKey a).createdAt = .ok (Row.createdAt r)
  cells_of_read {r : ρ} {a : α} (h : Row.read r = .ok a) :
    (∃ column, (Row.id r).uuid? column = .ok (sortKey a).id) ∧
      ∃ column, (Row.createdAt r).instant? column = .ok (sortKey a).createdAt

instance : StoredRow SpaceRow Space where
  write := Space.toRow
  cells_of_write h := by
    obtain ⟨hid, -, -, hcreated, -⟩ := Space.toRow_eq_ok_iff.mp h
    exact ⟨hid, hcreated⟩
  cells_of_read h := by
    obtain ⟨hid, -, -, hcreated, -⟩ := SpaceRow.read_eq_ok_iff.mp h
    exact ⟨⟨_, hid⟩, _, hcreated⟩

instance : StoredRow SessionRow Session where
  write := Session.toRow
  cells_of_write h := by
    obtain ⟨hid, -, -, -, hcreated, -⟩ := Session.toRow_eq_ok_iff.mp h
    exact ⟨hid, hcreated⟩
  cells_of_read h := by
    obtain ⟨hid, -, -, -, hcreated, -⟩ := SessionRow.read_eq_ok_iff.mp h
    exact ⟨⟨_, hid⟩, _, hcreated⟩

instance : StoredRow MessageRow Message where
  write := Message.toRow
  cells_of_write h := by
    obtain ⟨hid, -, -, -, -, -, -, -, hcreated, -⟩ := Message.toRow_eq_ok_iff.mp h
    exact ⟨hid, hcreated⟩
  cells_of_read h := by
    obtain ⟨hid, -, -, -, -, -, -, -, hcreated, -⟩ := MessageRow.read_eq_ok_iff.mp h
    exact ⟨⟨_, hid⟩, _, hcreated⟩

instance : StoredRow TaskRow Task where
  write := Task.toRow
  cells_of_write h := by
    obtain ⟨hid, -, -, -, -, -, -, hcreated, -⟩ := Task.toRow_eq_ok_iff.mp h
    exact ⟨hid, hcreated⟩
  cells_of_read h := by
    obtain ⟨hid, -, -, -, -, -, -, hcreated, -⟩ := TaskRow.read_eq_ok_iff.mp h
    exact ⟨⟨_, hid⟩, _, hcreated⟩

instance : StoredRow DiskRow Disk where
  write := Disk.toRow
  cells_of_write h := by
    obtain ⟨hid, -, hcreated, -⟩ := Disk.toRow_eq_ok_iff.mp h
    exact ⟨hid, hcreated⟩
  cells_of_read h := by
    obtain ⟨hid, -, hcreated, -⟩ := DiskRow.read_eq_ok_iff.mp h
    exact ⟨⟨_, hid⟩, _, hcreated⟩

/-! ### Positions of rows -/

namespace Row

variable {ρ α : Type} [Row ρ α]

/-- The cells of id and time are those of a position. -/
def IsAt (r : ρ) (key : SortKey) : Prop :=
  Row.id r = .ofUuid key.id ∧
    ∃ n : Decimal.Int64, Row.createdAt r = .integer n.1 ∧ key.createdAt = .ofNanos n

/-- A row that was written from some record. -/
def Written [Keyed α] [StoredRow ρ α] (r : ρ) : Prop :=
  ∃ a : α, StoredRow.write a = .ok r

/-- A written row stands at some position. -/
lemma Written.exists_isAt [Keyed α] [StoredRow ρ α] {r : ρ} (h : Written r) :
    ∃ key, IsAt r key := by
  obtain ⟨a, ha⟩ := h
  obtain ⟨hid, htime⟩ := StoredRow.cells_of_write ha
  obtain ⟨n, -, hn⟩ := Cell.ofInstant_eq_ok_iff.mp htime
  exact ⟨⟨.ofNanos n, (sortKey a).id⟩, hid, n, hn, rfl⟩

/-- The position of a row is read from its cells. -/
lemma IsAt.position? {r : ρ} {key : SortKey} (h : IsAt r key) : Row.position? r = some key := by
  obtain ⟨hid, n, hn, hkey⟩ := h
  rw [Row.position?, hid, hn, Cell.uuid?_ofUuid, Cell.instant?_integer, ← hkey]

/-- The position of a row, and the first one if the row has none. -/
def key (r : ρ) : SortKey :=
  (Row.position? r).getD ⟨.ofNanos ⟨0, Decimal.inInt64_zero⟩, default⟩

/-- The key of a row is the position at which it stands. -/
lemma IsAt.key_eq {r : ρ} {key : SortKey} (h : IsAt r key) : Row.key r = key := by
  rw [Row.key, h.position?, Option.getD_some]

/-- A written row stands at its key. -/
lemma Written.isAt_key [Keyed α] [StoredRow ρ α] {r : ρ} (h : Written r) : IsAt r (Row.key r) := by
  obtain ⟨key, hkey⟩ := h.exists_isAt
  rw [hkey.key_eq]
  exact hkey

/-- A record stands where its row stands. -/
lemma IsAt.sortKey_eq [Keyed α] [StoredRow ρ α] {r : ρ} {key : SortKey} {a : α} (h : IsAt r key)
    (ha : Row.read r = .ok a) : sortKey a = key := by
  obtain ⟨hid, n, hn, hkey⟩ := h
  obtain ⟨⟨i, hi⟩, j, hj⟩ := StoredRow.cells_of_read ha
  rw [hid, Cell.uuid?_ofUuid, Except.ok.injEq] at hi
  rw [hn, Cell.instant?_integer, Except.ok.injEq] at hj
  cases hk : sortKey a
  cases key
  simp_all

/-- A written row has the id of the record that is read from it. -/
lemma Written.id_of_read [Keyed α] [StoredRow ρ α] {r : ρ} (h : Written r) {a : α}
    (ha : Row.read r = .ok a) : Row.id r = .ofUuid (sortKey a).id := by
  rw [h.isAt_key.sortKey_eq ha]
  exact h.isAt_key.1

/-- Rows are ordered by their cells as their positions are. -/
lemma order_of_isAt {r r' : ρ} {key key' : SortKey} (h : IsAt r key) (h' : IsAt r' key') :
    (Cell.order (Row.createdAt r) (Row.createdAt r')).then (Cell.order (Row.id r) (Row.id r')) =
      compare key key' := by
  obtain ⟨hid, n, hn, hkey⟩ := h
  obtain ⟨hid', n', hn', hkey'⟩ := h'
  rw [hid, hn, hid', hn']
  change (compare n.1 n'.1).then (compare key.id.text key'.id.text) = _
  rw [← Instant.compare_ofNanos, ← hkey, ← hkey', Uuid.compare_text]
  rfl

/-- The condition on cells is the comparison of positions. -/
lemma isAfter_of_isAt {r : ρ} {key : SortKey} (h : IsAt r key) (order : SortOrder)
    (n : Decimal.Int64) (id : Uuid) :
    Listing.isAfter order n.1 id r = order.precedes ⟨.ofNanos n, id⟩ key := by
  obtain ⟨hid, m, hm, hkey⟩ := h
  have hcompare : compare key ⟨.ofNanos n, id⟩ =
      (compare m.1 n.1).then (compare key.id.text id.text) := by
    rw [← Instant.compare_ofNanos, ← hkey, Uuid.compare_text]
    rfl
  have htime : Cell.compare? (.integer m.1) (.integer n.1) = some (compare m.1 n.1) := rfl
  have hids : Cell.compare? (.ofUuid key.id) (.ofUuid id) = some (compare key.id.text id.text) :=
    rfl
  unfold Listing.isAfter SortOrder.precedes
  rw [hid, hm, hcompare, Cell.meets_afterOperator, Cell.meets_afterOperator, Cell.meets, htime,
    hids]
  cases order <;> cases compare m.1 n.1 <;> rfl

end Row

/-! ### Owners of rows -/

open Row

/-- A space names its project. -/
lemma SpaceRow.projectId_of_read {r : SpaceRow} {a : Space} (hr : Written r) (ha : r.read = .ok a) :
    r.projectId = .ofUuid a.projectId := by
  obtain ⟨b, hb⟩ := hr
  obtain ⟨-, hwrite, -⟩ := Space.toRow_eq_ok_iff.mp hb
  obtain ⟨-, hread, -⟩ := SpaceRow.read_eq_ok_iff.mp ha
  exact Cell.eq_ofUuid_of_read hwrite hread

/-- A session names its project, and its space if there is one. -/
lemma SessionRow.owners_of_read {r : SessionRow} {a : Session} (hr : Written r)
    (ha : r.read = .ok a) :
    r.projectId = .ofUuid a.projectId ∧ r.spaceId = .ofUuid? a.spaceId := by
  obtain ⟨b, hb⟩ := hr
  obtain ⟨-, hproject, hspace, -⟩ := Session.toRow_eq_ok_iff.mp hb
  obtain ⟨-, hproject', hspace', -⟩ := SessionRow.read_eq_ok_iff.mp ha
  exact ⟨Cell.eq_ofUuid_of_read hproject hproject', Cell.eq_ofUuid?_of_read hspace hspace'⟩

/-- A message names its session. -/
lemma MessageRow.sessionId_of_read {r : MessageRow} {a : Message} (hr : Written r)
    (ha : r.read = .ok a) : r.sessionId = .ofUuid a.sessionId := by
  obtain ⟨b, hb⟩ := hr
  obtain ⟨-, hwrite, -⟩ := Message.toRow_eq_ok_iff.mp hb
  obtain ⟨-, hread, -⟩ := MessageRow.read_eq_ok_iff.mp ha
  exact Cell.eq_ofUuid_of_read hwrite hread

/-- A task names its session. -/
lemma TaskRow.sessionId_of_read {r : TaskRow} {a : Task} (hr : Written r) (ha : r.read = .ok a) :
    r.sessionId = .ofUuid a.sessionId := by
  obtain ⟨b, hb⟩ := hr
  obtain ⟨-, hwrite, -⟩ := Task.toRow_eq_ok_iff.mp hb
  obtain ⟨-, hread, -⟩ := TaskRow.read_eq_ok_iff.mp ha
  exact Cell.eq_ofUuid_of_read hwrite hread

/-- A disk names its project. -/
lemma DiskRow.projectId_of_read {r : DiskRow} {a : Disk} (hr : Written r) (ha : r.read = .ok a) :
    r.projectId = .ofUuid a.projectId := by
  obtain ⟨b, hb⟩ := hr
  obtain ⟨-, hwrite, -⟩ := Disk.toRow_eq_ok_iff.mp hb
  obtain ⟨-, hread, -⟩ := DiskRow.read_eq_ok_iff.mp ha
  exact Cell.eq_ofUuid_of_read hwrite hread

end Colloquy
