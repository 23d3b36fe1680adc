import Mathlib.Data.List.Nodup
import Colloquy.Json.Fields
import Colloquy.Proofs.Json.Reader
import Colloquy.Proofs.Json.Value
import Colloquy.Text.Decimal

/-!
# Records that are read back

A record that is written with some of its fields, in their order, is read back with exactly these
(`fields?_record`), and each field is looked up among them.
-/

namespace Colloquy.Json

/-- The fields of a record are all known, and none comes twice. -/
lemma knownFields?_eq_self {names : List String} {fields : List (String × Document)}
    (hknown : ∀ f ∈ fields, f.1 ∈ names) (hnodup : (fields.map (·.1)).Nodup) :
    knownFields? names (fields.map fun (k, v) => (some k, v)) = some fields := by
  induction fields with
  | nil => rfl
  | cons f rest ih =>
    obtain ⟨key, d⟩ := f
    obtain ⟨hnew, hnodup⟩ := List.nodup_cons.mp hnodup
    have hkey : key ∈ names := hknown (key, d) List.mem_cons_self
    have hfresh : rest.any (·.1 == key) = false := by
      simpa using fun a b hmem heq => hnew (List.mem_map.mpr ⟨(a, b), hmem, heq⟩)
    rw [List.map_cons, knownFields?, ih (fun f hf => hknown f (List.mem_cons_of_mem _ hf)) hnodup]
    simp [hkey, hfresh]

/-- A record is read back with the fields that it was written with. -/
theorem fields?_record {names : List String} {levels : Nat} {fields : List (String × Document)}
    (hsub : (fields.map (·.1)).Sublist names) (hnodup : names.Nodup) :
    fields? names (levels + 1) (.record fields) = some ⟨levels, fields⟩ := by
  have hread := knownFields?_eq_self (fun f hf => hsub.subset (List.mem_map_of_mem hf))
    (hsub.nodup hnodup)
  rw [Document.record, fields?, hread]
  rfl

/-- The fields of a record have a level less than the record. -/
lemma levels_of_fields? {names : List String} {levels : Nat} {d : Document} {f : Fields}
    (h : fields? names (levels + 1) d = some f) : f.levels = levels := by
  cases d with
  | object fields =>
    obtain ⟨present, -, rfl⟩ := Option.map_eq_some_iff.mp h
    rfl
  | array items =>
    simp only [fields?, Option.ite_none_right_eq_some, Option.some.injEq] at h
    obtain ⟨-, rfl⟩ := h
    rfl
  | _ => simp [fields?] at h

/-- A record can be printed if its fields can. -/
lemma record_wellFormed {fields : List (String × Document)}
    (h : ∀ f ∈ fields, f.2.WellFormed) : (Document.record fields).WellFormed := by
  change Document.FieldsWellFormed (fields.map fun (k, v) => (some k, v))
  induction fields with
  | nil => trivial
  | cons f rest ih =>
    obtain ⟨key, d⟩ := f
    exact ⟨h (key, d) List.mem_cons_self, ih fun f hf => h f (List.mem_cons_of_mem _ hf)⟩

/-- An array can be printed if its items can. -/
lemma items_wellFormed {items : List Document} (h : ∀ d ∈ items, d.WellFormed) :
    (Document.array items).WellFormed := by
  change Document.ItemsWellFormed items
  induction items with
  | nil => trivial
  | cons d rest ih =>
    exact ⟨h d List.mem_cons_self, ih fun d hd => h d (List.mem_cons_of_mem _ hd)⟩

/-! ### Numbers of a width -/

namespace Reader

/-- A whole number between the bounds is read back. -/
lemma intBetween_int {low high n : Int} (hn : low ≤ n ∧ n ≤ high) (hwhole : IsWhole n)
    (levels : Nat) : intBetween low high levels (.int n) = some n := by
  simp only [intBetween, Document.int, ofNumeral?_int hwhole, hn, and_self, if_true]

/-- What is read lies between the bounds. -/
lemma le_of_intBetween {low high n : Int} {levels : Nat} {d : Document}
    (h : intBetween low high levels d = some n) : low ≤ n ∧ n ≤ high := by
  unfold intBetween at h
  split at h
  next =>
    split at h
    next =>
      split_ifs at h with hrange
      exact Option.some.inj h ▸ hrange
    next => simp at h
  next => simp at h

/-- An unsigned number of 64 bits is read back. -/
lemma nat64_int {n : Nat} (hn : n < 2 ^ 64) (levels : Nat) : nat64 levels (.int n) = some n := by
  rw [nat64, intBetween_int ⟨by omega, by omega⟩ ⟨by omega, by omega⟩, Option.map_some,
    Int.toNat_natCast]

/-- A number that was read for 64 bits has 64 bits. -/
lemma nat64_lt {levels : Nat} {d : Document} {n : Nat} (h : nat64 levels d = some n) :
    n < 2 ^ 64 := by
  obtain ⟨i, hi, rfl⟩ := Option.map_eq_some_iff.mp h
  have hrange := le_of_intBetween hi
  omega

/-- An unsigned number of 32 bits is read back. -/
lemma nat32_int {n : Nat} (hn : n < 2 ^ 32) (levels : Nat) : nat32 levels (.int n) = some n := by
  rw [nat32, intBetween_int ⟨by omega, by omega⟩ ⟨by omega, by omega⟩, Option.map_some,
    Int.toNat_natCast]

/-- A number that was read for 32 bits has 32 bits. -/
lemma nat32_lt {levels : Nat} {d : Document} {n : Nat} (h : nat32 levels d = some n) :
    n < 2 ^ 32 := by
  obtain ⟨i, hi, rfl⟩ := Option.map_eq_some_iff.mp h
  have hrange := le_of_intBetween hi
  omega

/-- A signed number of 64 bits is read back. -/
lemma int64_int {n : Int} (hn : Decimal.InInt64 n) (levels : Nat) :
    int64 levels (.int n) = some n := by
  unfold Decimal.InInt64 at hn
  exact intBetween_int (by omega) ⟨by omega, by omega⟩ levels

/-- A number that was read for 64 signed bits is a signed 64-bit integer. -/
lemma inInt64_of_int64 {levels : Nat} {d : Document} {n : Int} (h : int64 levels d = some n) :
    Decimal.InInt64 n := by
  have hrange := le_of_intBetween h
  unfold Decimal.InInt64
  omega

end Reader

/-- A text of a document is read as the document is. -/
lemma ofString?_compact_bind {α : Type} {d : Document} (hd : d.WellFormed)
    (read : Document → Option α) : (Document.ofString? d.compact).bind read = read d := by
  rw [Document.ofString?_compact hd, Option.bind_some]

end Colloquy.Json
