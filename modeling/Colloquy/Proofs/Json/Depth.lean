import Colloquy.Proofs.Json.Value

/-!
# How deep documents nest

`Document.depth` counts the arrays and objects that lie within one another. What is written for a
value nests as deep as the value needs levels to be read: a value fits a number of levels exactly if
reading could have given it at all and its document is no deeper than that (`fits_iff`).
-/

namespace Colloquy.Json

namespace Document

mutual

/-- The greatest number of arrays and objects of a document that lie within one another. -/
def depth : Document → Nat
  | .null | .bool _ | .number _ | .string _ => 0
  | .array items => itemsDepth items + 1
  | .object fields => fieldsDepth fields + 1

/-- The depth of the deepest item. -/
def itemsDepth : List Document → Nat
  | [] => 0
  | d :: rest => max (depth d) (itemsDepth rest)

/-- The depth of the deepest value of a field. -/
def fieldsDepth : List (Option String × Document) → Nat
  | [] => 0
  | (_, d) :: rest => max (depth d) (fieldsDepth rest)

end

/-- Nothing does not nest. -/
@[simp] lemma depth_null : depth .null = 0 := rfl

/-- A truth value does not nest. -/
@[simp] lemma depth_bool (b : Bool) : depth (.bool b) = 0 := rfl

/-- A text does not nest. -/
@[simp] lemma depth_text (s : String) : depth (.text s) = 0 := rfl

/-- A number does not nest. -/
@[simp] lemma depth_int (n : Int) : depth (.int n) = 0 := rfl

/-- Items nest as deeply as the deepest of them. -/
lemma itemsDepth_le_iff {items : List Document} {n : Nat} :
    itemsDepth items ≤ n ↔ ∀ d ∈ items, d.depth ≤ n := by
  induction items with
  | nil => simp [itemsDepth]
  | cons d rest ih => rw [itemsDepth, max_le_iff, ih, List.forall_mem_cons]

/-- An array nests one level deeper than its items. -/
lemma depth_array_le_iff {items : List Document} {n : Nat} :
    (array items).depth ≤ n + 1 ↔ ∀ d ∈ items, d.depth ≤ n := by
  rw [depth, Nat.add_le_add_iff_right, itemsDepth_le_iff]

/-- A record nests one level deeper than its fields. -/
lemma depth_record_le_iff {fields : List (String × Document)} {n : Nat} :
    (record fields).depth ≤ n + 1 ↔ ∀ f ∈ fields, f.2.depth ≤ n := by
  rw [record, depth, Nat.add_le_add_iff_right]
  induction fields with
  | nil => simp [fieldsDepth]
  | cons f rest ih => rw [List.map_cons, fieldsDepth, max_le_iff, ih, List.forall_mem_cons]

end Document

mutual

/-- A value as reading gives it, however deep it nests: objects are sorted by key, and whole numbers
have 64 bits. -/
def Legal : Json → Prop
  | .null | .bool _ | .float _ | .string _ => True
  | .int n => IsWhole n
  | .array items => ItemsLegal items
  | .object fields => FieldsLegal fields ∧ Sorted fields

/-- The same of the items of an array. -/
def ItemsLegal : List Json → Prop
  | [] => True
  | v :: rest => Legal v ∧ ItemsLegal rest

/-- The same of the fields of an object. -/
def FieldsLegal : JsonObject → Prop
  | [] => True
  | (_, v) :: rest => Legal v ∧ FieldsLegal rest

end

mutual

/-- A value fits a number of levels if reading could have given it and it is written no deeper. -/
theorem fits_iff : ∀ {levels : Nat} {v : Json},
    Fits levels v ↔ Legal v ∧ (toDocument v).depth ≤ levels
  | _, .null => by simp [Fits, Legal, toDocument]
  | _, .bool _ => by simp [Fits, Legal, toDocument]
  | _, .int _ => by simp [Fits, Legal, toDocument]
  | _, .float _ => by simp [Fits, Legal, toDocument, Document.depth]
  | _, .string _ => by simp [Fits, Legal, toDocument]
  | 0, .array _ => by simp [Fits, toDocument, Document.depth]
  | 0, .object _ => by simp [Fits, toDocument, Document.depth]
  | levels + 1, .array items => by
    rw [Fits, Legal, toDocument, Document.depth, Nat.add_le_add_iff_right]
    exact itemsFit_iff_legal
  | levels + 1, .object fields => by
    rw [Fits, Legal, toDocument, Document.depth, Nat.add_le_add_iff_right, fieldsFit_iff_legal]
    exact and_right_comm

/-- Items fit exactly if they are legal and do not nest too deeply. -/
lemma itemsFit_iff_legal : ∀ {levels : Nat} {items : List Json}, ItemsFit levels items ↔
    ItemsLegal items ∧ Document.itemsDepth (itemsToDocuments items) ≤ levels
  | _, [] => by simp [ItemsFit, ItemsLegal, itemsToDocuments, Document.itemsDepth]
  | _, v :: rest => by
    rw [ItemsFit, ItemsLegal, itemsToDocuments, Document.itemsDepth, max_le_iff, fits_iff,
      itemsFit_iff_legal]
    exact and_and_and_comm

/-- Fields fit exactly if they are legal and do not nest too deeply. -/
lemma fieldsFit_iff_legal : ∀ {levels : Nat} {fields : JsonObject}, FieldsFit levels fields ↔
    FieldsLegal fields ∧ Document.fieldsDepth (fieldsToDocuments fields) ≤ levels
  | _, [] => by simp [FieldsFit, FieldsLegal, fieldsToDocuments, Document.fieldsDepth]
  | _, (_, v) :: rest => by
    rw [FieldsFit, FieldsLegal, fieldsToDocuments, Document.fieldsDepth, max_le_iff, fits_iff,
      fieldsFit_iff_legal]
    exact and_and_and_comm

end

end Colloquy.Json
