import Mathlib.Data.String.Basic
import Colloquy.Proofs.Json.Number

/-!
# Values that are read back

`Json.Fits` says what reading gives: objects that are sorted by key, whole numbers of 64 bits, and
no more arrays and objects around anything than there are levels (`fits_of_ofDocument?`). Such a
value is read back from how it is written, with as many levels (`ofDocument?_toDocument`); all that
changes are doubles, which come back as `reread` gives them. What holds no doubles comes back as it
was (`reread_eq_self`). An object that comes back at all has the keys that it had
(`hasKey_of_objectOfDocument?`).
-/

namespace Colloquy.Json

/-! ### Fitting values -/

/-- The fields are sorted by key. -/
def Sorted (fields : JsonObject) : Prop := fields.Pairwise fun f g => f.1 < g.1

mutual

/-- A value as reading gives it that nests no more than the given number of levels. -/
def Fits (levels : Nat) : Json → Prop
  | .null | .bool _ | .float _ | .string _ => True
  | .int n => IsWhole n
  | .array items =>
    match levels with
    | 0 => False
    | levels + 1 => ItemsFit levels items
  | .object fields =>
    match levels with
    | 0 => False
    | levels + 1 => FieldsFit levels fields ∧ Sorted fields

/-- The same of the items of an array. -/
def ItemsFit (levels : Nat) : List Json → Prop
  | [] => True
  | v :: rest => Fits levels v ∧ ItemsFit levels rest

/-- The same of the fields of an object. -/
def FieldsFit (levels : Nat) : JsonObject → Prop
  | [] => True
  | (_, v) :: rest => Fits levels v ∧ FieldsFit levels rest

end

/-- Fields fit exactly if each of their values does. -/
lemma fieldsFit_iff {levels : Nat} {fields : JsonObject} :
    FieldsFit levels fields ↔ ∀ f ∈ fields, Fits levels f.2 := by
  induction fields with
  | nil => simp [FieldsFit]
  | cons f rest ih =>
    obtain ⟨key, v⟩ := f
    rw [FieldsFit, ih, List.forall_mem_cons]

/-! ### Objects -/

/-- A field after an insertion is the new one or an old one. -/
lemma mem_insertField {key : String} {v : Json} {fields : JsonObject} {f : String × Json}
    (h : f ∈ insertField key v fields) : f = (key, v) ∨ f ∈ fields := by
  induction fields with
  | nil => exact .inl (List.mem_singleton.mp h)
  | cons g rest ih =>
    obtain ⟨k, w⟩ := g
    rw [insertField] at h
    split_ifs at h
    · exact List.mem_cons.mp h
    · exact (List.mem_cons.mp h).imp_right (List.mem_cons_of_mem _)
    · rcases List.mem_cons.mp h with rfl | h
      · exact .inr List.mem_cons_self
      · exact (ih h).imp_right (List.mem_cons_of_mem _)

/-- A field finds its place. -/
lemma Sorted.insertField {fields : JsonObject} (h : Sorted fields) (key : String) (v : Json) :
    Sorted (insertField key v fields) := by
  induction fields with
  | nil => exact List.pairwise_singleton _ _
  | cons g rest ih =>
    obtain ⟨k, w⟩ := g
    obtain ⟨hfirst, hrest⟩ := List.pairwise_cons.mp h
    rw [Json.insertField]
    split_ifs with hbefore hsame
    · refine List.pairwise_cons.mpr ⟨fun f hf => ?_, h⟩
      rcases List.mem_cons.mp hf with rfl | hf
      · exact hbefore
      · exact lt_trans hbefore (hfirst f hf)
    · exact List.pairwise_cons.mpr ⟨hsame ▸ hfirst, hrest⟩
    · refine List.pairwise_cons.mpr ⟨fun f hf => ?_, ih hrest⟩
      rcases mem_insertField hf with rfl | hf
      · exact lt_of_le_of_ne (not_lt.mp hbefore) (Ne.symm hsame)
      · exact hfirst f hf

/-- A field whose key comes last is put at the end. -/
lemma insertField_eq_append {key : String} {v : Json} {fields : JsonObject}
    (h : ∀ f ∈ fields, f.1 < key) : insertField key v fields = fields ++ [(key, v)] := by
  induction fields with
  | nil => rfl
  | cons g rest ih =>
    obtain ⟨k, w⟩ := g
    have hk : k < key := h (k, w) List.mem_cons_self
    rw [insertField, if_neg hk.asymm, if_neg hk.ne', ih fun f hf => h f (List.mem_cons_of_mem _ hf),
      List.cons_append]

/-! ### What reading gives -/

mutual

/-- What is read fits the levels that it was read with. -/
theorem fits_of_ofDocument? : ∀ {levels : Nat} {d : Document} {v : Json},
    ofDocument? levels d = some v → Fits levels v
  | _, .null, v, h => by
    obtain rfl := Option.some.inj h
    trivial
  | _, .bool b, v, h => by
    obtain rfl := Option.some.inj h
    trivial
  | _, .number n, v, h => by
    rcases ofNumeral?_eq_some h with ⟨i, rfl, hi⟩ | ⟨x, rfl⟩
    · exact hi
    · trivial
  | _, .string s, v, h => by
    obtain ⟨s, -, rfl⟩ := Option.map_eq_some_iff.mp h
    trivial
  | 0, .array items, v, h => by simp [ofDocument?] at h
  | levels + 1, .array items, v, h => by
    obtain ⟨vs, hvs, rfl⟩ := Option.map_eq_some_iff.mp h
    exact itemsFit_of_itemsOfDocuments? hvs
  | 0, .object fields, v, h => by simp [ofDocument?] at h
  | levels + 1, .object fields, v, h => by
    obtain ⟨vs, hvs, rfl⟩ := Option.map_eq_some_iff.mp h
    exact fieldsFit_of_fieldsOfDocuments? hvs ⟨trivial, List.Pairwise.nil⟩

/-- Values that were read from documents fit the levels that they were read with. -/
lemma itemsFit_of_itemsOfDocuments? : ∀ {levels : Nat} {ds : List Document} {vs : List Json},
    itemsOfDocuments? levels ds = some vs → ItemsFit levels vs
  | levels, [], vs, h => by
    obtain rfl := Option.some.inj h
    trivial
  | levels, d :: rest, vs, h => by
    rw [itemsOfDocuments?] at h
    split at h
    next v ws hv hws =>
      obtain rfl := Option.some.inj h
      exact ⟨fits_of_ofDocument? hv, itemsFit_of_itemsOfDocuments? hws⟩
    next => simp at h

/-- Fields that were read from documents fit and are sorted, if those that came before them were. -/
lemma fieldsFit_of_fieldsOfDocuments? : ∀ {levels : Nat} {ds : List (Option String × Document)}
    {done fields : JsonObject}, fieldsOfDocuments? levels done ds = some fields →
      FieldsFit levels done ∧ Sorted done → FieldsFit levels fields ∧ Sorted fields
  | levels, [], done, fields, h, hdone => by
    obtain rfl := Option.some.inj h
    exact hdone
  | levels, (key, d) :: rest, done, fields, h, ⟨hfit, hsorted⟩ => by
    rw [fieldsOfDocuments?.eq_def] at h
    dsimp only at h
    split at h
    next key v hkey hv =>
      refine fieldsFit_of_fieldsOfDocuments? h ⟨fieldsFit_iff.mpr fun f hf => ?_,
        hsorted.insertField _ _⟩
      rcases mem_insertField hf with rfl | hf
      · exact fits_of_ofDocument? hv
      · exact fieldsFit_iff.mp hfit f hf
    next => simp at h

end

/-- A free object that was read fits the levels that it was read with. -/
lemma fits_of_objectOfDocument? {levels : Nat} {d : Document} {fields : JsonObject}
    (h : objectOfDocument? levels d = some fields) : Fits levels (.object fields) := by
  unfold objectOfDocument? at h
  split at h
  next => exact fieldsFit_of_fieldsOfDocuments? h ⟨trivial, List.Pairwise.nil⟩
  next => simp at h

/-! ### Reading back -/

/-- A double as it comes back. -/
def rereadFloat (x : Binary64) : Json := (ofNumeral? (floatNumeral x)).getD (.float x)

mutual

/-- A value as it comes back when it is written and read. -/
def reread : Json → Json
  | .float x => rereadFloat x
  | .array items => .array (rereadItems items)
  | .object fields => .object (rereadFields fields)
  | v => v

/-- Items as they come back. -/
def rereadItems : List Json → List Json
  | [] => []
  | v :: rest => reread v :: rereadItems rest

/-- Fields as they come back. -/
def rereadFields : JsonObject → JsonObject
  | [] => []
  | (k, v) :: rest => (k, reread v) :: rereadFields rest

end

/-- The numeral that is written for a double is read as the double that rereading gives. -/
lemma ofNumeral?_floatNumeral (x : Binary64) :
    ofNumeral? (floatNumeral x) = some (rereadFloat x) := by
  obtain ⟨y, hy⟩ := (readAsDouble_floatNumeral x).read
  rw [rereadFloat, hy, Option.getD_some]

mutual

/-- A value is read back from how it is written. -/
theorem ofDocument?_toDocument : ∀ {levels : Nat} {v : Json},
    Fits levels v → ofDocument? levels (toDocument v) = some (reread v)
  | _, .null, _ => rfl
  | _, .bool _, _ => rfl
  | _, .int _, h => ofNumeral?_int h
  | _, .float x, _ => ofNumeral?_floatNumeral x
  | _, .string _, _ => rfl
  | levels + 1, .array items, h => by
    change (itemsOfDocuments? levels (itemsToDocuments items)).map Json.array = _
    rw [itemsOfDocuments?_itemsToDocuments h]
    rfl
  | levels + 1, .object fields, ⟨hfit, hsorted⟩ => by
    change (fieldsOfDocuments? levels [] (fieldsToDocuments fields)).map Json.object = _
    rw [fieldsOfDocuments?_fieldsToDocuments hfit hsorted (by simp)]
    rfl

/-- Items that fit are read back, each reread. -/
lemma itemsOfDocuments?_itemsToDocuments : ∀ {levels : Nat} {items : List Json},
    ItemsFit levels items → itemsOfDocuments? levels (itemsToDocuments items) =
      some (rereadItems items)
  | _, [], _ => rfl
  | levels, v :: rest, ⟨hv, hrest⟩ => by
    rw [itemsToDocuments, itemsOfDocuments?, ofDocument?_toDocument hv,
      itemsOfDocuments?_itemsToDocuments hrest]
    rfl

/-- Fields that fit and are sorted are read back behind those that come before them, each reread. -/
lemma fieldsOfDocuments?_fieldsToDocuments : ∀ {levels : Nat} {done fields : JsonObject},
    FieldsFit levels fields → Sorted fields → (∀ f ∈ done, ∀ g ∈ fields, f.1 < g.1) →
      fieldsOfDocuments? levels done (fieldsToDocuments fields) = some (done ++ rereadFields fields)
  | _, done, [], _, _, _ => by
    rw [fieldsToDocuments, fieldsOfDocuments?, rereadFields, List.append_nil]
  | levels, done, (key, v) :: rest, ⟨hv, hrest⟩, hsorted, hdone => by
    obtain ⟨hfirst, hsorted⟩ := List.pairwise_cons.mp hsorted
    have hlast : ∀ f ∈ done, f.1 < key := fun f hf => hdone f hf (key, v) List.mem_cons_self
    rw [fieldsToDocuments, fieldsOfDocuments?.eq_def]
    dsimp only
    rw [ofDocument?_toDocument hv]
    dsimp only
    rw [insertField_eq_append hlast, fieldsOfDocuments?_fieldsToDocuments hrest hsorted,
      rereadFields, List.append_assoc, List.singleton_append]
    intro f hf g hg
    rcases List.mem_append.mp hf with hf | hf
    · exact hdone f hf g (List.mem_cons_of_mem _ hg)
    · obtain rfl := List.mem_singleton.mp hf
      exact hfirst g hg

end

/-- An object is read back from how it is written. -/
lemma objectOfDocument?_objectToDocument {levels : Nat} {fields : JsonObject}
    (h : Fits levels (.object fields)) :
    objectOfDocument? levels (objectToDocument fields) = some (rereadFields fields) := by
  cases levels with
  | zero => exact h.elim
  | succ levels => exact fieldsOfDocuments?_fieldsToDocuments h.1 h.2 (by simp)

/-! ### Keys -/

/-- A key is there after an insertion exactly if it is the new one or was there before. -/
lemma hasKey_insertField (key k : String) (v : Json) (fields : JsonObject) :
    hasKey key (insertField k v fields) = (k == key || hasKey key fields) := by
  induction fields with
  | nil => rfl
  | cons g rest ih =>
    obtain ⟨k', w⟩ := g
    rw [insertField]
    split_ifs with hbefore hsame
    · rfl
    · simp [hasKey, hsame]
    · simp only [hasKey, List.any_cons] at ih ⊢
      rw [ih, Bool.or_left_comm]

/-- An object that is read back has the keys that it was written with. -/
lemma hasKey_of_fieldsOfDocuments? {levels : Nat} {done fields read : JsonObject}
    (h : fieldsOfDocuments? levels done (fieldsToDocuments fields) = some read) (key : String) :
    hasKey key read = (hasKey key done || hasKey key fields) := by
  induction fields generalizing done with
  | nil =>
    rw [fieldsToDocuments, fieldsOfDocuments?] at h
    obtain rfl := Option.some.inj h
    simp [hasKey]
  | cons f rest ih =>
    obtain ⟨k, v⟩ := f
    rw [fieldsToDocuments, fieldsOfDocuments?.eq_def] at h
    dsimp only at h
    cases hv : ofDocument? levels (toDocument v) with
    | none => simp [hv] at h
    | some w =>
      rw [hv] at h
      rw [ih h, hasKey_insertField]
      simp only [hasKey, List.any_cons]
      rw [Bool.or_comm (k == key), Bool.or_assoc]

/-- Rereading an object keeps its keys. -/
lemma hasKey_of_objectOfDocument? {levels : Nat} {fields read : JsonObject}
    (h : objectOfDocument? levels (objectToDocument fields) = some read) (key : String) :
    hasKey key read = hasKey key fields := by
  cases levels with
  | zero => simp [objectOfDocument?] at h
  | succ levels => exact hasKey_of_fieldsOfDocuments? h key

/-! ### Values that come back as they were -/

mutual

/-- A value without doubles. -/
def FloatFree : Json → Prop
  | .null | .bool _ | .int _ | .string _ => True
  | .float _ => False
  | .array items => ItemsFloatFree items
  | .object fields => FieldsFloatFree fields

/-- Items without doubles. -/
def ItemsFloatFree : List Json → Prop
  | [] => True
  | v :: rest => FloatFree v ∧ ItemsFloatFree rest

/-- Fields without doubles. -/
def FieldsFloatFree : JsonObject → Prop
  | [] => True
  | (_, v) :: rest => FloatFree v ∧ FieldsFloatFree rest

end

mutual

/-- A value without doubles comes back as it was. -/
theorem reread_eq_self : ∀ {v : Json}, FloatFree v → reread v = v
  | .null, _ => rfl
  | .bool _, _ => rfl
  | .int _, _ => rfl
  | .string _, _ => rfl
  | .array _, h => congrArg Json.array (rereadItems_eq_self h)
  | .object _, h => congrArg Json.object (rereadFields_eq_self h)

/-- Items without floating-point numbers are reread as they are. -/
lemma rereadItems_eq_self : ∀ {items : List Json}, ItemsFloatFree items → rereadItems items = items
  | [], _ => rfl
  | _ :: _, ⟨hv, hrest⟩ => congrArg₂ List.cons (reread_eq_self hv) (rereadItems_eq_self hrest)

/-- Fields without floating-point numbers are reread as they are. -/
lemma rereadFields_eq_self : ∀ {fields : JsonObject},
    FieldsFloatFree fields → rereadFields fields = fields
  | [], _ => rfl
  | (key, _) :: _, ⟨hv, hrest⟩ =>
    congrArg₂ List.cons (congrArg (key, ·) (reread_eq_self hv)) (rereadFields_eq_self hrest)

end

/-- An object as reading gives it that nests no more than the given number of levels and holds no
doubles. -/
structure Plain (levels : Nat) (fields : JsonObject) : Prop where
  fits : Fits levels (.object fields)
  floatFree : FieldsFloatFree fields

/-! ### Texts -/

mutual

/-- What is written is a JSON text. -/
lemma toDocument_wellFormed : ∀ v : Json, (toDocument v).WellFormed
  | .null => trivial
  | .bool _ => trivial
  | .int n => int_wellFormed n
  | .float x => (readAsDouble_floatNumeral x).wellFormed
  | .string _ => trivial
  | .array items => itemsToDocuments_wellFormed items
  | .object fields => fieldsToDocuments_wellFormed fields

/-- Items that are written can be printed. -/
lemma itemsToDocuments_wellFormed : ∀ items : List Json,
    Document.ItemsWellFormed (itemsToDocuments items)
  | [] => trivial
  | v :: rest => ⟨toDocument_wellFormed v, itemsToDocuments_wellFormed rest⟩

/-- Fields that are written can be printed. -/
lemma fieldsToDocuments_wellFormed : ∀ fields : JsonObject,
    Document.FieldsWellFormed (fieldsToDocuments fields)
  | [] => trivial
  | (_, v) :: rest => ⟨toDocument_wellFormed v, fieldsToDocuments_wellFormed rest⟩

end

end Colloquy.Json
