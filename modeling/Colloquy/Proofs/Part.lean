import Colloquy.Proofs.Json.Fields
import Colloquy.Record.Format

/-!
# Parts that are read back

A part is read back from its JSON form if its size and its metadata are such as reading gives them
(`Part.read_toDocument`). The metadata lies in the object of the part, and a stored part lies in the
array of the parts of its message, so of the levels that are given to a text one is left for a part
and one less for its metadata. Whatever a part was like, what comes back lacks exactly what was
lacking before (`Part.validate_of_read`).
-/

namespace Colloquy

open Json (Document Reader fields?)

namespace PartKind

/-- The name of a kind names that kind. -/
lemma named?_name (kind : PartKind) : named? kind.name = some kind := by
  cases kind <;> rfl

end PartKind

namespace Asset

/-- An asset is read back, if its size has 64 bits. -/
lemma read_toDocument {a : Asset} (h : a.sizeB < 2 ^ 64) (levels : Nat) :
    read (levels + 1) a.toDocument = some a := by
  have hfields : fields? ["bucket", "s3_key", "etag", "sha256", "mime", "size_b"] (levels + 1)
      a.toDocument = some ⟨levels, _⟩ := Json.fields?_record (List.Sublist.refl _) (by decide)
  unfold read
  rw [hfields]
  simp [Json.Fields.required, Json.Fields.get?, List.lookup_cons, Reader.text, Document.text,
    Reader.nat64_int h]

/-- The size of an asset that was read has 64 bits. -/
lemma sizeB_lt_of_read {levels : Nat} {d : Document} {a : Asset} (h : read levels d = some a) :
    a.sizeB < 2 ^ 64 := by
  simp only [read, Option.bind_eq_bind, Option.bind_eq_some_iff, Option.pure_def,
    Option.some.injEq] at h
  obtain ⟨f, -, bucket, -, s3Key, -, etag, -, sha256, -, mime, -, sizeB, hsize, rfl⟩ := h
  obtain ⟨d, -, hread⟩ := Option.bind_eq_some_iff.mp hsize
  exact Reader.nat64_lt hread

/-- An asset that is written can be printed. -/
lemma toDocument_wellFormed (a : Asset) : a.toDocument.WellFormed := by
  refine Json.record_wellFormed fun f hf => ?_
  simp only [List.mem_cons, List.not_mem_nil, or_false] at hf
  rcases hf with rfl | rfl | rfl | rfl | rfl | rfl
  · trivial
  · trivial
  · trivial
  · trivial
  · trivial
  · exact Json.int_wellFormed _

end Asset

namespace Part

/-- A part whose metadata nests no more than the given number of levels, and whose values are such
as reading gives them. -/
structure Fits (levels : Nat) (p : Part) : Prop where
  asset : ∀ a, p.asset = some a → 0 < levels ∧ a.sizeB < 2 ^ 64
  metadata : ∀ fields, p.metadata = some fields → Json.Fits levels (.object fields)

/-- A part as it comes back when it is written and read. -/
def reread (p : Part) : Part := { p with metadata := p.metadata.map Json.rereadFields }

/-- A part that fits and holds no doubles. -/
structure Plain (levels : Nat) (p : Part) : Prop where
  fits : p.Fits levels
  floatFree : ∀ fields, p.metadata = some fields → Json.FieldsFloatFree fields

/-- A part without doubles comes back as it was. -/
lemma Plain.reread_eq_self {levels : Nat} {p : Part} (h : p.Plain levels) : p.reread = p := by
  obtain ⟨kind, text, asset, filename, metadata⟩ := p
  cases metadata with
  | none => rfl
  | some fields =>
    rw [reread, Option.map_some, Json.rereadFields_eq_self (h.floatFree fields rfl)]

/-- The value of a field that can be left out was read. -/
lemma exists_of_withDefault {α : Type} {f : Json.Fields} {name : String} {read : Reader α} {v : α}
    (h : f.withDefault name none (Reader.optional read) = some (some v)) :
    ∃ d, read f.levels d = some v := by
  unfold Json.Fields.withDefault at h
  split at h
  next d hd =>
    unfold Reader.optional at h
    split at h
    next => simp at h
    next =>
      obtain ⟨w, hw, heq⟩ := Option.map_eq_some_iff.mp h
      obtain rfl := Option.some.inj heq
      exact ⟨_, hw⟩
  next => simp at h

/-- What is read fits the levels that it was read with. -/
theorem fits_of_read {levels : Nat} {d : Document} {p : Part} (h : read (levels + 1) d = some p) :
    p.Fits levels := by
  simp only [read, Option.bind_eq_bind, Option.bind_eq_some_iff, Option.pure_def,
    Option.some.injEq] at h
  obtain ⟨f, hf, kind, -, text, -, asset, hasset, filename, -, metadata, hmetadata, rfl⟩ := h
  obtain rfl : f.levels = levels := Json.levels_of_fields? hf
  refine ⟨fun a ha => ?_, fun fields hfields => ?_⟩
  · obtain rfl : asset = some a := ha
    obtain ⟨d, hread⟩ := exists_of_withDefault hasset
    refine ⟨Nat.pos_of_ne_zero fun hzero => ?_, Asset.sizeB_lt_of_read hread⟩
    rw [hzero] at hread
    cases d <;> simp [Asset.read, fields?] at hread
  · obtain rfl : metadata = some fields := hfields
    obtain ⟨d, hread⟩ := exists_of_withDefault hmetadata
    exact Json.fits_of_objectOfDocument? hread

/-- A text part fits everywhere. -/
lemma fits_ofText (s : String) (levels : Nat) : (ofText s).Fits levels :=
  ⟨by simp [ofText], by simp [ofText]⟩

/-- A text part is plain everywhere. -/
lemma plain_ofText (s : String) (levels : Nat) : (ofText s).Plain levels :=
  ⟨fits_ofText s levels, by simp [ofText]⟩

/-! ### Fields that can be left out -/

/-- A field that may be left out has its name or is left out. -/
lemma presentField_sublist {α : Type} (name : String) (value : Option α) (write : α → Document) :
    ((presentField name value write).map (·.1)).Sublist [name] := by
  cases value <;> simp [presentField]

/-- A field that may be left out is found under its name only. -/
lemma lookup_presentField {α : Type} (name key : String) (value : Option α) (write : α → Document) :
    (presentField name value write).lookup key =
      if key == name then value.map write else none := by
  cases value with
  | none => simp [presentField]
  | some v => cases h : key == name <;> simp [presentField, List.lookup_cons, h]

/-- The fields of a part that are written. -/
def written (p : Part) : List (String × Document) :=
  ("type", .text p.kind.name) :: (presentField "text" p.text .text ++
    presentField "asset" p.asset Asset.toDocument ++
    presentField "filename" p.filename .text ++
    presentField "meta" p.metadata Json.objectToDocument)

/-- The fields of a written part are found. -/
lemma fields?_toDocument (p : Part) (levels : Nat) :
    fields? ["type", "text", "asset", "filename", "meta"] (levels + 1) p.toDocument =
      some ⟨levels, p.written⟩ := by
  refine Json.fields?_record ?_ (by decide)
  simp only [List.map_cons, List.map_append]
  exact .cons_cons _ ((((presentField_sublist _ _ _).append (presentField_sublist _ _ _)).append
    (presentField_sublist _ _ _)).append (presentField_sublist _ _ _))

/-- A field that can be left out is read back, if its value is. -/
lemma withDefault_eq {α : Type} (read : Reader α) (back : α → α) {f : Json.Fields}
    {name : String} {value : Option α} {write : α → Document}
    (hget : f.get? name = value.map write)
    (hwrite : ∀ v, value = some v → write v ≠ .null ∧ read f.levels (write v) = some (back v)) :
    f.withDefault name none (Reader.optional read) = some (value.map back) := by
  unfold Json.Fields.withDefault
  rw [hget]
  cases hvalue : value with
  | none => rfl
  | some v =>
    obtain ⟨hnull, hread⟩ := hwrite v hvalue
    rw [Option.map_some]
    dsimp only
    unfold Reader.optional
    split
    next heq => exact absurd heq hnull
    next => rw [hread]; rfl

/-- Where the fields of a part are found. -/
lemma get?_written (p : Part) (levels : Nat) :
    let f : Json.Fields := ⟨levels, p.written⟩
    f.get? "text" = p.text.map .text ∧ f.get? "asset" = p.asset.map Asset.toDocument ∧
      f.get? "filename" = p.filename.map .text ∧
        f.get? "meta" = p.metadata.map Json.objectToDocument := by
  dsimp only [Json.Fields.get?]
  simp [written, List.lookup_cons, List.lookup_append, lookup_presentField]

/-- A part is read back from how it is written. -/
theorem read_toDocument {levels : Nat} {p : Part} (h : p.Fits levels) :
    read (levels + 1) p.toDocument = some p.reread := by
  obtain ⟨htext, hasset, hfilename, hmeta⟩ := p.get?_written levels
  have hkind : (⟨levels, p.written⟩ : Json.Fields).required "type" PartKind.read = some p.kind :=
    PartKind.named?_name p.kind
  have htext := withDefault_eq Reader.text id htext fun s _ => ⟨by simp [Document.text], rfl⟩
  have hasset := withDefault_eq Asset.read id hasset fun a ha => by
    obtain ⟨hpos, hsize⟩ := h.asset a ha
    obtain ⟨inner, rfl⟩ := Nat.exists_eq_add_one.mpr hpos
    exact ⟨by simp [Asset.toDocument, Document.record], Asset.read_toDocument hsize inner⟩
  have hfilename := withDefault_eq Reader.text id hfilename fun s _ =>
    ⟨by simp [Document.text], rfl⟩
  have hmeta := withDefault_eq Reader.object Json.rereadFields hmeta fun fields hfields =>
    ⟨by simp [Json.objectToDocument],
      Json.objectOfDocument?_objectToDocument (h.metadata fields hfields)⟩
  unfold read
  rw [fields?_toDocument]
  simp only [Option.bind_eq_bind, Option.bind_some, hkind, htext, hasset, hfilename, hmeta,
    Option.map_id, id, Option.pure_def]
  rfl

/-! ### The parts of a message -/

/-- Parts are read back from the array of them. -/
theorem listReader_listToDocument {levels : Nat} {parts : List Part}
    (h : ∀ p ∈ parts, p.Fits levels) :
    listReader (levels + 2) (listToDocument parts) = some (parts.map reread) := by
  change (parts.map toDocument).mapM (read (levels + 1)) = _
  induction parts with
  | nil => rfl
  | cons p rest ih =>
    rw [List.map_cons, List.mapM_cons, read_toDocument (h p List.mem_cons_self),
      ih fun q hq => h q (List.mem_cons_of_mem _ hq)]
    rfl

/-- A text can be printed. -/
lemma text_wellFormed (s : String) : (Document.text s).WellFormed := trivial

/-- A part that is written can be printed. -/
lemma toDocument_wellFormed (p : Part) : p.toDocument.WellFormed := by
  have hpresent : ∀ {α : Type} {name : String} {value : Option α} {write : α → Document},
      (∀ v, (write v).WellFormed) → ∀ f ∈ presentField name value write, f.2.WellFormed := by
    intro α name value write hwrite f hf
    cases value with
    | none => simp [presentField] at hf
    | some v =>
      obtain rfl := List.mem_singleton.mp hf
      exact hwrite v
  refine Json.record_wellFormed fun f hf => ?_
  rcases List.mem_cons.mp hf with rfl | hf
  · trivial
  simp only [List.mem_append] at hf
  rcases hf with ((hf | hf) | hf) | hf
  · exact hpresent text_wellFormed f hf
  · exact hpresent Asset.toDocument_wellFormed f hf
  · exact hpresent text_wellFormed f hf
  · exact hpresent (fun fields => Json.toDocument_wellFormed (.object fields)) f hf

/-- A list of parts that is written can be printed. -/
lemma listToDocument_wellFormed (parts : List Part) : (listToDocument parts).WellFormed := by
  refine Json.items_wellFormed fun d hd => ?_
  obtain ⟨p, -, rfl⟩ := List.mem_map.mp hd
  exact p.toDocument_wellFormed

/-! ### What parts lack -/

/-- A field that can be left out is read back from what was written, if it was. -/
lemma of_withDefault_write {α : Type} {f : Json.Fields} {name : String} {read : Reader α}
    {value result : Option α} {write : α → Document} (hget : f.get? name = value.map write)
    (hwrite : ∀ v, write v ≠ .null)
    (h : f.withDefault name none (Reader.optional read) = some result) :
    (value = none ∧ result = none) ∨
      ∃ v w, value = some v ∧ result = some w ∧ read f.levels (write v) = some w := by
  unfold Json.Fields.withDefault at h
  rw [hget] at h
  cases value with
  | none => exact .inl ⟨rfl, (Option.some.inj h).symm⟩
  | some v =>
    rw [Option.map_some] at h
    dsimp only at h
    unfold Reader.optional at h
    split at h
    next heq => exact absurd heq (hwrite v)
    next =>
      obtain ⟨w, hw, rfl⟩ := Option.map_eq_some_iff.mp h
      exact .inr ⟨v, w, rfl, rfl, hw⟩

/-- What a check of metadata finds depends on the keys only. -/
lemma requireKeys_congr {p p' : Part} (hkind : p'.kind = p.kind)
    (hmeta : (p.metadata = none ∧ p'.metadata = none) ∨ ∃ fields fields',
      p.metadata = some fields ∧ p'.metadata = some fields' ∧
        ∀ key, Json.hasKey key fields' = Json.hasKey key fields) (keys : List String) :
    p'.requireKeys keys = p.requireKeys keys := by
  unfold requireKeys
  rcases hmeta with ⟨hnone, hnone'⟩ | ⟨fields, fields', hsome, hsome', hkeys⟩
  · simp only [hkind, hnone, hnone']
  · simp only [hkind, hsome, hsome', hkeys]

/-- A part that is read back lacks what it lacked when it was written. -/
theorem validate_of_read {levels : Nat} {p p' : Part}
    (h : read (levels + 1) p.toDocument = some p') : p'.validate = p.validate := by
  obtain ⟨hgetText, -, -, hgetMeta⟩ := p.get?_written levels
  simp only [read, fields?_toDocument, Option.bind_eq_bind, Option.bind_some,
    Option.bind_eq_some_iff, Option.pure_def, Option.some.injEq] at h
  obtain ⟨kind, hkind, text, htext, asset, -, filename, -, metadata, hmetadata, rfl⟩ := h
  obtain rfl : p.kind = kind := Option.some.inj ((PartKind.named?_name p.kind).symm.trans hkind)
  obtain rfl : p.text = text := by
    rcases of_withDefault_write hgetText (by simp [Document.text]) htext with
      ⟨hnone, rfl⟩ | ⟨s, s', hsome, rfl, hread⟩
    · exact hnone
    · exact hsome.trans hread
  have hkeys : ∀ keys, requireKeys ⟨p.kind, p.text, asset, filename, metadata⟩ keys =
      p.requireKeys keys := by
    refine requireKeys_congr rfl ?_
    rcases of_withDefault_write hgetMeta (by simp [Json.objectToDocument]) hmetadata with
      hnone | ⟨fields, fields', hsome, hsome', hread⟩
    · exact .inl hnone
    · exact .inr ⟨fields, fields', hsome, hsome', Json.hasKey_of_objectOfDocument? hread⟩
  simp only [validate, hkeys]

/-- Parts that are read back lack what they lacked when they were written. -/
lemma map_validate_of_read {levels : Nat} {parts parts' : List Part}
    (h : listReader (levels + 2) (listToDocument parts) = some parts') :
    parts'.map validate = parts.map validate := by
  change (parts.map toDocument).mapM (read (levels + 1)) = some parts' at h
  induction parts generalizing parts' with
  | nil =>
    obtain rfl := Option.some.inj h
    rfl
  | cons p rest ih =>
    rw [List.map_cons, List.mapM_cons] at h
    obtain ⟨p', hp', h⟩ := Option.bind_eq_some_iff.mp h
    obtain ⟨rest', hrest', h⟩ := Option.bind_eq_some_iff.mp h
    obtain rfl := Option.some.inj h
    rw [List.map_cons, List.map_cons, validate_of_read hp', ih hrest']

end Part

end Colloquy
