import Colloquy.Proofs.Store.Row

/-!
# The order of stored keys

Records are ordered by their instants and identifiers, rows by counts of nanoseconds and by texts.
For instants that are made from counts the two orders are one (`SortKey.compare_stored`): a text
is compared by its bytes, which are hexadecimal digits and hyphens at fixed places, and so it stands
where the 16 bytes of the identifier stand.
-/

namespace Colloquy

/-- Texts of ASCII characters have bytes that are ordered like the characters. -/
lemma Text.compare_utf8_ofList {cs ds : List Char} (hcs : ∀ c ∈ cs, c.toNat < 128)
    (hds : ∀ d ∈ ds, d.toNat < 128) :
    compare (utf8 (.ofList cs)) (utf8 (.ofList ds)) = compare cs ds := by
  rw [Base64Url.utf8_ofList hcs, Base64Url.utf8_ofList hds]
  -- the lists are compared place by place, and a place holds a character or its byte
  induction cs generalizing ds with
  | nil => cases ds <;> rfl
  | cons c cs ih =>
    cases ds with
    | nil => rfl
    | cons d ds =>
      have hc : c.toNat < 128 := hcs c List.mem_cons_self
      have hd : d.toNat < 128 := hds d List.mem_cons_self
      have hhead : compare (Base64Url.byteOf c) (Base64Url.byteOf d) = compare c d := by
        change compareOfLessAndEq (Base64Url.byteOf c) (Base64Url.byteOf d) =
          compareOfLessAndEq c d
        simp only [compareOfLessAndEq, UInt8.lt_iff_toNat_lt, ← UInt8.toNat_inj,
          Base64Url.toNat_byteOf hc, Base64Url.toNat_byteOf hd, Char.lt_def,
          UInt32.lt_iff_toNat_lt, Char.ext_iff, ← UInt32.toNat_inj]
        rfl
      have htail := ih (fun e he => hcs e (List.mem_cons_of_mem c he))
        (fun e he => hds e (List.mem_cons_of_mem d he))
      simp only [List.compare_eq_compareLex, List.map_cons, List.compareLex_cons_cons] at htail ⊢
      rw [hhead, htail]

/-- The bytes of the texts of identifiers are ordered like the identifiers. -/
theorem Uuid.compare_utf8_text (a b : Uuid) :
    compare (Text.utf8 a.text) (Text.utf8 b.text) = compare a b := by
  have hascii : ∀ id : Uuid, ∀ c ∈ id.chars, c.toNat < 128 := fun _ _ hc =>
    toNat_lt_of_mem_chars hc
  rw [text, text, Text.compare_utf8_ofList (hascii a) (hascii b), ← compare_ofList, ← text, ← text,
    compare_text]

/-- Keys whose instants are made from counts of nanoseconds are ordered by these counts and then by
the bytes of the texts of their identifiers, which is how the cells that hold them are ordered:
the order of such instants is that of the counts, and the order of the texts that of the bytes of
the identifiers. -/
theorem SortKey.compare_stored (m n : Decimal.Int64) (a b : Uuid) :
    compare (⟨.ofNanos m, a⟩ : SortKey) ⟨.ofNanos n, b⟩ =
        (compare m.1 n.1).then (compare (Text.utf8 a.text) (Text.utf8 b.text)) ∧
      (∃ c d, Cell.ofInstant (.ofNanos m) = .ok c ∧ Cell.ofInstant (.ofNanos n) = .ok d ∧
        compare (⟨.ofNanos m, a⟩ : SortKey) ⟨.ofNanos n, b⟩ =
          (c.order d).then ((Cell.ofUuid a).order (.ofUuid b))) ∧
      (Instant.ofNanos m).nanos? = some m.1 ∧
      compare (Instant.ofNanos m) (.ofNanos n) = compare m.1 n.1 ∧
      compare (Text.utf8 a.text) (Text.utf8 b.text) = compare a.bytes b.bytes := by
  have hkey : compare (⟨.ofNanos m, a⟩ : SortKey) ⟨.ofNanos n, b⟩ =
      (compare (Instant.ofNanos m) (.ofNanos n)).then (compare a b) := rfl
  have hcell : ∀ n : Decimal.Int64, Cell.ofInstant (.ofNanos n) = .ok (.integer n.1) := by
    intro n
    exact Cell.ofInstant_eq_ok_iff.mpr ⟨n, Instant.nanos?_ofNanos n, rfl⟩
  refine ⟨?_, ⟨_, _, hcell m, hcell n, ?_⟩, Instant.nanos?_ofNanos m, Instant.compare_ofNanos m n,
    ?_⟩
  · rw [hkey, Instant.compare_ofNanos, Uuid.compare_utf8_text]
  · rw [hkey, Instant.compare_ofNanos, ← Uuid.compare_text]
    rfl
  · rw [Uuid.compare_utf8_text, Uuid.compare_bytes]

end Colloquy
