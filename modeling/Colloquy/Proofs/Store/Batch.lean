import Mathlib.Data.List.Dedup
import Colloquy.Proofs.Store.Reachable
import Colloquy.Store.Revision

/-!
# Batches of messages

Setting the status of a batch sets it in each stored message that is named, and leaves everything
else (`Store.withProcessStatus`), so what is stored afterwards depends only on which ids are in the
list. What is counted are not the messages that are set but the ids of the list that name one
(`Store.hits`): the two numbers are the same exactly if no stored message is named twice.
-/

namespace Colloquy.Store

variable {s : Store} {ids : List Uuid} {status : TaskStatus}

/-! ### The count of a batch -/

/-- In a table an id names one row if it names any. -/
lemma IsTable.countP_id {ρ α : Type} [Row ρ α] [Keyed α] [StoredRow ρ α] {rows : List ρ}
    (h : IsTable rows) (id : Cell) :
    (rows.countP fun r => Row.id r == id) = if hasId id rows then 1 else 0 := by
  have hcount : (rows.countP fun r => Row.id r == id) = (rows.map Row.id).count id := by
    rw [List.count, List.countP_map]
    rfl
  rw [hcount, h.nodup.count]
  refine if_congr ?_ rfl rfl
  rw [hasId_eq_true_iff, List.mem_map]

/-- A batch counts the ids that name a stored message. The induction is on the ids; the messages
that were set before keep their ids. -/
lemma count_of_batch (hs : IsTable s.messages) {change : MessageRow → MessageRow}
    (hid : ∀ r, (change r).id = r.id) (hwritten : ∀ r, Row.Written r → Row.Written (change r))
    (n : Nat) :
    (ids.foldl (fun (s, n) id =>
      ({ s with messages := updateWhere id change s.messages },
        n + s.messages.countP fun r => r.id == .ofUuid id)) (s, n)).2 = n + s.hits ids := by
  induction ids generalizing s n with
  | nil => rfl
  | cons id rest ih =>
    rw [List.foldl_cons, ih (hs.updateWhere id hid hwritten)]
    have hfirst : (s.messages.countP fun r => r.id == .ofUuid id) =
        if hasId (.ofUuid id) s.messages then 1 else 0 := hs.countP_id (.ofUuid id)
    have hrest : hits { s with messages := updateWhere id change s.messages } rest =
        s.hits rest := by
      unfold hits
      simp only [hasId_updateWhere hid]
    rw [hrest, hfirst, hits, hits, List.countP_cons]
    omega

/-- A batch whose time has a count is carried out. -/
lemma setProcessStatus_eq (hs : s.WellFormed) {now : Instant} {updatedAt : Cell}
    (hnow : Cell.ofInstant now = .ok updatedAt) (ids : List Uuid) (status : TaskStatus) :
    s.setProcessStatus now ids status =
      .ok (s.withProcessStatus ids status updatedAt, s.hits ids) := by
  obtain ⟨⟨s', n⟩, hset⟩ : ∃ result, s.setProcessStatus now ids status = .ok result := by
    unfold setProcessStatus
    rw [hnow, ok_bind_eq]
    exact ⟨_, rfl⟩
  obtain ⟨updatedAt', hnow', hstore⟩ := setProcessStatus_eq_ok hset
  obtain rfl := Except.ok.inj (hnow.symm.trans hnow')
  have hcount : n = s.hits ids := by
    unfold setProcessStatus at hset
    rw [hnow, ok_bind_eq] at hset
    rw [← Nat.zero_add (s.hits ids)]
    refine (congrArg Prod.snd (pure_eq_ok_iff.mp hset)).symm.trans ?_
    apply count_of_batch hs.messages
    · intro r
      rfl
    · intro r hr
      exact MessageRow.written_processStatus hr hnow status
  rw [hset, hstore, hcount, withProcessStatus]

/-! ### Ids that are repeated -/

/-- The ids of the messages that are named are the stored ids of the list without repetitions. -/
lemma perm_ids_namedBy (hs : IsTable s.messages) (ids : List Uuid) :
    ((s.namedBy ids).map MessageRow.id).Perm
      ((ids.filter fun id => hasId (.ofUuid id) s.messages).dedup.map Cell.ofUuid) := by
  have hnamed : ((s.namedBy ids).map MessageRow.id).Nodup :=
    hs.nodup.sublist (List.filter_sublist.map _)
  have hdedup : ((ids.filter fun id => hasId (.ofUuid id) s.messages).dedup.map
      Cell.ofUuid).Nodup :=
    (List.nodup_dedup _).map fun _ _ => Cell.ofUuid_injective
  rw [List.perm_ext_iff_of_nodup hnamed hdedup]
  intro cell
  simp only [namedBy, List.mem_map, List.mem_filter, List.mem_dedup, decide_eq_true_eq,
    hasId_eq_true_iff]
  constructor
  · rintro ⟨r, ⟨hr, id, hid, heq⟩, rfl⟩
    exact ⟨id, ⟨hid, r, hr, heq.symm⟩, heq⟩
  · rintro ⟨id, ⟨hid, r, hr, heq⟩, rfl⟩
    exact ⟨r, ⟨hr, id, hid, heq.symm⟩, heq⟩

/-- As many messages are named by a list as there are different stored ids in it. -/
lemma length_namedBy (hs : IsTable s.messages) (ids : List Uuid) :
    (s.namedBy ids).length = (ids.filter fun id => hasId (.ofUuid id) s.messages).dedup.length := by
  have hlength := (perm_ids_namedBy hs ids).length_eq
  rwa [List.length_map, List.length_map] at hlength

/-- At least as many ids are counted as messages are named. -/
lemma length_namedBy_le_hits (hs : IsTable s.messages) (ids : List Uuid) :
    (s.namedBy ids).length ≤ s.hits ids := by
  rw [length_namedBy hs, hits, List.countP_eq_length_filter]
  exact (List.dedup_sublist _).length_le

/-- As many ids are counted as messages are named exactly if no stored message is named twice. -/
lemma hits_eq_length_namedBy_iff (hs : IsTable s.messages) (ids : List Uuid) :
    s.hits ids = (s.namedBy ids).length ↔
      (ids.filter fun id => hasId (.ofUuid id) s.messages).Nodup := by
  rw [length_namedBy hs, hits, List.countP_eq_length_filter, ← List.dedup_eq_self]
  constructor
  · intro hlength
    exact (List.dedup_sublist _).eq_of_length hlength.symm
  · intro hsame
    rw [hsame]

/-- Setting the status of a batch, whatever the operations before. If its time has a count, the
batch sets the status of each stored message that is named and changes nothing else, the same for
each list of the same ids. It counts the ids that name a stored message, which are at least as many
as the messages that are set, and as many exactly if no stored message is named twice. -/
theorem setProcessStatus_run (ops : List Operation) (now : Instant) (ids : List Uuid)
    (status : TaskStatus) :
    let s := empty.run ops
    (∀ e, Cell.ofInstant now = .error e → s.setProcessStatus now ids status = .error e) ∧
      ∀ updatedAt, Cell.ofInstant now = .ok updatedAt →
        s.setProcessStatus now ids status =
            .ok (s.withProcessStatus ids status updatedAt, s.hits ids) ∧
          (∀ ids' : List Uuid, (∀ id, id ∈ ids' ↔ id ∈ ids) →
            s.withProcessStatus ids' status updatedAt = s.withProcessStatus ids status updatedAt) ∧
          (s.namedBy ids).length ≤ s.hits ids ∧
          (s.hits ids = (s.namedBy ids).length ↔
            (ids.filter fun id => hasId (.ofUuid id) s.messages).Nodup) := by
  intro s
  have hs : s.WellFormed := .run .empty ops
  constructor
  · intro e he
    exact bind_eq_error_iff.mpr (.inl he)
  · intro updatedAt hnow
    refine ⟨setProcessStatus_eq hs hnow ids status, ?_, length_namedBy_le_hits hs.messages ids,
      hits_eq_length_namedBy_iff hs.messages ids⟩
    intro ids' hsame
    have hcells : ∀ r : MessageRow, r.id ∈ ids'.map Cell.ofUuid ↔ r.id ∈ ids.map Cell.ofUuid := by
      intro r
      simp only [List.mem_map, hsame]
    simp only [withProcessStatus, hcells]

/-- A message that is named twice is set once and counted twice. -/
theorem setProcessStatus_counts_twice :
    let now : Instant := .ofNanos ⟨0, by decide⟩
    let message : Message := .new (.ofNat 2) now (.ofNat 1) .user [] []
    let s := empty.run [.createSession (.new (.ofNat 1) now (.ofNat 7) none []),
      .insertMessage message]
    let ids := [message.id, message.id]
    (s.setProcessStatus now ids .success).map (·.2) = .ok 2 ∧ (s.namedBy ids).length = 1 := by
  decide +kernel

end Colloquy.Store
