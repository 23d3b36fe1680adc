import Colloquy.Proofs.Store.Insertion
import Colloquy.Proofs.Store.Scope
import Colloquy.Store.Admission

/-!
# When a record is taken

What comes of giving a record to the store is one chain of conditions for all kinds of records
(`perform_insertion_eq`): a row is written unless a time has no count, and then the constraints are
checked in their order. So the store takes a record exactly if it `Admits` it, adds one row and
nothing else, and otherwise names the first obstacle and changes nothing (`insertion_run`).
-/

namespace Colloquy

/-! ### Times without a count -/

namespace Instant

/-- An instant has a count exactly if its nanoseconds since 1970 are a signed 64-bit integer. -/
lemma inInt64_iff_not_isUncounted {t : Instant} :
    Decimal.InInt64 t.toNanos ↔ t.isUncounted = false := by
  unfold isUncounted nanos?
  by_cases h : Decimal.InInt64 t.toNanos
  · simp [h]
  · simp [h]

end Instant

/-- An instant without a count has no cell. -/
lemma Cell.ofInstant_of_isUncounted {t : Instant} (h : t.isUncounted = true) :
    ofInstant t = .error (.timestamp t) := by
  rw [ofInstant, Option.isNone_iff_eq_none.mp h]

/-- An instant with a count has a cell. -/
lemma Cell.exists_ofInstant {t : Instant} (h : t.isUncounted = false) :
    ∃ c, ofInstant t = .ok c := by
  cases hcount : t.nanos? with
  | none => simp [Instant.isUncounted, hcount] at h
  | some n => exact ⟨.integer n, by rw [ofInstant, hcount]⟩

/-- A row with two times is not written if one of them has no count, and the first such is named. -/
lemma Cell.ofInstants_eq_error {ρ : Type} {t t' t₀ : Instant} (row : Cell → Cell → ρ)
    (h : [t, t'].find? Instant.isUncounted = some t₀) :
    (do return row (← ofInstant t) (← ofInstant t')) =
      (.error (.timestamp t₀) : Except StoreError ρ) := by
  by_cases hfirst : t.isUncounted = true
  · rw [List.find?_cons_of_pos hfirst] at h
    obtain rfl := Option.some.inj h
    rw [ofInstant_of_isUncounted hfirst]
    rfl
  · obtain ⟨c, hc⟩ := exists_ofInstant (Bool.eq_false_iff.mpr hfirst)
    rw [List.find?_cons_of_neg hfirst] at h
    obtain rfl : t' = t₀ := List.mem_singleton.mp (List.mem_of_find?_eq_some h) |>.symm
    rw [hc, ofInstant_of_isUncounted (List.find?_some h)]
    rfl

/-- Two times have cells if neither is without a count. -/
lemma Cell.exists_ofInstants {ρ : Type} {t t' : Instant} (row : Cell → Cell → ρ)
    (h : [t, t'].find? Instant.isUncounted = none) :
    ∃ r, (do return row (← ofInstant t) (← ofInstant t')) = (.ok r : Except StoreError ρ) := by
  rw [List.find?_eq_none] at h
  obtain ⟨c, hc⟩ := exists_ofInstant (Bool.eq_false_iff.mpr (h t (by simp)))
  obtain ⟨c', hc'⟩ := exists_ofInstant (Bool.eq_false_iff.mpr (h t' (by simp)))
  rw [hc, hc']
  exact ⟨row c c', rfl⟩

namespace Scope

variable {scope : Scope} {a : scope.Record}

/-- Writing a record fails with the first of its times that has no count. -/
lemma write_eq_error {t : Instant} (h : (scope.times a).find? Instant.isUncounted = some t) :
    StoredRow.write a = (.error (.timestamp t) : Except StoreError scope.TableRow) := by
  cases scope with
  | spaces => exact Cell.ofInstants_eq_error _ h
  | sessions => exact Cell.ofInstants_eq_error _ h
  | messages => exact Cell.ofInstants_eq_error _ h
  | tasks => exact Cell.ofInstants_eq_error _ h
  | disks => exact Cell.ofInstants_eq_error _ h

/-- A record whose times have counts can be written. -/
lemma exists_write (h : (scope.times a).find? Instant.isUncounted = none) :
    ∃ r : scope.TableRow, StoredRow.write a = .ok r := by
  cases scope with
  | spaces => exact Cell.exists_ofInstants _ h
  | sessions => exact Cell.exists_ofInstants _ h
  | messages => exact Cell.exists_ofInstants _ h
  | tasks => exact Cell.exists_ofInstants _ h
  | disks => exact Cell.exists_ofInstants _ h

end Scope

namespace Store

variable {s : Store}

/-! ### The constraints in their order -/

/-- A row is added under a new id, and then the rest is done. -/
lemma append_bind_eq {ρ α β : Type} [Row ρ α] {table : String} {r : ρ} {rows : List ρ}
    {f : List ρ → Except StoreError β} :
    (append table r rows >>= f) =
      if hasId (Row.id r) rows then .error (.violation (.unique table ["id"]))
      else f (rows ++ [r]) := by
  unfold append
  split <;> rfl

/-- A reference is checked, and then the rest is done. -/
lemma checkReference_bind_eq {ρ α β : Type} [Row ρ α] {reference : Cell} {rows : List ρ}
    {f : Unit → Except StoreError β} :
    (checkReference reference rows >>= f) =
      if dangles reference rows then .error (.violation .foreignKey) else f () := by
  unfold checkReference
  split <;> rfl

/-- A space is made if its id is new. -/
lemma createSpace_eq {space : Space} {row : SpaceRow} (h : space.toRow = .ok row) :
    s.createSpace space =
      if hasId (.ofUuid space.id) s.spaces then .error (.violation (.unique "spaces" ["id"]))
      else .ok { s with spaces := s.spaces ++ [row] } := by
  have hid : Row.id row = .ofUuid space.id := (Space.toRow_eq_ok_iff.mp h).1
  unfold createSpace
  rw [h, ok_bind_eq, append_bind_eq, hid]
  rfl

/-- A session is made if its id is new and its space is stored, in this order. -/
lemma createSession_eq {session : Session} {row : SessionRow} (h : session.toRow = .ok row) :
    s.createSession session =
      if hasId (.ofUuid session.id) s.sessions then .error (.violation (.unique "sessions" ["id"]))
      else if dangles (.ofUuid? session.spaceId) s.spaces then .error (.violation .foreignKey)
      else .ok { s with sessions := s.sessions ++ [row] } := by
  obtain ⟨hid, -, hspace, -⟩ := Session.toRow_eq_ok_iff.mp h
  have hid : Row.id row = .ofUuid session.id := hid
  unfold createSession
  rw [h, ok_bind_eq, append_bind_eq, hid]
  simp only [checkReference_bind_eq, hspace]
  rfl

/-- The parent that the store finds for a message is there, so only what the message names itself
can be missing. -/
lemma insertMessage_eq (hs : s.WellFormed) {message : Message} {row : MessageRow}
    {parentId : Option Uuid} (hparent : s.lastMessageId? message.sessionId = .ok parentId)
    (h : { message with parentId }.toRow = .ok row) :
    s.insertMessage message =
      if hasId (.ofUuid message.id) s.messages then .error (.violation (.unique "messages" ["id"]))
      else if dangles (.ofUuid message.sessionId) s.sessions ||
          dangles (.ofUuid? message.taskId) s.tasks then .error (.violation .foreignKey)
      else .ok ({ s with messages := s.messages ++ [row] }, { message with parentId }) := by
  obtain ⟨hid, hsession, hreply, -, -, -, htask, -⟩ := Message.toRow_eq_ok_iff.mp h
  have hid : Row.id row = .ofUuid message.id := hid
  have hfound : dangles row.parentId (s.messages ++ [row]) = false := by
    rw [hreply, hs.ofUuid?_lastMessageId? hparent]
    exact dangles_append (dangles_lastId _) _
  unfold insertMessage
  rw [hparent, ok_bind_eq]
  dsimp only
  rw [h, ok_bind_eq, append_bind_eq, hid]
  simp only [checkReference_bind_eq, hfound, hsession, htask, Bool.false_eq_true, if_false]
  cases dangles (.ofUuid message.sessionId) s.sessions <;> rfl

/-- A task is inserted if its place is free, its id is new and its session is stored, in this order.
-/
lemma insertTask_eq {task : Task} {row : TaskRow} (h : task.toRow = .ok row) :
    s.insertTask task =
      if s.tasks.any fun r =>
        r.sessionId == .ofUuid task.sessionId && r.order == .integer task.order
      then .error (.violation (.unique "tasks" ["session_id", "task_order"]))
      else if hasId (.ofUuid task.id) s.tasks then .error (.violation (.unique "tasks" ["id"]))
      else if dangles (.ofUuid task.sessionId) s.sessions then .error (.violation .foreignKey)
      else .ok { s with tasks := s.tasks ++ [row] } := by
  obtain ⟨hid, hsession, horder, -⟩ := Task.toRow_eq_ok_iff.mp h
  have hid : Row.id row = .ofUuid task.id := hid
  unfold insertTask
  rw [h, ok_bind_eq, append_bind_eq, hid]
  simp only [checkReference_bind_eq, hsession, horder]
  rfl

/-- A disk is made if its id is new. -/
lemma createDisk_eq {disk : Disk} {row : DiskRow} (h : disk.toRow = .ok row) :
    s.createDisk disk =
      if hasId (.ofUuid disk.id) s.disks then .error (.violation (.unique "disks" ["id"]))
      else .ok { s with disks := s.disks ++ [row] } := by
  have hid : Row.id row = .ofUuid disk.id := (Disk.toRow_eq_ok_iff.mp h).1
  unfold createDisk
  rw [h, ok_bind_eq, append_bind_eq, hid]
  rfl

variable {scope : Scope} {a : scope.Record}

/-- A record whose times have no count is refused for the first such time, whatever else. -/
lemma perform_insertion_of_uncounted (hs : s.WellFormed) {t : Instant}
    (h : (scope.times a).find? Instant.isUncounted = some t) :
    s.perform (scope.insertion a) = .error (.timestamp t) := by
  have hwrite := Scope.write_eq_error h
  cases scope with
  | spaces => exact bind_eq_error_iff.mpr (.inl hwrite)
  | sessions => exact bind_eq_error_iff.mpr (.inl hwrite)
  | messages sessionId =>
    -- the parent is looked up before the row is written
    obtain ⟨parentId, hparent⟩ := hs.exists_lastMessageId? (Message.sessionId a)
    have hwrite : Message.toRow { (a : Message) with parentId } = .error (.timestamp t) :=
      @Scope.write_eq_error (.messages sessionId) { (a : Message) with parentId } t h
    refine map_eq_error_iff.mpr (bind_eq_error_iff.mpr (.inr ⟨parentId, hparent, ?_⟩))
    exact bind_eq_error_iff.mpr (.inl hwrite)
  | tasks => exact bind_eq_error_iff.mpr (.inl hwrite)
  | disks => exact bind_eq_error_iff.mpr (.inl hwrite)

/-- A record whose times have counts is written into a row, which is added unless a constraint is
violated: places come first, then ids, and references last. -/
lemma perform_insertion_of_counted (hs : s.WellFormed)
    (h : (scope.times a).find? Instant.isUncounted = none) :
    ∃ kept row, s.chained scope a = .ok kept ∧ StoredRow.write kept = .ok row ∧
      s.perform (scope.insertion a) =
        if s.placeTaken scope a then
          .error (.violation (.unique "tasks" ["session_id", "task_order"]))
        else if hasId (.ofUuid (sortKey a).id) (s.table scope) then
          .error (.violation (.unique scope.tableName ["id"]))
        else if s.lacksReference scope a then .error (.violation .foreignKey)
        else .ok (s.withRow scope row) := by
  obtain ⟨row, hrow⟩ := Scope.exists_write h
  cases scope with
  | spaces => exact ⟨a, row, rfl, hrow, createSpace_eq hrow⟩
  | sessions => exact ⟨a, row, rfl, hrow, createSession_eq hrow⟩
  | messages sessionId =>
    obtain ⟨parentId, hparent⟩ := hs.exists_lastMessageId? (Message.sessionId a)
    let kept : Message := { (a : Message) with parentId }
    obtain ⟨row, hrow⟩ := @Scope.exists_write (.messages sessionId) kept h
    refine ⟨kept, row, map_eq_ok_iff.mpr ⟨parentId, hparent, rfl⟩, hrow, ?_⟩
    change (s.insertMessage a).map (·.1) = _
    rw [insertMessage_eq hs hparent hrow, apply_ite (Except.map _), apply_ite (Except.map _)]
    rfl
  | tasks => exact ⟨a, row, rfl, hrow, insertTask_eq hrow⟩
  | disks => exact ⟨a, row, rfl, hrow, createDisk_eq hrow⟩

/-! ### Records that are taken -/

/-- The check of places says whether the place of a record is free. -/
lemma placeTaken_eq_false_iff : s.placeTaken scope a = false ↔ s.HasPlace scope a := by
  cases scope with
  | tasks => simp [placeTaken, HasPlace]
  | _ => exact iff_of_true rfl trivial

/-- The reference to a record does not dangle exactly if the record is stored. -/
lemma dangles_ofUuid_eq_false_iff {ρ α : Type} [Row ρ α] {id : Uuid} {rows : List ρ} :
    dangles (.ofUuid id) rows = false ↔ ∃ r ∈ rows, Row.id r = .ofUuid id := by
  rw [dangles_eq_false_iff, imp_iff_right (Cell.ofUuid_ne_null id)]

/-- A reference that may be absent does not dangle exactly if its record is stored. -/
lemma dangles_ofUuid?_eq_false_iff {ρ α : Type} [Row ρ α] {id? : Option Uuid} {rows : List ρ} :
    dangles (.ofUuid? id?) rows = false ↔
      ∀ id, id? = some id → ∃ r ∈ rows, Row.id r = .ofUuid id := by
  cases id? with
  | none => simp
  | some id =>
    rw [Cell.ofUuid?_some, dangles_ofUuid_eq_false_iff]
    simp

/-- The check of references says whether what a record names is stored. -/
lemma lacksReference_eq_false_iff : s.lacksReference scope a = false ↔ s.Resolves scope a := by
  cases scope with
  | spaces => exact iff_of_true rfl trivial
  | sessions => exact dangles_ofUuid?_eq_false_iff
  | messages =>
    exact Bool.or_eq_false_iff.trans
      (and_congr dangles_ofUuid_eq_false_iff dangles_ofUuid?_eq_false_iff)
  | tasks => exact dangles_ofUuid_eq_false_iff
  | disks => exact iff_of_true rfl trivial

/-- A record is stored without an obstacle exactly if the store admits it. -/
lemma obstacle?_eq_none_iff : s.obstacle? scope a = none ↔ s.Admits scope a := by
  have hcounted : (scope.times a).find? Instant.isUncounted = none ↔
      ∀ t ∈ scope.times a, Decimal.InInt64 t.toNanos := by
    simp [Instant.inInt64_iff_not_isUncounted]
  unfold obstacle?
  constructor
  · intro h
    split at h
    next => simp at h
    next hnone =>
      split_ifs at h with hplace hid hreference
      rw [Bool.not_eq_true] at hplace hid hreference
      exact ⟨hcounted.mp hnone, placeTaken_eq_false_iff.mp hplace, hasId_eq_false_iff.mp hid,
        lacksReference_eq_false_iff.mp hreference⟩
  · intro h
    rw [hcounted.mpr h.counted]
    simp [placeTaken_eq_false_iff.mpr h.place, hasId_eq_false_iff.mpr h.fresh,
      lacksReference_eq_false_iff.mpr h.resolves]

/-- What comes of giving a record to the store. -/
lemma perform_insertion_eq (hs : s.WellFormed) (scope : Scope) (a : scope.Record) :
    match s.obstacle? scope a with
    | some e => s.perform (scope.insertion a) = .error e
    | none => ∃ kept row, s.chained scope a = .ok kept ∧ StoredRow.write kept = .ok row ∧
        s.perform (scope.insertion a) = .ok (s.withRow scope row) := by
  unfold obstacle?
  cases hfind : (scope.times a).find? Instant.isUncounted with
  | some t => exact perform_insertion_of_uncounted hs hfind
  | none =>
    obtain ⟨kept, row, hkept, hrow, hperform⟩ := perform_insertion_of_counted hs hfind
    rw [hperform]
    dsimp only
    by_cases hplace : s.placeTaken scope a = true
    · simp [hplace]
    by_cases hid : hasId (.ofUuid (sortKey a).id) (s.table scope) = true
    · simp [hplace, hid]
    by_cases hreference : s.lacksReference scope a = true
    · simp [hplace, hid, hreference]
    · simp only [hplace, hid, hreference]
      exact ⟨kept, row, hkept, hrow, rfl⟩

/-- A record that was taken is handed back as the store took it. -/
lemma chained_eq_handedBack {s' : Store} (h : s.perform (scope.insertion a) = .ok s') :
    s.chained scope a = .ok (s.handedBack scope a) := by
  cases scope with
  | messages =>
    obtain ⟨⟨s', kept⟩, hinsert, -⟩ := map_eq_ok_iff.mp h
    obtain ⟨parentId, -, hparent, rfl, -⟩ := insertMessage_eq_ok_iff.mp hinsert
    refine map_eq_ok_iff.mpr ⟨parentId, hparent, ?_⟩
    simp only [handedBack, hinsert]
    rfl
  | _ => rfl

/-- A record that was refused is handed back as it was. -/
lemma handedBack_of_error {e : StoreError} (h : s.perform (scope.insertion a) = .error e) :
    s.handedBack scope a = a := by
  cases scope with
  | messages =>
    have hinsert : s.insertMessage a = .error e := map_eq_error_iff.mp h
    simp only [handedBack, hinsert]
  | _ => rfl

/-- A session under a new id cannot be connected to a space that is not stored. -/
example :
    let now : Instant := .ofNanos ⟨0, by decide⟩
    let session : Session := .new (.ofNat 1) now (.ofNat 7) (some (.ofNat 2)) []
    empty.obstacle? (.sessions (.ofNat 7) .all) session = some (.violation .foreignKey) := by
  decide +kernel

end Store

end Colloquy
