import Colloquy.Proofs.CommandLine.Reading
import Colloquy.Proofs.Service.Refusal
import Colloquy.Proofs.Store.Keeping

/-!
# Lines that change nothing

A command makes one call, or it makes a change and then looks up what it has changed
(`Command.calls?_cases`). One call that is refused changes nothing, and the lookup is never refused:
the changed row is stored, and what the command line stores it can read. So a line that fails has
changed nothing, and neither has a line that only reads (`Line.run_unchanged`).
-/

namespace Colloquy

/-! ### Calls that are refused -/

namespace Service

variable {service : Service} {fresh : Uuid} {now : Instant} {last : Reply} {e : ServiceError}

/-- One call that is refused changes nothing. -/
lemma unchanged_of_call {call : Call}
    (h : (service.performAll fresh now last [call]).2 = .error e) :
    (service.performAll fresh now last [call]).1 = service := by
  cases hperform : service.perform fresh now call with
  | error e => simp only [performAll, hperform]
  | ok result => simp [performAll, hperform] at h

/-- A change and a lookup that cannot be refused after it change nothing if one of them is refused.
-/
lemma unchanged_of_change {change look : Call}
    (hlook : ∀ after reply, service.perform fresh now change = .ok (after, reply) →
      ∃ result, after.perform fresh now look = .ok result)
    (h : (service.performAll fresh now last [change, look]).2 = .error e) :
    (service.performAll fresh now last [change, look]).1 = service := by
  cases hchange : service.perform fresh now change with
  | error e => simp only [performAll, hchange]
  | ok result =>
    obtain ⟨after, reply⟩ := result
    obtain ⟨result, hlook⟩ := hlook after reply hchange
    simp [performAll, hchange, hlook] at h

end Service

/-! ### Lookups of what was changed -/

namespace Store

variable {s s' : Store} {watched : Uuid → Prop} {id : Uuid}

/-- A stored space is found. -/
lemma Kept.exists_space (h : s.Kept watched) (hid : hasId (.ofUuid id) s.spaces = true) :
    ∃ space, s.space? id = .ok (some space) := by
  have hs := h.reachable.wellFormed
  obtain ⟨r, hr, hrow⟩ := hasId_eq_true_iff.mp hid
  obtain ⟨a, ha⟩ := SpaceRow.exists_read (hs.spaces.written r hr) (h.legible.spaces r hr)
  exact ⟨a, hs.spaces.find?_eq_ok_some_iff.mpr ⟨r, hr, hrow, ha⟩⟩

/-- A row that is changed is still there. -/
lemma hasId_of_updateWhere {ρ α : Type} [Row ρ α] {rows : List ρ} {change : ρ → ρ}
    (h : hasId (.ofUuid id) rows = true) (hid : ∀ r, Row.id (change r) = Row.id r) :
    hasId (.ofUuid id) (updateWhere id change rows) = true := by
  rw [hasId_updateWhere hid]
  exact h

end Store

namespace Service

variable {service after : Service} {fresh : Uuid} {now : Instant} {reply : Reply}
  {watched : Uuid → Prop} {id : Uuid}

/-- A call that carries out an operation that fits keeps the store readable. -/
lemma kept_of_perform {call : Call} {op : Store.Operation} (h : service.store.Kept watched)
    (hperform : service.perform fresh now call = .ok (after, reply))
    (hop : call.operation? fresh now = some op) (hfits : op.Fits watched) :
    after.store.Kept watched ∧ service.store.perform op = .ok after.store := by
  have hstore := (carries_of_perform hperform).store
  rw [hop] at hstore
  exact ⟨h.perform hfits hstore, hstore⟩

/-- A space that is stored can be looked up. -/
lemma exists_look_space (h : after.store.Kept watched)
    (hid : Store.hasId (.ofUuid id) after.store.spaces = true) :
    ∃ result, after.perform fresh now (.space id) = .ok result := by
  obtain ⟨space, hspace⟩ := h.exists_space hid
  exact ⟨_, bind_eq_ok_iff.mpr ⟨space, present_eq_ok_iff.mpr hspace, rfl⟩⟩

/-- A session that is stored can be looked up. -/
lemma exists_look_session (h : after.store.Kept watched)
    (hid : Store.hasId (.ofUuid id) after.store.sessions = true) :
    ∃ result, after.perform fresh now (.session id) = .ok result := by
  obtain ⟨session, hsession⟩ := h.exists_session hid
  exact ⟨_, bind_eq_ok_iff.mpr ⟨session, present_eq_ok_iff.mpr hsession, rfl⟩⟩

end Service

/-! ### Commands -/

namespace Command

variable {service : Service} {fresh : Uuid} {now : Instant} {project : Option Uuid}
  {command : Command} {calls : List Call}

/-- A command makes one call, or changes a record and looks it up. -/
lemma calls?_cases (h : command.calls? project = .ok calls) :
    (∃ call, calls = [call]) ∨
    (∃ id configs, Json.Fits Json.maxLevels (.object configs) ∧
      (calls = [.updateSpaceConfigs id configs, .space id] ∨
        calls = [.updateSessionConfigs id configs, .session id])) ∨
    ∃ id spaceId, calls = [.connectToSpace id spaceId, .session id] := by
  cases command with
  | createSpace configs | createSession _ configs =>
    obtain ⟨owner, -, h⟩ := bind_eq_ok_iff.mp h
    obtain ⟨fields, -, h⟩ := bind_eq_ok_iff.mp h
    exact .inl ⟨_, (Except.ok.inj h).symm⟩
  | configureSpace id configs =>
    obtain ⟨fields, hfields, h⟩ := bind_eq_ok_iff.mp h
    exact .inr (.inl ⟨id, fields, fits_of_objectOf hfields, .inl (Except.ok.inj h).symm⟩)
  | configureSession id configs =>
    obtain ⟨fields, hfields, h⟩ := bind_eq_ok_iff.mp h
    exact .inr (.inl ⟨id, fields, fits_of_objectOf hfields, .inr (Except.ok.inj h).symm⟩)
  | connectSession id spaceId => exact .inr (.inr ⟨id, spaceId, (Except.ok.inj h).symm⟩)
  | sendMessage id role texts parts metadata =>
    obtain ⟨sent, -, h⟩ := bind_eq_ok_iff.mp h
    obtain ⟨owner, -, h⟩ := bind_eq_ok_iff.mp h
    obtain ⟨fields, -, h⟩ := bind_eq_ok_iff.mp h
    exact .inl ⟨_, (Except.ok.inj h).symm⟩
  | addTask | createDisk | listSpaces | listSessions | listDisks =>
    obtain ⟨_, -, h⟩ := bind_eq_ok_iff.mp h
    exact .inl ⟨_, (Except.ok.inj h).symm⟩
  | _ => exact .inl ⟨_, (Except.ok.inj h).symm⟩

/-- A command that fails changes nothing. -/
lemma unchanged_of_error {watched : Uuid → Prop} (h : service.store.Kept watched)
    {e : CommandError} (herror : (command.run service fresh now project).2 = .error e) :
    (command.run service fresh now project).1 = service := by
  unfold run at herror ⊢
  cases hcalls : command.calls? project with
  | error e => rfl
  | ok calls =>
    rw [hcalls] at herror
    have hsame : ∀ e, (service.performAll fresh now .done calls).2 = .error e →
        (service.performAll fresh now .done calls).1 = service := by
      intro e
      rcases calls?_cases hcalls with ⟨call, rfl⟩ | ⟨id, configs, hfits, rfl | rfl⟩ |
        ⟨id, spaceId, rfl⟩
      · exact Service.unchanged_of_call
      · refine Service.unchanged_of_change fun after reply hperform => ?_
        obtain ⟨hkept, hop⟩ := Service.kept_of_perform h hperform rfl hfits
        obtain ⟨updatedAt, -, hid, hafter⟩ := Store.updateSpaceConfigs_eq_ok_iff.mp hop
        exact Service.exists_look_space hkept
          (hafter ▸ Store.hasId_of_updateWhere hid fun r => rfl)
      · refine Service.unchanged_of_change fun after reply hperform => ?_
        obtain ⟨hkept, hop⟩ := Service.kept_of_perform h hperform rfl hfits
        obtain ⟨updatedAt, -, hid, hafter⟩ := Store.updateSessionConfigs_eq_ok_iff.mp hop
        exact Service.exists_look_session hkept
          (hafter ▸ Store.hasId_of_updateWhere hid fun r => rfl)
      · refine Service.unchanged_of_change fun after reply hperform => ?_
        obtain ⟨hkept, hop⟩ := Service.kept_of_perform h hperform rfl trivial
        obtain ⟨space, updatedAt, -, -, hid, hafter⟩ := Store.connectSession_eq_ok_iff.mp hop
        exact Service.exists_look_session hkept
          (hafter ▸ Store.hasId_of_updateWhere hid fun r => rfl)
    dsimp only at herror ⊢
    rcases hall : service.performAll fresh now .done calls with ⟨after, e | reply⟩
    · rw [hall] at hsame
      exact hsame e rfl
    · simp [hall] at herror

/-- A command that only reads makes calls that carry out no operation. -/
lemma operation?_eq_none_of_reading (h : command.isReading = true)
    (hcalls : command.calls? project = .ok calls) :
    ∀ call ∈ calls, call.operation? fresh now = none := by
  cases command with
  | listSpaces | listSessions | listDisks =>
    obtain ⟨owner, -, hcalls⟩ := bind_eq_ok_iff.mp hcalls
    obtain rfl := Except.ok.inj hcalls
    exact List.forall_mem_singleton.mpr rfl
  | showSession | listMessages | countPendingMessages | listTasks | showLearningStatus =>
    obtain rfl := Except.ok.inj hcalls
    exact List.forall_mem_singleton.mpr rfl
  | _ => simp [isReading] at h

/-- A command that only reads changes nothing that is stored. -/
lemma unchanged_of_reading (h : command.isReading = true) :
    (command.run service fresh now project).1.store = service.store := by
  unfold run
  cases hcalls : command.calls? project with
  | error e => rfl
  | ok calls =>
    have hsame : (service.performAll fresh now .done calls).1.store = service.store := by
      refine Service.performAll_keeps (P := fun s => s = service.store) ?_ rfl
      intro call hcall op hop
      simp [operation?_eq_none_of_reading h hcalls call hcall] at hop
    dsimp only
    rcases hall : service.performAll fresh now .done calls with ⟨after, e | reply⟩
    · rwa [hall] at hsame
    · rwa [hall] at hsame

end Command

namespace Line

/-- Whatever lines have been run, a line that fails leaves what is stored as it was, and so does a
line that only reads, also if it succeeds. -/
theorem run_unchanged (lines : List Line) (l : Line) :
    let s := afterAll lines
    (∀ e, (l.run s).2 = .error e → (l.run s).1 = s) ∧ (l.OnlyReads → (l.run s).1 = s) := by
  intro s
  have hkept : s.Kept fun _ => False := kept_afterAll fun id hid => hid.elim
  unfold run Invocation.run
  cases hparse : CommandLine.parse l.words with
  | error e => exact ⟨fun _ _ => rfl, fun _ => rfl⟩
  | ok i =>
    dsimp only
    cases Config.load l.configFile with
    | error fault => exact ⟨fun _ _ => rfl, fun _ => rfl⟩
    | ok config =>
      dsimp only
      rw [Invocation.runWith_eq hkept.reachable]
      refine ⟨fun e herror => ?_, fun ⟨i', hparse', hreading⟩ => ?_⟩
      · obtain ⟨failure, hfailure, -⟩ := mapError_eq_error_iff.mp herror
        obtain ⟨refusal, hrefusal, -⟩ := mapError_eq_error_iff.mp hfailure
        exact congrArg Service.store (Command.unchanged_of_error hkept hrefusal)
      · obtain rfl := Except.ok.inj (hparse.symm.trans hparse')
        exact Command.unchanged_of_reading hreading

/-- A session that should be connected to a space that is not stored stays as it was. -/
theorem run_unchanged_unknown_space :
    let line (words : List String) (fresh : Nat) : Line :=
      { words, fresh := .ofNat fresh, now := .ofNanos ⟨0, by decide⟩ }
    let project := ["--project", "00000000-0000-0000-0000-000000000007"]
    let session := "00000000-0000-0000-0000-000000000001"
    let space := "00000000-0000-0000-0000-000000000009"
    let lines := [line (["session", "create"] ++ project) 1]
    let connect := line ["session", "connect", session, "--space", space] 2
    (connect.run (afterAll lines)).2 =
        .error (.run (.command (.service (.storage (.notFound .space (.ofNat 9)))))) ∧
      (connect.run (afterAll lines)).1 = afterAll lines := by
  intro line project session space lines connect
  have hfails : (connect.run (afterAll lines)).2 =
      .error (.run (.command (.service (.storage (.notFound .space (.ofNat 9)))))) := by
    decide +kernel
  exact ⟨hfails, (run_unchanged lines connect).1 _ hfails⟩

end Line

end Colloquy
