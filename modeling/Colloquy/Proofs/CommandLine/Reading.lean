import Colloquy.CommandLine.Line
import Colloquy.Proofs.Service.Operation
import Colloquy.Proofs.Store.Legible

/-!
# What the command line stores it can read

Every JSON text that the command line stores was read before with all levels that reading has, so
what a line stores can be read again (`Line.legible_run`), with one exception: a part is read alone
but stored in the array of the parts of its message, and there it has a level less. If no part that
was sent to a session needs its last level, nothing stands in the way of the lines that show or list
what is stored (`Line.run_reads`).
-/

namespace Colloquy

open Json (Reader)

variable {s s' : Store} {watched : Uuid → Prop}

/-! ### What commands store -/

/-- A part is read from the text that it is written as. -/
lemma Part.ofText?_compact {p : Part} {levels : Nat} (h : p.Fits levels) :
    ofText? (levels + 1) p.toDocument.compact = some p.reread :=
  (Json.ofString?_compact_bind p.toDocument_wellFormed _).trans (read_toDocument h)

namespace Command

/-- A free object that was given as a text fits. -/
lemma fits_of_objectOf {text? : Option String} {fields : JsonObject}
    (h : objectOf text? = .ok fields) : Json.Fits Json.maxLevels (.object fields) := by
  cases text? with
  | none =>
    obtain rfl := Except.ok.inj h
    exact ⟨trivial, List.Pairwise.nil⟩
  | some text =>
    unfold objectOf at h
    dsimp only at h
    split at h
    next fields' hread =>
      obtain rfl := Except.ok.inj h
      obtain ⟨d, -, hread⟩ := Option.bind_eq_some_iff.mp hread
      exact Json.fits_of_objectOfDocument? hread
    next => simp at h

/-- A part that is read alone fits into an array, if it does not need its last level. -/
lemma fits_of_partsOf {number : Nat} {texts : List String} {parts : List Part}
    (h : partsOf number texts = .ok parts)
    (hfits : ∀ text ∈ texts,
      Part.ofText? (Json.maxLevels - 1) text = Part.ofText? Json.maxLevels text) :
    ∀ p ∈ parts, p.Fits (Json.maxLevels - 2) := by
  induction texts generalizing number parts with
  | nil =>
    obtain rfl := Except.ok.inj h
    simp
  | cons text rest ih =>
    unfold partsOf at h
    split at h
    next part hread =>
      obtain ⟨more, hmore, h⟩ := bind_eq_ok_iff.mp h
      obtain rfl := pure_eq_ok_iff.mp h
      have hlevel := (hfits text List.mem_cons_self).trans hread
      obtain ⟨d, -, hlevel⟩ := Option.bind_eq_some_iff.mp hlevel
      refine List.forall_mem_cons.mpr ⟨Part.fits_of_read hlevel, ?_⟩
      exact ih hmore fun text htext => hfits text (List.mem_cons_of_mem _ htext)
    next => simp at h

/-- What a command stores fits the levels that reading has, if this is so of the parts that it
sends. -/
lemma fits_of_calls? {project : Option Uuid} {command : Command} {calls : List Call}
    (h : command.calls? project = .ok calls) {fresh : Uuid} {now : Instant}
    (hparts : ∀ id role texts parts metadata,
      command = .sendMessage id role texts parts metadata → watched id → ∀ text ∈ parts,
        Part.ofText? (Json.maxLevels - 1) text = Part.ofText? Json.maxLevels text) :
    ∀ call ∈ calls, ∀ op, call.operation? fresh now = some op → op.Fits watched := by
  have hread : ∀ {call : Call}, call.operation? fresh now = none →
      ∀ op, call.operation? fresh now = some op → op.Fits watched := by
    intro call hnone op hop
    simp [hnone] at hop
  have hwrite : ∀ {call : Call} {op : Store.Operation}, call.operation? fresh now = some op →
      op.Fits watched → ∀ op, call.operation? fresh now = some op → op.Fits watched := by
    intro call op hop hfits op' hop'
    exact Option.some.inj (hop.symm.trans hop') ▸ hfits
  cases command with
  | createSpace configs | createSession _ configs =>
    obtain ⟨owner, -, h⟩ := bind_eq_ok_iff.mp h
    obtain ⟨fields, hfields, h⟩ := bind_eq_ok_iff.mp h
    obtain rfl := Except.ok.inj h
    exact List.forall_mem_singleton.mpr (hwrite rfl (fits_of_objectOf hfields))
  | configureSpace id configs | configureSession id configs =>
    obtain ⟨fields, hfields, h⟩ := bind_eq_ok_iff.mp h
    obtain rfl := Except.ok.inj h
    exact List.forall_mem_cons.mpr ⟨hwrite rfl (fits_of_objectOf hfields),
      List.forall_mem_singleton.mpr (hread rfl)⟩
  | sendMessage id role texts parts metadata =>
    obtain ⟨sent, hsent, h⟩ := bind_eq_ok_iff.mp h
    obtain ⟨owner, -, h⟩ := bind_eq_ok_iff.mp h
    obtain ⟨fields, hfields, h⟩ := bind_eq_ok_iff.mp h
    obtain rfl := Except.ok.inj h
    refine List.forall_mem_singleton.mpr (hwrite rfl fun hid => ⟨fits_of_objectOf hfields, ?_⟩)
    intro p hp
    rcases List.mem_append.mp hp with hp | hp
    · obtain ⟨text, -, rfl⟩ := List.mem_map.mp hp
      exact Part.fits_ofText text _
    · exact fits_of_partsOf hsent (hparts id role texts parts metadata rfl hid) p hp
  | addTask id order data =>
    obtain ⟨fields, hfields, h⟩ := bind_eq_ok_iff.mp h
    obtain rfl := Except.ok.inj h
    exact List.forall_mem_singleton.mpr (hwrite rfl (fits_of_objectOf hfields))
  | connectSession id spaceId =>
    obtain rfl := Except.ok.inj h
    exact List.forall_mem_cons.mpr ⟨hwrite rfl trivial, List.forall_mem_singleton.mpr (hread rfl)⟩
  | createDisk =>
    obtain ⟨owner, -, h⟩ := bind_eq_ok_iff.mp h
    obtain rfl := Except.ok.inj h
    exact List.forall_mem_singleton.mpr (hwrite rfl trivial)
  | deleteSpace | deleteSession | deleteDisk | setMessageStatus | setTaskStatus
  | markTaskDigested =>
    obtain rfl := Except.ok.inj h
    exact List.forall_mem_singleton.mpr (hwrite rfl trivial)
  | listSpaces | listSessions | listDisks =>
    obtain ⟨owner, -, h⟩ := bind_eq_ok_iff.mp h
    obtain rfl := Except.ok.inj h
    exact List.forall_mem_singleton.mpr (hread rfl)
  | showSession | listMessages | countPendingMessages | listTasks | showLearningStatus =>
    obtain rfl := Except.ok.inj h
    exact List.forall_mem_singleton.mpr (hread rfl)

end Command

/-! ### What lines store -/

/-- What holds of a store and is kept by the operations of calls is kept by carrying out the calls,
also if one of them fails. -/
lemma Service.performAll_keeps {P : Store → Prop} {fresh : Uuid} {now : Instant} {calls : List Call}
    (hstep : ∀ call ∈ calls, ∀ op, call.operation? fresh now = some op → ∀ s s' : Store, P s →
      s.perform op = .ok s' → P s') {service : Service} {last : Reply} (h : P service.store) :
    P (service.performAll fresh now last calls).1.store := by
  induction calls generalizing service last with
  | nil => exact h
  | cons call rest ih =>
    rw [performAll]
    cases hperform : service.perform fresh now call with
    | error e => exact h
    | ok result =>
      obtain ⟨service', reply⟩ := result
      refine ih (fun call hcall => hstep call (List.mem_cons_of_mem _ hcall)) ?_
      have hstore := (carries_of_perform hperform).store
      cases hop : call.operation? fresh now with
      | none =>
        rw [hop] at hstore
        exact hstore ▸ h
      | some op =>
        rw [hop] at hstore
        exact hstep call List.mem_cons_self op hop _ _ h hstore

/-- What holds of stored data between lines: operations led to it, and its rows can be read. -/
structure Store.Kept (watched : Uuid → Prop) (s : Store) : Prop where
  reachable : s.Reachable
  legible : s.Legible watched

/-- An operation that fits keeps the store readable. -/
lemma Store.Kept.perform (h : s.Kept watched) {op : Store.Operation} (hfits : op.Fits watched)
    (hop : s.perform op = .ok s') : s'.Kept watched :=
  ⟨h.reachable.perform hop, h.legible.perform h.reachable.wellFormed hfits hop⟩

/-- Stored data can be read after a command whose parts do not need their last level. -/
lemma Command.kept_run {service : Service} {fresh : Uuid} {now : Instant} {project : Option Uuid}
    {command : Command} (h : service.store.Kept watched)
    (hparts : ∀ id role texts parts metadata,
      command = .sendMessage id role texts parts metadata → watched id → ∀ text ∈ parts,
        Part.ofText? (Json.maxLevels - 1) text = Part.ofText? Json.maxLevels text) :
    (command.run service fresh now project).1.store.Kept watched := by
  unfold run
  cases hcalls : command.calls? project with
  | error e => exact h
  | ok calls =>
    have hkept : (service.performAll fresh now .done calls).1.store.Kept watched :=
      Service.performAll_keeps (P := Store.Kept watched)
        (fun call hcall op hop s s' hs hperform =>
          hs.perform (fits_of_calls? hcalls hparts call hcall op hop) hperform) h
    dsimp only
    rcases hall : service.performAll fresh now .done calls with ⟨after, e | reply⟩
    · rwa [hall] at hkept
    · rwa [hall] at hkept

/-- Stored data that operations led to is up to date, so that a line only carries out its command.
-/
lemma Invocation.runWith_eq (h : s.Reachable) {i : Invocation} {config : Config} {fresh : Uuid}
    {now : Instant} :
    i.runWith config s fresh now =
      let result := i.command.run { store := s, limits := config.paging } fresh now
        (i.project.or config.projectId)
      (result.1.store, result.2.mapError .command) := by
  unfold runWith
  rw [h.migrate_eq]

namespace Line

/-- A line that stands for one call prints what the call is answered. -/
lemma run_of_perform {l : Line} {i : Invocation} {config : Config} {call : Call} {service : Service}
    {reply : Reply} (h : s.Reachable) (hparse : CommandLine.parse l.words = .ok i)
    (hconfig : Config.load l.configFile = .ok config)
    (hcalls : i.command.calls? (i.project.or config.projectId) = .ok [call])
    (hperform : Service.perform { store := s, limits := config.paging } l.fresh l.now call =
      .ok (service, reply)) :
    l.run s = (service.store, .ok (Command.printed reply)) := by
  unfold run Invocation.run
  rw [hparse, hconfig]
  dsimp only
  rw [Invocation.runWith_eq h]
  simp only [Command.run, hcalls, Service.performAll, hperform]
  rfl

/-- Stored data can be read after a line whose parts do not need their last level. -/
lemma kept_run {l : Line} (h : s.Kept watched)
    (hparts : ∀ id, watched id → ∀ text ∈ l.partsTo id,
      Part.ofText? (Json.maxLevels - 1) text = Part.ofText? Json.maxLevels text) :
    (l.run s).1.Kept watched := by
  unfold run
  cases hparse : CommandLine.parse l.words with
  | error e => exact h
  | ok i =>
    change (i.run l.configFile s l.fresh l.now).1.Kept watched
    unfold Invocation.run
    cases Config.load l.configFile with
    | error fault => exact h
    | ok config =>
      dsimp only
      rw [Invocation.runWith_eq h.reachable]
      refine Command.kept_run h fun id role texts parts metadata hcommand hid text htext => ?_
      refine hparts id hid text ?_
      unfold partsTo
      rw [hparse]
      dsimp only
      rw [hcommand]
      dsimp only
      rwa [if_pos rfl]

/-- The stored data after one more line. -/
lemma afterAll_concat (lines : List Line) (l : Line) :
    afterAll (lines ++ [l]) = (l.run (afterAll lines)).1 :=
  List.foldl_concat _ _ _ _

/-- Stored data can be read after lines one after another. -/
lemma kept_afterAll {lines : List Line}
    (hparts : ∀ id, watched id → ∀ l ∈ lines, ∀ text ∈ l.partsTo id,
      Part.ofText? (Json.maxLevels - 1) text = Part.ofText? Json.maxLevels text) :
    (afterAll lines).Kept watched := by
  have hfold : ∀ {s : Store}, s.Kept watched →
      (lines.foldl (fun s l => (l.run s).1) s).Kept watched := by
    induction lines with
    | nil => exact id
    | cons l rest ih =>
      intro s hs
      exact ih (fun id hid l hl => hparts id hid l (List.mem_cons_of_mem _ hl))
        (kept_run hs fun id hid => hparts id hid l List.mem_cons_self)
  exact hfold ⟨⟨[], rfl⟩, .empty⟩

end Line

/-! ### What lines read -/

namespace Store

/-- A page of rows that can be read is given. -/
lemma Kept.exists_list (h : s.Kept watched) {scope : Scope}
    (hscope : ∀ id, scope = .messages id → watched id) {request : PageRequest}
    {limits : PagingLimits} {q : KeysetQuery} (hq : request.resolve limits = .ok q) :
    ∃ page, s.list scope q = .ok page := by
  have hs := h.reachable.wellFormed
  obtain ⟨hcounted, -⟩ := PageRequest.resolve_eq_ok hq
  obtain ⟨records, hrecords⟩ := Listing.exists_reads (h.legible.exists_read hs hscope)
  obtain ⟨page, -, hpage⟩ := Listing.page_eq_assemble_select hrecords (hs.rows scope).written
    hcounted
  exact ⟨page, (list_eq_page s scope q).trans hpage⟩

/-- A stored session is found. -/
lemma Kept.exists_session (h : s.Kept watched) {id : Uuid}
    (hid : hasId (.ofUuid id) s.sessions = true) :
    ∃ session, s.session? id = .ok (some session) := by
  have hs := h.reachable.wellFormed
  obtain ⟨r, hr, hrow⟩ := hasId_eq_true_iff.mp hid
  obtain ⟨a, ha⟩ := SessionRow.exists_read (hs.sessions.written r hr) (h.legible.sessions r hr)
  exact ⟨a, hs.sessions.find?_eq_ok_some_iff.mpr ⟨r, hr, hrow, ha⟩⟩

end Store

namespace Command

variable {service : Service} {fresh : Uuid} {now : Instant} {project : Option Uuid}
  {command : Command}

/-- A command that stands for one call succeeds, if the call is answered. -/
lemma run_of_perform {call : Call} {reply : Reply} (hcalls : command.calls? project = .ok [call])
    (hperform : service.perform fresh now call = .ok (service, reply)) :
    ∃ output, (command.run service fresh now project).2 = .ok output := by
  have hall : service.performAll fresh now .done [call] = (service, .ok reply) := by
    simp only [Service.performAll, hperform]
  unfold run
  simp only [hcalls, hall]
  exact ⟨_, rfl⟩

/-- A command that reads what is stored succeeds, if what it reads can be read. -/
lemma exists_output (h : service.store.Kept watched)
    (hreads : command.Reads service.limits project service.store)
    (hwatched : ∀ id page, command = .listMessages id page → watched id) :
    ∃ output, (command.run service fresh now project).2 = .ok output := by
  have hlist : ∀ (scope : Scope) {page : PageRequest}, page.Accepted service.limits →
      (∀ id, scope = .messages id → watched id) → ∃ result : Page scope.Record,
        (service.resolve page >>= fun q => Service.stored (service.store.list scope q)) =
          .ok result := by
    intro scope page ⟨q, hq⟩ hscope
    obtain ⟨result, hresult⟩ := h.exists_list hscope hq
    refine ⟨result, bind_eq_ok_iff.mpr ⟨q, ?_, Service.stored_eq_ok_iff.mpr hresult⟩⟩
    rw [Service.resolve, hq]
    rfl
  cases command with
  | listSpaces page =>
    obtain ⟨hproject, hpage⟩ := hreads
    obtain ⟨owner, rfl⟩ := Option.ne_none_iff_exists'.mp hproject
    obtain ⟨result, hresult⟩ := hlist (.spaces owner) hpage (by simp)
    exact run_of_perform rfl (bind_eq_ok_iff.mpr ⟨result, hresult, rfl⟩)
  | listSessions filter page =>
    obtain ⟨hproject, hpage⟩ := hreads
    obtain ⟨owner, rfl⟩ := Option.ne_none_iff_exists'.mp hproject
    obtain ⟨result, hresult⟩ := hlist (.sessions owner filter) hpage (by simp)
    exact run_of_perform rfl (bind_eq_ok_iff.mpr ⟨result, hresult, rfl⟩)
  | showSession id =>
    obtain ⟨session, hfound⟩ := h.exists_session hreads
    have hanswer : service.session id = .ok session := by
      rw [Service.session, Service.present, hfound]
      rfl
    exact run_of_perform rfl (bind_eq_ok_iff.mpr ⟨session, hanswer, rfl⟩)
  | listMessages id page =>
    obtain ⟨result, hresult⟩ := hlist (.messages id) hreads
      fun id' hid => Scope.messages.inj hid ▸ hwatched id page rfl
    exact run_of_perform rfl (bind_eq_ok_iff.mpr ⟨result, hresult, rfl⟩)
  | listTasks id page =>
    obtain ⟨result, hresult⟩ := hlist (.tasks id) hreads (by simp)
    exact run_of_perform rfl (bind_eq_ok_iff.mpr ⟨result, hresult, rfl⟩)
  | listDisks page =>
    obtain ⟨hproject, hpage⟩ := hreads
    obtain ⟨owner, rfl⟩ := Option.ne_none_iff_exists'.mp hproject
    obtain ⟨result, hresult⟩ := hlist (.disks owner) hpage (by simp)
    exact run_of_perform rfl (bind_eq_ok_iff.mpr ⟨result, hresult, rfl⟩)
  | countPendingMessages id | showLearningStatus id => exact run_of_perform rfl rfl
  | _ => exact hreads.elim

end Command

namespace Line

/-- Whatever lines have been run, a line that shows or lists what is stored succeeds, but for one
case: it lists the messages of a session, and some line sent a part to that session that cannot be
read with a level less. -/
theorem run_reads {lines : List Line} {l : Line} (hreads : l.Reads (afterAll lines))
    (hparts : ∀ sessionId, l.ListsMessages sessionId → ∀ sent ∈ lines,
      ∀ text ∈ sent.partsTo sessionId,
        Part.ofText? (Json.maxLevels - 1) text = Part.ofText? Json.maxLevels text) :
    ∃ output, (l.run (afterAll lines)).2 = .ok output := by
  obtain ⟨i, config, hparse, hconfig, hreads⟩ := hreads
  have hkept : (afterAll lines).Kept l.ListsMessages := kept_afterAll hparts
  let service : Service := { store := afterAll lines, limits := config.paging }
  obtain ⟨output, houtput⟩ : ∃ output, (i.command.run service l.fresh l.now
      (i.project.or config.projectId)).2 = .ok output :=
    Command.exists_output hkept hreads fun id page hcommand => ⟨i, page, hparse, hcommand⟩
  refine ⟨output, ?_⟩
  unfold run Invocation.run
  rw [hparse, hconfig]
  dsimp only
  rw [Invocation.runWith_eq hkept.reachable]
  dsimp only
  rw [houtput]
  rfl

/-- A message with a part that nests little is listed. -/
theorem run_reads_shallow_part :
    let line (words : List String) (fresh : Nat) : Line :=
      { words, fresh := .ofNat fresh, now := .ofNanos ⟨0, by decide⟩ }
    let project := ["--project", "00000000-0000-0000-0000-000000000007"]
    let session := "00000000-0000-0000-0000-000000000001"
    let part := "\x7b\"type\":\"text\",\"text\":\"hello\"\x7d"
    let lines := [line (["session", "create"] ++ project) 1,
      line (["message", "send", session, "--part", part] ++ project) 2]
    let list := line ["message", "list", session] 3
    list.ListsMessages (.ofNat 1) ∧ ∃ output, (list.run (afterAll lines)).2 = .ok output := by
  intro line project session part lines list
  have hlist : CommandLine.parse list.words =
      .ok ⟨none, none, none, false, .listMessages (.ofNat 1) { timeDesc := some true }⟩ := by
    decide +kernel
  have hpart : part = (Part.ofText "hello").toDocument.compact := by decide +kernel
  have hread : ∀ levels, Part.ofText? (levels + 1) part = some (Part.ofText "hello").reread :=
    fun levels => hpart ▸ Part.ofText?_compact (Part.fits_ofText _ levels)
  have hparts : ∀ sessionId, list.ListsMessages sessionId → ∀ sent ∈ lines,
      ∀ text ∈ sent.partsTo sessionId,
        Part.ofText? (Json.maxLevels - 1) text = Part.ofText? Json.maxLevels text := by
    rintro sessionId ⟨i, page, hparse, hcommand⟩
    obtain rfl := Except.ok.inj (hlist.symm.trans hparse)
    obtain ⟨rfl, -⟩ := Command.listMessages.inj hcommand
    have htexts : ∀ sent ∈ lines, ∀ text ∈ sent.partsTo (.ofNat 1), text = part := by
      decide +kernel
    intro sent hsent text htext
    rw [htexts sent hsent text htext]
    exact (hread 125).trans (hread 126).symm
  exact ⟨⟨_, _, hlist, rfl⟩, run_reads ⟨_, {}, hlist, rfl, _, rfl⟩ hparts⟩

/-- A part with all levels that reading has is stored, and the message that it stands in cannot be
listed. -/
theorem deep_part_not_listed :
    let line (words : List String) (fresh : Nat) : Line :=
      { words, fresh := .ofNat fresh, now := .ofNanos ⟨0, by decide⟩ }
    let project := ["--project", "00000000-0000-0000-0000-000000000007"]
    let session := "00000000-0000-0000-0000-000000000001"
    let nested := String.ofList (List.replicate 125 '[' ++ List.replicate 125 ']')
    let part := "\x7b\"type\":\"text\",\"text\":\"x\",\"meta\":\x7b\"a\":" ++ nested ++ "\x7d\x7d"
    let create := line (["session", "create"] ++ project) 1
    let send := line (["message", "send", session, "--part", part] ++ project) 2
    let list := line ["message", "list", session] 3
    (send.run (afterAll [create])).2.isOk = true ∧ list.Reads (afterAll [create, send]) ∧
      (list.run (afterAll [create, send])).2 =
        .error (.run (.command (.service (.storage (.unreadable ⟨5, .conversion⟩))))) := by
  intro line project session nested part create send list
  let stored : Store := { afterAll [create] with
    messages := [{
      id := .ofUuid (.ofNat 2), sessionId := .ofUuid (.ofNat 1), parentId := .null
      role := .text "user", metadata := .text "\x7b\x7d", parts := .text ("[" ++ part ++ "]")
      taskId := .null, processStatus := .text "pending"
      createdAt := .integer 0, updatedAt := .integer 0 }] }
  have hsend : (send.run (afterAll [create])).2.isOk = true ∧
      (send.run (afterAll [create])).1 = stored := by
    decide +kernel
  have hstored : afterAll [create, send] = stored :=
    (afterAll_concat [create] send).trans hsend.2
  have hlist : CommandLine.parse list.words =
      .ok ⟨none, none, none, false, .listMessages (.ofNat 1) { timeDesc := some true }⟩ := by
    decide +kernel
  have hfails : (list.run stored).2 =
      .error (.run (.command (.service (.storage (.unreadable ⟨5, .conversion⟩))))) := by
    decide +kernel
  exact ⟨hsend.1, ⟨_, {}, hlist, rfl, _, rfl⟩, hstored ▸ hfails⟩

end Line

end Colloquy
