import Colloquy.Proofs.Service.Fresh
import Colloquy.Proofs.Service.Refusal
import Colloquy.Proofs.Store.Cut
import Colloquy.Proofs.Store.Legible
import Colloquy.Proofs.Store.Refusal

/-!
# Faults that requests cause

A refusal that is not blamed on the request is a fault of the service. Which calls cause one, and
for what, is read off the stored rows (`Service.Faults`, `Service.faults_run`): a row that is looked
at cannot be read, a session has too many messages to be removed, or the place of a new task is
taken. Rows can be read if all JSON that was stored fits the levels that reading has; the other two
come about whatever is stored (`Service.place_taken_twice`).
-/

namespace Colloquy

/-- What an event stores can be read again. -/
def Event.Fits (e : Event) : Prop :=
  ∀ op, e.call.operation? e.fresh e.now = some op → op.Fits fun _ => True

namespace Service

/-- A row that the page of an accepted request looks at cannot be read. -/
def PageUnread (s : Service) (scope : Scope) (request : PageRequest) (cause : StoreError) : Prop :=
  ∃ q, request.resolve s.limits = .ok q ∧
    ∃ fault, Listing.FirstUnread (Listing.fetched q (s.store.rows scope)) fault ∧
      cause = .unreadable fault

/-- A call makes the service fail for this cause: a row that it looks up or lists cannot be read, or
it removes a session with too many messages, or the place of its task is taken. -/
def Faults (s : Service) (cause : StoreError) : Call → Prop
  | .space id | .createSession _ (some id) _ | .connectToSpace _ id =>
    Store.Unread id s.store.spaces cause
  | .session id => Store.Unread id s.store.sessions cause
  | .deleteSession id =>
    Deletion.maxNesting ≤
        (s.store.messages.filter fun m => m.sessionId == .ofUuid id).length ∧
      cause = .violation .nesting
  | .sendMessage input =>
    Part.Sendable input.parts ∧ Store.Unread input.sessionId s.store.sessions cause
  | .addTask sessionId order _ =>
    Store.Unread sessionId s.store.sessions cause ∨
      (∃ session, s.session sessionId = .ok session) ∧ s.store.IsTaken sessionId order ∧
        cause = .violation (.unique "tasks" ["session_id", "task_order"])
  | .listSpaces projectId request => s.PageUnread (.spaces projectId) request cause
  | .listSessions projectId filter request =>
    s.PageUnread (.sessions projectId filter) request cause
  | .getMessages sessionId request => s.PageUnread (.messages sessionId) request cause
  | .getTasks sessionId request => s.PageUnread (.tasks sessionId) request cause
  | .listDisks projectId request => s.PageUnread (.disks projectId) request cause
  | _ => False

/-! ### Refusals that are faults -/

/-- A refusal that is not blamed on the request. -/
def IsFault {α : Type} (x : Except ServiceError α) (e : ServiceError) : Prop :=
  x = .error e ∧ e.isClientError = false

variable {s : Service} {e : ServiceError} {α β : Type}

/-- What succeeds is no fault. -/
lemma not_isFault_ok {x : Except ServiceError α} (h : ∃ a, x = .ok a) : ¬IsFault x e := by
  obtain ⟨a, ha⟩ := h
  exact fun hfault => ne_error_of_ok ha hfault.1

/-- A sequence of calls is a fault exactly if its first call is, or what follows it. -/
lemma isFault_bind_iff {x : Except ServiceError α} {f : α → Except ServiceError β} :
    IsFault (x >>= f) e ↔ IsFault x e ∨ ∃ a, x = .ok a ∧ IsFault (f a) e :=
  bind_eq_error_and_iff

/-- What is done with a result causes no fault, if it always succeeds. -/
lemma isFault_bind_of_ok {x : Except ServiceError α} {f : α → Except ServiceError β}
    (hf : ∀ a, ∃ b, f a = .ok b) : IsFault (x >>= f) e ↔ IsFault x e := by
  rw [isFault_bind_iff]
  refine or_iff_left ?_
  rintro ⟨a, -, hfault⟩
  exact not_isFault_ok (hf a) hfault

/-- A storage error is blamed on the request exactly if a record is missing. -/
lemma isClientError_storage_iff {cause : StoreError} :
    (ServiceError.storage cause).isClientError = false ↔
      ∀ entity id, cause ≠ .notFound entity id := by
  cases cause <;> simp [ServiceError.isClientError]

/-- A call on the store is a fault exactly if the store fails. -/
lemma isFault_stored_iff {x : Except StoreError α} :
    IsFault (stored x) e ↔ ∃ cause, e = .storage cause ∧ Store.Fails x cause := by
  unfold IsFault Store.Fails
  rw [stored_eq_error_iff]
  constructor
  · rintro ⟨⟨cause, hx, rfl⟩, hclient⟩
    exact ⟨cause, rfl, hx, isClientError_storage_iff.mp hclient⟩
  · rintro ⟨cause, rfl, hx, hcause⟩
    exact ⟨⟨cause, hx, rfl⟩, isClientError_storage_iff.mpr hcause⟩

/-- A change of the store is a fault exactly if the store fails. -/
lemma isFault_withStore_iff {change : Except StoreError Store} :
    IsFault (s.withStore change) e ↔ ∃ cause, e = .storage cause ∧ Store.Fails change cause := by
  rw [← isFault_stored_iff]
  exact isFault_bind_of_ok fun store => ⟨_, rfl⟩

/-- That something is missing is no fault. -/
lemma isFault_present_iff {entity : Entity} {id : Uuid} {lookup : Except StoreError (Option α)} :
    IsFault (present entity id lookup) e ↔
      ∃ cause, e = .storage cause ∧ Store.Fails lookup cause := by
  rw [present, isFault_bind_iff, isFault_stored_iff]
  refine or_iff_left ?_
  rintro ⟨found, -, hfault⟩
  cases found with
  | none =>
    obtain ⟨hrefused, hclient⟩ := hfault
    obtain rfl := Except.error.inj hrefused
    exact Bool.noConfusion hclient
  | some a => exact not_isFault_ok ⟨a, rfl⟩ hfault

/-- A change that does not fail causes no fault. -/
lemma not_isFault_change {change : Except StoreError Store} (h : ∀ cause, ¬Store.Fails change cause)
    {f : Service → Except ServiceError α} (hf : ∀ s', ∃ a, f s' = .ok a) :
    ¬IsFault (s.withStore change >>= f) e := by
  rw [isFault_bind_of_ok hf, isFault_withStore_iff]
  rintro ⟨cause, -, hfails⟩
  exact h cause hfails

/-- That a page cannot be asked for is no fault. -/
lemma not_isFault_resolve {request : PageRequest} : ¬IsFault (s.resolve request) e := by
  rintro ⟨hrefused, hclient⟩
  obtain ⟨cause, hcause, rfl⟩ := mapError_eq_error_iff.mp hrefused
  exact Bool.noConfusion (hclient.symm.trans (PageRequest.isClientError_of_resolve hcause))

/-! ### Calls -/

/-- Looking up a space is a fault exactly if its row cannot be read. -/
lemma isFault_space_iff (hs : s.store.WellFormed) {id : Uuid} :
    IsFault (s.space id) e ↔
      ∃ cause, e = .storage cause ∧ Store.Unread id s.store.spaces cause := by
  rw [space, isFault_present_iff, Store.space?]
  simp only [Store.fails_find?_iff hs.spaces]

/-- Looking up a session is a fault exactly if its row cannot be read. -/
lemma isFault_session_iff (hs : s.store.WellFormed) {id : Uuid} :
    IsFault (s.session id) e ↔
      ∃ cause, e = .storage cause ∧ Store.Unread id s.store.sessions cause := by
  rw [session, isFault_present_iff, Store.session?]
  simp only [Store.fails_find?_iff hs.sessions]

/-- What is stored is found by references to it. -/
lemma dangles_of_space (hs : s.store.WellFormed) {id : Uuid} {a : Space}
    (h : s.space id = .ok a) : Store.dangles (.ofUuid id) s.store.spaces = false :=
  Store.dangles_of_find? hs.spaces (present_eq_ok_iff.mp h)

/-- A reference to a session that was looked up is good. -/
lemma dangles_of_session (hs : s.store.WellFormed) {id : Uuid} {a : Session}
    (h : s.session id = .ok a) : Store.dangles (.ofUuid id) s.store.sessions = false :=
  Store.dangles_of_find? hs.sessions (present_eq_ok_iff.mp h)

/-- A listing is a fault exactly if a row of the page cannot be read. -/
lemma isFault_list_iff (hs : s.store.WellFormed) (scope : Scope) (request : PageRequest) :
    IsFault (s.resolve request >>= fun q => stored (s.store.list scope q)) e ↔
      ∃ cause, e = .storage cause ∧ s.PageUnread scope request cause := by
  rw [isFault_bind_iff, or_iff_right not_isFault_resolve]
  constructor
  · rintro ⟨q, hq, hfault⟩
    have hq := mapError_eq_ok_iff.mp hq
    obtain ⟨cause, he, hfails⟩ := isFault_stored_iff.mp hfault
    exact ⟨cause, he, q, hq, (Store.fails_list_iff hs hq).mp hfails⟩
  · rintro ⟨cause, he, q, hq, hunread⟩
    exact ⟨q, mapError_eq_ok_iff.mpr hq,
      isFault_stored_iff.mpr ⟨cause, he, (Store.fails_list_iff hs hq).mpr hunread⟩⟩

section Adding

variable {id : Uuid} {now : Instant} {cell : Cell} (hs : s.store.WellFormed)
  (hnow : Cell.ofInstant now = .ok cell) (hnew : s.store.IsNew id)

include hnow hnew

/-- Making a space is no fault. -/
lemma not_isFault_createSpace {projectId : Uuid} {configs : JsonObject} :
    ¬IsFault (s.createSpace id now projectId configs) e :=
  not_isFault_change (fun _ => Store.not_fails_ok (Store.exists_createSpace hnow hnew _ _))
    fun _ => ⟨_, rfl⟩

/-- Making a disk is no fault. -/
lemma not_isFault_createDisk {projectId : Uuid} : ¬IsFault (s.createDisk id now projectId) e :=
  not_isFault_change (fun _ => Store.not_fails_ok (Store.exists_createDisk hnow hnew _))
    fun _ => ⟨_, rfl⟩

include hs

/-- Making a session is a fault exactly if its space cannot be read. -/
lemma isFault_createSession_iff {projectId : Uuid} {spaceId : Option Uuid} {configs : JsonObject} :
    IsFault (s.createSession id now projectId spaceId configs) e ↔
      ∃ cause, e = .storage cause ∧ s.Faults cause (.createSession projectId spaceId configs) := by
  have hadded (hspace : Store.dangles (.ofUuid? spaceId) s.store.spaces = false) :
      ¬IsFault (do
        let session := Session.new id now projectId spaceId configs
        return (← s.withStore (s.store.createSession session), session)) e :=
    not_isFault_change
      (fun _ => Store.not_fails_ok (Store.exists_createSession hnow hnew hspace _ _))
      fun _ => ⟨_, rfl⟩
  cases spaceId with
  | none =>
    refine iff_of_false (hadded (Store.dangles_null _)) ?_
    rintro ⟨cause, -, hfaults⟩
    exact hfaults
  | some spaceId =>
    refine isFault_bind_iff.trans ((or_iff_left ?_).trans (isFault_space_iff hs))
    rintro ⟨space, hspace, hfault⟩
    exact hadded (dangles_of_space hs hspace) hfault

/-- Sending a message is a fault exactly if its session cannot be read. -/
lemma isFault_sendMessage_iff {input : SendMessage} :
    IsFault (s.sendMessage id now input) e ↔
      ∃ cause, e = .storage cause ∧ s.Faults cause (.sendMessage input) := by
  unfold IsFault
  rw [sendMessage_eq_error_iff]
  constructor
  · rintro ⟨⟨-, rfl⟩ | ⟨i, fault, -, rfl⟩ |
      ⟨hsendable, hsession | ⟨session, cause, hsession, hinsert, rfl⟩⟩, hclient⟩
    · exact Bool.noConfusion hclient
    · exact Bool.noConfusion hclient
    · obtain ⟨cause, he, hunread⟩ := (isFault_session_iff hs).mp ⟨hsession, hclient⟩
      exact ⟨cause, he, hsendable, hunread⟩
    · obtain ⟨result, hresult⟩ := hs.exists_insertMessage_new hnow hnew
        (dangles_of_session hs hsession) input.role input.parts input.metadata
      exact absurd hinsert (ne_error_of_ok hresult)
  · rintro ⟨cause, rfl, hsendable, hunread⟩
    obtain ⟨hsession, hclient⟩ := (isFault_session_iff hs).mpr ⟨cause, rfl, hunread⟩
    exact ⟨.inr (.inr ⟨hsendable, .inl hsession⟩), hclient⟩

/-- Adding a task is a fault exactly if its session cannot be read, or its place is taken. -/
lemma isFault_addTask_iff {sessionId : Uuid} {order : Int} {data : JsonObject} :
    IsFault (s.addTask id now sessionId order data) e ↔
      ∃ cause, e = .storage cause ∧ s.Faults cause (.addTask sessionId order data) := by
  have hadded {session : Session} (hsession : s.session sessionId = .ok session) :
      IsFault (do
        let task := Task.new id now sessionId order data
        return (← s.withStore (s.store.insertTask task), task)) e ↔
      ∃ cause, e = .storage cause ∧ s.store.IsTaken sessionId order ∧
        cause = .violation (.unique "tasks" ["session_id", "task_order"]) := by
    refine (isFault_bind_of_ok fun _ => ⟨_, rfl⟩).trans (isFault_withStore_iff.trans ?_)
    simp only [Store.fails_insertTask_iff hnow hnew (dangles_of_session hs hsession)]
  rw [addTask, isFault_bind_iff, isFault_session_iff hs]
  constructor
  · rintro (⟨cause, he, hunread⟩ | ⟨session, hsession, hfault⟩)
    · exact ⟨cause, he, .inl hunread⟩
    · obtain ⟨cause, he, htaken⟩ := (hadded hsession).mp hfault
      exact ⟨cause, he, .inr ⟨⟨session, hsession⟩, htaken⟩⟩
  · rintro ⟨cause, he, hunread | ⟨⟨session, hsession⟩, htaken⟩⟩
    · exact .inl ⟨cause, he, hunread⟩
    · exact .inr ⟨session, hsession, (hadded hsession).mpr ⟨cause, he, htaken⟩⟩

end Adding

/-- A call is refused with a fault exactly if it makes the service fail. -/
lemma isFault_perform_iff (hs : s.store.Reachable) {fresh : Uuid} {now : Instant} {cell : Cell}
    {call : Call} (hnow : Cell.ofInstant now = .ok cell)
    (hnew : ∀ id, (Event.mk fresh now call).drawn? = some id → s.store.IsNew id) :
    IsFault (s.perform fresh now call) e ↔ ∃ cause, e = .storage cause ∧ s.Faults cause call := by
  have hwell := hs.wellFormed
  have hnone : ¬∃ cause, e = .storage cause ∧ False := fun ⟨_, _, h⟩ => h
  have hchange {change : Except StoreError Store} {answer : Reply}
      (h : ∀ cause, ¬Store.Fails change cause) :
      IsFault (do return (← s.withStore change, answer)) e ↔ ∃ cause, e = .storage cause ∧ False :=
    iff_of_false (not_isFault_change h fun _ => ⟨_, rfl⟩) hnone
  cases call with
  | createSpace projectId configs =>
    refine iff_of_false ?_ hnone
    exact (isFault_bind_of_ok fun _ => ⟨_, rfl⟩).not.mpr (not_isFault_createSpace hnow (hnew _ rfl))
  | space id => exact (isFault_bind_of_ok fun _ => ⟨_, rfl⟩).trans (isFault_space_iff hwell)
  | updateSpaceConfigs id configs => exact hchange fun _ => Store.not_fails_update hnow
  | deleteSpace id => exact hchange fun _ => Store.not_fails_found
  | listSpaces projectId request =>
    exact (isFault_bind_of_ok fun _ => ⟨_, rfl⟩).trans
      (isFault_list_iff hwell (.spaces projectId) _)
  | createSession projectId spaceId configs =>
    exact (isFault_bind_of_ok fun _ => ⟨_, rfl⟩).trans
      (isFault_createSession_iff hwell hnow (hnew _ rfl))
  | session id => exact (isFault_bind_of_ok fun _ => ⟨_, rfl⟩).trans (isFault_session_iff hwell)
  | updateSessionConfigs id configs => exact hchange fun _ => Store.not_fails_update hnow
  | connectToSpace id spaceId =>
    refine (isFault_bind_of_ok fun _ => ⟨_, rfl⟩).trans (isFault_withStore_iff.trans ?_)
    simp only [Store.fails_connectSession_iff hwell hnow, Faults]
  | deleteSession id =>
    refine (isFault_bind_of_ok fun _ => ⟨_, rfl⟩).trans (isFault_withStore_iff.trans ?_)
    simp only [Store.fails_deleteSession_iff hs.linked hwell, Faults]
  | listSessions projectId filter request =>
    exact (isFault_bind_of_ok fun _ => ⟨_, rfl⟩).trans
      (isFault_list_iff hwell (.sessions projectId filter) _)
  | sendMessage input =>
    exact (isFault_bind_of_ok fun _ => ⟨_, rfl⟩).trans
      (isFault_sendMessage_iff hwell hnow (hnew _ rfl))
  | getMessages sessionId request =>
    exact (isFault_bind_of_ok fun _ => ⟨_, rfl⟩).trans
      (isFault_list_iff hwell (.messages sessionId) _)
  | pendingMessageCount sessionId => exact iff_of_false (not_isFault_ok ⟨_, rfl⟩) hnone
  | setMessageProcessStatus ids status =>
    obtain ⟨store, n, hset⟩ := Store.exists_setProcessStatus s.store hnow ids status
    refine iff_of_false (not_isFault_ok ⟨({ s with store }, .count n), ?_⟩) hnone
    simp only [perform, setMessageProcessStatus, hset]
    rfl
  | addTask sessionId order data =>
    exact (isFault_bind_of_ok fun _ => ⟨_, rfl⟩).trans (isFault_addTask_iff hwell hnow (hnew _ rfl))
  | updateTaskStatus id status => exact hchange fun _ => Store.not_fails_update hnow
  | markTaskSpaceDigested id => exact hchange fun _ => Store.not_fails_update hnow
  | getTasks sessionId request =>
    exact (isFault_bind_of_ok fun _ => ⟨_, rfl⟩).trans (isFault_list_iff hwell (.tasks sessionId) _)
  | learningStatus sessionId => exact iff_of_false (not_isFault_ok ⟨_, rfl⟩) hnone
  | createDisk projectId =>
    refine iff_of_false ?_ hnone
    exact (isFault_bind_of_ok fun _ => ⟨_, rfl⟩).not.mpr (not_isFault_createDisk hnow (hnew _ rfl))
  | deleteDisk id => exact hchange fun _ => Store.not_fails_found
  | listDisks projectId request =>
    exact (isFault_bind_of_ok fun _ => ⟨_, rfl⟩).trans (isFault_list_iff hwell (.disks projectId) _)

/-! ### Runs -/

/-- The rows that a run leaves can be read, if what its events store can. -/
lemma legible_run (limits : PagingLimits) (queue : Option Queue) {events : List Event}
    (hfits : ∀ e ∈ events, e.Fits) :
    ((start limits queue).run events).store.Legible fun _ => True := by
  refine run_induction (P := fun events s => (∀ e ∈ events, e.Fits) → s.Legible fun _ => True)
    (fun _ => .empty) ?_ limits queue events hfits
  intro events s e hs h hfits
  have hbefore := h fun e' he' => hfits e' (List.mem_append_left _ he')
  rcases store_after s e with hsame | ⟨op, hcall, hop⟩
  · exact hsame ▸ hbefore
  · exact hbefore.perform hs (hfits e (List.mem_append_right _ List.mem_cons_self) op hcall) hop

/-- A page of rows that can be read is not unread. -/
lemma not_pageUnread (hs : s.store.WellFormed) (h : s.store.Legible fun _ => True) {scope : Scope}
    {request : PageRequest} {cause : StoreError} : ¬s.PageUnread scope request cause := by
  rintro ⟨q, -, fault, ⟨before, r, after, hrows, -, hread⟩, -⟩
  have hr : r ∈ Listing.fetched q (s.store.rows scope) :=
    hrows ▸ List.mem_append_right _ List.mem_cons_self
  obtain ⟨a, ha⟩ := h.exists_read hs (fun _ _ => trivial) r (Listing.mem_of_mem_fetched hr)
  exact ne_error_of_ok ha hread

/-- If all rows can be read, what is left are sessions with too many messages and places that are
taken. -/
lemma Faults.of_legible (hs : s.store.WellFormed) (h : s.store.Legible fun _ => True)
    {cause : StoreError} {call : Call} (hfaults : s.Faults cause call) :
    (∃ id, call = .deleteSession id ∧ cause = .violation .nesting) ∨
      ∃ sessionId order data, call = .addTask sessionId order data ∧
        cause = .violation (.unique "tasks" ["session_id", "task_order"]) := by
  have hspace {id : Uuid} : ¬Store.Unread id s.store.spaces cause :=
    Store.not_unread fun r hr => SpaceRow.exists_read (hs.spaces.written r hr) (h.spaces r hr)
  have hsession {id : Uuid} : ¬Store.Unread id s.store.sessions cause :=
    Store.not_unread fun r hr => SessionRow.exists_read (hs.sessions.written r hr) (h.sessions r hr)
  cases call with
  | space id | connectToSpace _ id => exact absurd hfaults hspace
  | createSession projectId spaceId configs =>
    cases spaceId with
    | none => exact hfaults.elim
    | some id => exact absurd hfaults hspace
  | session id => exact absurd hfaults hsession
  | deleteSession id => exact .inl ⟨id, rfl, hfaults.2⟩
  | sendMessage input => exact absurd hfaults.2 hsession
  | addTask sessionId order data =>
    rcases hfaults with hunread | ⟨-, -, hcause⟩
    · exact absurd hunread hsession
    · exact .inr ⟨sessionId, order, data, rfl, hcause⟩
  | listSpaces | listSessions | getMessages | getTasks | listDisks =>
    exact absurd hfaults (not_pageUnread hs h)
  | createSpace | updateSpaceConfigs | deleteSpace | updateSessionConfigs | pendingMessageCount
  | setMessageProcessStatus | updateTaskStatus | markTaskSpaceDigested | learningStatus | createDisk
  | deleteDisk => exact hfaults.elim

/-- The id that an event draws after a run is new, if no event of the run drew it. -/
lemma isNew_run (limits : PagingLimits) (queue : Option Queue) {events : List Event} {e : Event}
    (hdrawn : ((events ++ [e]).filterMap Event.drawn?).Nodup) {id : Uuid}
    (hid : e.drawn? = some id) : ((start limits queue).run events).store.IsNew id := by
  have hwithin := within_run limits queue events
  have hnot : id ∉ events.filterMap Event.drawn? := by
    rw [List.filterMap_append, List.nodup_append] at hdrawn
    exact fun hmem => hdrawn.2.2 id hmem id (by simp [hid]) rfl
  exact ⟨Store.Within.hasId_eq_false hwithin.spaces hnot,
    Store.Within.hasId_eq_false hwithin.sessions hnot,
    Store.Within.hasId_eq_false hwithin.messages hnot,
    Store.Within.hasId_eq_false hwithin.tasks hnot,
    Store.Within.hasId_eq_false hwithin.disks hnot⟩

/-- After any calls for which different ids were drawn, a call is refused with a fault of the
service exactly if a row that it looks at cannot be read, if it removes a session with too many
messages, or if it adds a task at a place that is taken. The first does not happen if all that was
stored fits the levels that reading has. -/
theorem faults_run (limits : PagingLimits) (queue : Option Queue) (events : List Event) (e : Event)
    (hdrawn : ((events ++ [e]).filterMap Event.drawn?).Nodup) (hnow : e.now.nanos?.isSome) :
    let s := (start limits queue).run events
    (∀ refusal, (s.answer e = .error refusal ∧ refusal.isClientError = false) ↔
      ∃ cause, refusal = .storage cause ∧ s.Faults cause e.call) ∧
    ((∀ e' ∈ events, e'.Fits) → ∀ cause, s.Faults cause e.call →
      (∃ id, e.call = .deleteSession id ∧ cause = .violation .nesting) ∨
        ∃ sessionId order data, e.call = .addTask sessionId order data ∧
          cause = .violation (.unique "tasks" ["session_id", "task_order"])) := by
  intro s
  have hs : s.store.Reachable := reachable_run ⟨[], rfl⟩ events
  obtain ⟨n, hn⟩ := Option.isSome_iff_exists.mp hnow
  have hcell : Cell.ofInstant e.now = .ok (.integer n) := by rw [Cell.ofInstant, hn]
  refine ⟨fun refusal => ?_, fun hfits cause => ?_⟩
  · rw [answer, map_eq_error_iff]
    exact isFault_perform_iff hs hcell fun id hid => isNew_run limits queue hdrawn hid
  · exact Faults.of_legible hs.wellFormed (legible_run limits queue hfits)

/-- A task for a session that is not stored is refused without a fault of the service. -/
theorem faults_run_unknown_session :
    let now := Instant.ofNanos ⟨0, by decide⟩
    let events : List Event := [⟨.ofNat 1, now, .createSession (.ofNat 7) none []⟩,
      ⟨.ofNat 2, now, .addTask (.ofNat 1) 0 []⟩]
    let e : Event := ⟨.ofNat 3, now, .addTask (.ofNat 5) 0 []⟩
    ∃ refusal, ((start {} none).run events).answer e = .error refusal ∧
      refusal.isClientError = true := by
  intro now events e
  have hmissing : Store.hasId (.ofUuid (.ofNat 5)) ((start {} none).run events).store.sessions =
      false := by decide +kernel
  have hrefused : (((start {} none).run events).answer e).toBool = false := by decide +kernel
  have hfaults := (faults_run {} none events e (by decide +kernel) (by decide +kernel)).1
  cases hanswer : ((start {} none).run events).answer e with
  | ok reply => simp [hanswer, Except.toBool] at hrefused
  | error refusal =>
    refine ⟨refusal, rfl, ?_⟩
    by_contra hclient
    obtain ⟨cause, -, hfault⟩ := (hfaults refusal).mp ⟨hanswer, by simpa using hclient⟩
    rcases hfault with ⟨fault, -, r, hr, hid, -⟩ | ⟨⟨session, hsession⟩, -⟩
    · exact Store.hasId_eq_false_iff.mp hmissing r hr hid
    · have hfind := present_eq_ok_iff.mp hsession
      simp [Store.session?, Store.find?_eq_ok_none_iff.mpr hmissing] at hfind

/-- The second task at a place of a session is refused with a fault of the service. -/
theorem place_taken_twice :
    let now := Instant.ofNanos ⟨0, by decide⟩
    let events : List Event := [⟨.ofNat 1, now, .createSession (.ofNat 7) none []⟩,
      ⟨.ofNat 2, now, .addTask (.ofNat 1) 0 []⟩]
    let e : Event := ⟨.ofNat 3, now, .addTask (.ofNat 1) 0 []⟩
    ((events ++ [e]).filterMap Event.drawn?).Nodup ∧
      ∃ refusal, ((start {} none).run events).answer e = .error refusal ∧
        refusal.isClientError = false := by
  intro now events e
  have hanswer : (((start {} none).run events).answer e).map (fun _ => ()) =
      .error (.storage (.violation (.unique "tasks" ["session_id", "task_order"]))) := by
    decide +kernel
  exact ⟨by decide +kernel, _, map_eq_error_iff.mp hanswer, rfl⟩

end Service

end Colloquy
