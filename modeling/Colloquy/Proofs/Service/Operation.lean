import Mathlib.Data.List.Induction
import Colloquy.Proofs.Store.Origin
import Colloquy.Service.Run

/-!
# What calls do to the store

A call that is carried out asks for one operation of the store, or for none, and changes nothing
else but what has been announced (`Call.operation?`, `carries_of_perform`). So whatever calls lead
to, operations lead to (`reachable_run`), and what a run of events stores comes from these events:
messages from those that send them, tasks from those that add them (`traced_run`).
-/

namespace Colloquy

/-- The operation of the store that a call asks for, if it asks for one. -/
def Call.operation? (fresh : Uuid) (now : Instant) : Call → Option Store.Operation
  | .createSpace projectId configs => some (.createSpace (.new fresh now projectId configs))
  | .updateSpaceConfigs id configs => some (.updateSpaceConfigs now id configs)
  | .deleteSpace id => some (.deleteSpace id)
  | .createSession projectId spaceId configs =>
    some (.createSession (.new fresh now projectId spaceId configs))
  | .updateSessionConfigs id configs => some (.updateSessionConfigs now id configs)
  | .connectToSpace id spaceId => some (.connectSession now id spaceId)
  | .deleteSession id => some (.deleteSession id)
  | .sendMessage m =>
    some (.insertMessage (.new fresh now m.sessionId m.role m.parts m.metadata))
  | .setMessageProcessStatus ids status => some (.setProcessStatus now ids status)
  | .addTask sessionId order data => some (.insertTask (.new fresh now sessionId order data))
  | .updateTaskStatus id status => some (.updateTaskStatus now id status)
  | .markTaskSpaceDigested id => some (.markTaskDigested now id)
  | .createDisk projectId => some (.createDisk (.new fresh now projectId))
  | .deleteDisk id => some (.deleteDisk id)
  | .space _ | .listSpaces _ _ | .session _ | .listSessions _ _ _ | .getMessages _ _
  | .pendingMessageCount _ | .getTasks _ _ | .learningStatus _ | .listDisks _ _ => none

namespace Service

variable {s s' : Service}

/-! ### Steps of the service -/

/-- A call on the store succeeds exactly if the store does, with the same result. -/
lemma stored_eq_ok_iff {α : Type} {x : Except StoreError α} {a : α} :
    stored x = .ok a ↔ x = .ok a := mapError_eq_ok_iff

/-- A change of the store succeeds exactly if the store does, and the rest of the service stays. -/
lemma withStore_eq_ok_iff {change : Except StoreError Store} :
    s.withStore change = .ok s' ↔ ∃ store, change = .ok store ∧ s' = { s with store } := by
  simp only [withStore, bind_eq_ok_iff, stored_eq_ok_iff, pure_eq_ok_iff, eq_comm (a := s')]

/-- An announcement changes nothing but what has been received. -/
lemma announce_service (s : Service) (projectId : Uuid) (message : Message) :
    let s' := (s.announce projectId message).service
    s'.store = s.store ∧ s'.limits = s.limits ∧
      s'.queue.map Queue.listening = s.queue.map Queue.listening := by
  unfold announce
  cases hqueue : s.queue with
  | none => exact ⟨rfl, rfl, by rw [hqueue]⟩
  | some queue =>
    by_cases hopen : queue.listening = true
    · simp [Queue.publish, hopen]
    · simp [Queue.publish, hopen, hqueue]

/-- A message that is sent has been inserted and is announced. -/
lemma sendMessage_eq_ok {id : Uuid} {now : Instant} {input : SendMessage} {d : Delivery}
    (h : s.sendMessage id now input = .ok d) :
    ∃ store message,
      s.store.insertMessage (.new id now input.sessionId input.role input.parts input.metadata) =
        .ok (store, message) ∧ d = announce { s with store } input.projectId message := by
  unfold sendMessage at h
  split at h
  next => simp at h
  next =>
    simp only [bind_eq_ok_iff, pure_eq_ok_iff, stored_eq_ok_iff] at h
    obtain ⟨-, -, session, -, ⟨store, message⟩, hinsert, rfl⟩ := h
    exact ⟨store, message, hinsert, rfl⟩

/-- What a call does that is carried out: at most one operation of the store, and announcements. -/
structure Carries (s s' : Service) (op? : Option Store.Operation) : Prop where
  store : match op? with
    | some op => s.store.perform op = .ok s'.store
    | none => s'.store = s.store
  limits : s'.limits = s.limits
  listening : s'.queue.map Queue.listening = s.queue.map Queue.listening

variable {op : Store.Operation} {reply : Reply}

/-- Looking something up changes nothing. -/
lemma carries_of_reading {α : Type} {x : Except ServiceError α} {answer : α → Reply}
    (h : (do return (s, answer (← x))) = .ok (s', reply)) : Carries s s' none := by
  obtain ⟨a, -, h⟩ := bind_eq_ok_iff.mp h
  cases h
  exact ⟨rfl, rfl, rfl⟩

/-- A change of the store carries out its operation. -/
lemma carries_of_withStore (h : s.withStore (s.store.perform op) = .ok s') :
    Carries s s' (some op) := by
  obtain ⟨store, hstore, rfl⟩ := withStore_eq_ok_iff.mp h
  exact ⟨hstore, rfl, rfl⟩

/-- So does a change of the store that is answered. -/
lemma carries_of_change {answer : Reply}
    (h : (do return (← s.withStore (s.store.perform op), answer)) = .ok (s', reply)) :
    Carries s s' (some op) := by
  obtain ⟨s₁, hs₁, h⟩ := bind_eq_ok_iff.mp h
  cases h
  exact carries_of_withStore hs₁

/-- So does a change of the store that gives back a record. -/
lemma carries_of_new {α : Type} {record made : α}
    (h : (do return (← s.withStore (s.store.perform op), record)) = .ok (s', made)) :
    Carries s s' (some op) := by
  obtain ⟨s₁, hs₁, h⟩ := bind_eq_ok_iff.mp h
  cases h
  exact carries_of_withStore hs₁

/-- A call that is carried out carries out its operation. -/
theorem carries_of_perform {fresh : Uuid} {now : Instant} {call : Call}
    (h : s.perform fresh now call = .ok (s', reply)) :
    Carries s s' (call.operation? fresh now) := by
  cases call with
  | createSpace projectId configs =>
    obtain ⟨⟨s₁, space⟩, hnew, h⟩ := bind_eq_ok_iff.mp h
    cases h
    exact carries_of_new hnew
  | space id => exact carries_of_reading h
  | updateSpaceConfigs id configs => exact carries_of_change h
  | deleteSpace id => exact carries_of_change h
  | listSpaces projectId request => exact carries_of_reading h
  | createSession projectId spaceId configs =>
    obtain ⟨⟨s₁, session⟩, hnew, h⟩ := bind_eq_ok_iff.mp h
    cases h
    cases spaceId with
    | none => exact carries_of_new hnew
    | some spaceId =>
      obtain ⟨space, -, hnew⟩ := bind_eq_ok_iff.mp hnew
      exact carries_of_new hnew
  | session id => exact carries_of_reading h
  | updateSessionConfigs id configs => exact carries_of_change h
  | connectToSpace id spaceId => exact carries_of_change h
  | deleteSession id => exact carries_of_change h
  | listSessions projectId filter request => exact carries_of_reading h
  | sendMessage input =>
    obtain ⟨d, hd, h⟩ := bind_eq_ok_iff.mp h
    obtain ⟨store, message, hinsert, rfl⟩ := sendMessage_eq_ok hd
    cases h
    obtain ⟨hstore, hlimits, hlistening⟩ :=
      announce_service { s with store } input.projectId message
    exact ⟨map_eq_ok_iff.mpr ⟨_, hinsert, hstore.symm⟩, hlimits, hlistening⟩
  | getMessages sessionId request => exact carries_of_reading h
  | pendingMessageCount sessionId =>
    cases h
    exact ⟨rfl, rfl, rfl⟩
  | setMessageProcessStatus ids status =>
    obtain ⟨⟨s₁, n⟩, hs₁, h⟩ := bind_eq_ok_iff.mp h
    obtain ⟨⟨store, n⟩, hset, hsame⟩ := bind_eq_ok_iff.mp hs₁
    cases hsame
    cases h
    exact ⟨map_eq_ok_iff.mpr ⟨_, stored_eq_ok_iff.mp hset, rfl⟩, rfl, rfl⟩
  | addTask sessionId order data =>
    obtain ⟨⟨s₁, task⟩, hnew, h⟩ := bind_eq_ok_iff.mp h
    cases h
    obtain ⟨session, -, hnew⟩ := bind_eq_ok_iff.mp hnew
    exact carries_of_new hnew
  | updateTaskStatus id status => exact carries_of_change h
  | markTaskSpaceDigested id => exact carries_of_change h
  | getTasks sessionId request => exact carries_of_reading h
  | learningStatus sessionId =>
    cases h
    exact ⟨rfl, rfl, rfl⟩
  | createDisk projectId =>
    obtain ⟨⟨s₁, disk⟩, hnew, h⟩ := bind_eq_ok_iff.mp h
    cases h
    exact carries_of_new hnew
  | deleteDisk id => exact carries_of_change h
  | listDisks projectId request => exact carries_of_reading h

/-! ### Runs -/

/-- An event leaves the store as it was, or its operation is carried out. -/
lemma store_after (s : Service) (e : Event) :
    (s.after e).store = s.store ∨ ∃ op, e.call.operation? e.fresh e.now = some op ∧
      s.store.perform op = .ok (s.after e).store := by
  unfold after
  cases hperform : s.perform e.fresh e.now e.call with
  | error err => exact .inl rfl
  | ok result =>
    have hstore := (carries_of_perform hperform).store
    cases hop : e.call.operation? e.fresh e.now with
    | none =>
      rw [hop] at hstore
      exact .inl hstore
    | some op =>
      rw [hop] at hstore
      exact .inr ⟨op, rfl, hstore⟩

/-- No event changes the limits of pages, or whether somebody listens. -/
lemma limits_after (s : Service) (e : Event) : (s.after e).limits = s.limits ∧
    (s.after e).queue.map Queue.listening = s.queue.map Queue.listening := by
  unfold after
  cases hperform : s.perform e.fresh e.now e.call with
  | error err => exact ⟨rfl, rfl⟩
  | ok result =>
    have hcarries := carries_of_perform hperform
    exact ⟨hcarries.limits, hcarries.listening⟩

/-- What holds of a store and is kept by operations is kept by runs of the service. -/
lemma reachable_run (h : s.store.Reachable) (events : List Event) :
    (s.run events).store.Reachable := by
  induction events generalizing s with
  | nil => exact h
  | cons e rest ih =>
    refine ih ?_
    rcases store_after s e with hsame | ⟨op, -, hop⟩
    · exact hsame ▸ h
    · exact h.perform hop

/-- No events leave the service as it is. -/
@[simp] lemma run_nil (s : Service) : s.run [] = s := rfl

/-- A run of one event is that event. -/
@[simp] lemma run_singleton (s : Service) (e : Event) : s.run [e] = s.after e := rfl

/-- Events run one after the other. -/
lemma run_append (s : Service) (events more : List Event) :
    s.run (events ++ more) = (s.run events).run more :=
  List.foldl_append

/-- Events are answered one after the other. -/
lemma answers_append (s : Service) (events more : List Event) :
    s.answers (events ++ more) = s.answers events ++ (s.run events).answers more := by
  induction events generalizing s with
  | nil => rfl
  | cons e rest ih =>
    rw [List.cons_append, answers, answers, ih, List.cons_append]
    rfl

/-- What holds of the empty store and is kept by each event holds after every run. -/
lemma run_induction {P : List Event → Store → Prop} (hempty : P [] .empty)
    (hstep : ∀ events (s : Service) e, s.store.WellFormed → P events s.store →
      P (events ++ [e]) (s.after e).store)
    (limits : PagingLimits) (queue : Option Queue) (events : List Event) :
    P events ((start limits queue).run events).store := by
  induction events using List.reverseRecOn with
  | nil => exact hempty
  | append_singleton events e ih =>
    rw [run_append]
    exact hstep events _ e (reachable_run ⟨[], rfl⟩ events).wellFormed ih

/-! ### Where rows come from -/

/-- Every stored message was sent by one of the events, and belongs to no task; every stored task
was added by one of them. -/
structure Traced (events : List Event) (s : Store) : Prop where
  messages : ∀ m ∈ s.messages, ∃ e ∈ events, ∃ input, e.call = .sendMessage input ∧
    m.id = .ofUuid e.fresh ∧ m.sessionId = .ofUuid input.sessionId
  tasks : ∀ t ∈ s.tasks, ∃ e ∈ events, ∃ sessionId order data,
    e.call = .addTask sessionId order data ∧ t.id = .ofUuid e.fresh ∧
      t.sessionId = .ofUuid sessionId
  taskless : ∀ m ∈ s.messages, m.taskId = .null

/-- What was traced to some events is traced to more of them. -/
lemma Traced.mono {events more : List Event} {s : Store} (h : Traced events s)
    (hsub : ∀ e ∈ events, e ∈ more) : Traced more s where
  messages m hm := by
    obtain ⟨e, he, hsent⟩ := h.messages m hm
    exact ⟨e, hsub e he, hsent⟩
  tasks t ht := by
    obtain ⟨e, he, hadded⟩ := h.tasks t ht
    exact ⟨e, hsub e he, hadded⟩
  taskless := h.taskless

/-- The only event whose operation inserts a message is one that sends it. -/
lemma eq_of_insertMessage {e : Event} {message : Message}
    (h : e.call.operation? e.fresh e.now = some (.insertMessage message)) :
    ∃ input, e.call = .sendMessage input ∧
      message = .new e.fresh e.now input.sessionId input.role input.parts input.metadata := by
  cases hcall : e.call <;> simp [hcall, Call.operation?] at h
  exact ⟨_, rfl, h.symm⟩

/-- The only event whose operation inserts a task is one that adds it. -/
lemma eq_of_insertTask {e : Event} {task : Task}
    (h : e.call.operation? e.fresh e.now = some (.insertTask task)) :
    ∃ sessionId order data, e.call = .addTask sessionId order data ∧
      task = .new e.fresh e.now sessionId order data := by
  cases hcall : e.call <;> simp [hcall, Call.operation?] at h
  exact ⟨_, _, _, rfl, h.symm⟩

/-- After an event, what is stored is traced to the events and this one. -/
lemma Traced.after {events : List Event} {s : Service} (h : Traced events s.store)
    (hs : s.store.WellFormed) (e : Event) : Traced (events ++ [e]) (s.after e).store := by
  have hold : Traced (events ++ [e]) s.store := h.mono fun e' he' => List.mem_append_left _ he'
  have hlast : e ∈ events ++ [e] := List.mem_append_right _ List.mem_cons_self
  rcases store_after s e with hsame | ⟨op, hcall, hop⟩
  · exact hsame ▸ hold
  · refine ⟨fun m' hm' => ?_, fun t' ht' => ?_, fun m' hm' => ?_⟩
    · rcases Store.origin_of_message hs hop hm' with ⟨m, hm, hrest⟩ | ⟨message, _, rfl, hrow⟩
      · rw [hrest.id, hrest.sessionId]
        exact hold.messages m hm
      · obtain ⟨input, hinput, rfl⟩ := eq_of_insertMessage hcall
        obtain ⟨hid, hsession, -⟩ := Message.toRow_eq_ok_iff.mp hrow
        exact ⟨e, hlast, input, hinput, hid, hsession⟩
    · rcases Store.origin_of_task hs hop ht' with ⟨t, ht, hrest⟩ | ⟨task, rfl, hrow⟩
      · rw [hrest.id, hrest.sessionId]
        exact hold.tasks t ht
      · obtain ⟨sessionId, order, data, hadd, rfl⟩ := eq_of_insertTask hcall
        obtain ⟨hid, hsession, -⟩ := Task.toRow_eq_ok_iff.mp hrow
        exact ⟨e, hlast, sessionId, order, data, hadd, hid, hsession⟩
    · rcases Store.origin_of_message hs hop hm' with ⟨m, hm, hrest⟩ | ⟨message, _, rfl, hrow⟩
      · rcases hrest.taskId with hsame | hnull
        · exact hsame.trans (h.taskless m hm)
        · exact hnull
      · obtain ⟨input, -, rfl⟩ := eq_of_insertMessage hcall
        obtain ⟨-, -, -, -, -, -, htask, -⟩ := Message.toRow_eq_ok_iff.mp hrow
        exact htask

/-- What a run from an empty store leaves comes from its events. -/
lemma traced_run (limits : PagingLimits) (queue : Option Queue) (events : List Event) :
    Traced events ((start limits queue).run events).store :=
  run_induction ⟨by simp [Store.empty], by simp [Store.empty], by simp [Store.empty]⟩
    (fun _ _ e hs h => h.after hs e) limits queue events

end Service

end Colloquy
