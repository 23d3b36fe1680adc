import Mathlib.Data.List.Pairwise
import Colloquy.Proofs.Service.Operation
import Colloquy.Proofs.Store.Cut
import Colloquy.Service.Isolation

/-!
# Sessions do not interfere

A run of events and what of it concerns one session are carried out side by side. All along, the
store of the second is what the store of the first holds of the session (`Agree`): an event that
concerns the session has the same outcome on both sides (`Agree.perform`), and one that does not
leaves the session as it is (`Agree.of_other`). So the session looks the same in the end, and what
is answered about it on the way is the same too (`isolated_run`).

That ids are drawn only once is what keeps the sessions apart: a message or task that took the id of
one in another session would be refused on one side only.
-/

namespace Colloquy.Service

open Store (cut hasId)

variable {sid : Uuid} {full part : Service}

/-- `part` holds of one session what `full` holds. -/
structure Agree (sid : Uuid) (full part : Service) : Prop where
  store : part.store = full.store.cut sid
  limits : part.limits = full.limits
  listening : part.queue.map Queue.listening = full.queue.map Queue.listening

/-! ### Outcomes on both sides -/

/-- Both sides refuse a call for the same reason, or give the same answer and agree again. -/
inductive SameOutcome (sid : Uuid) :
    Except ServiceError (Service × Reply) → Except ServiceError (Service × Reply) → Prop
  | error (e : ServiceError) : SameOutcome sid (.error e) (.error e)
  | ok {full part : Service} (reply : Reply) (h : Agree sid full part) :
      SameOutcome sid (.ok (full, reply)) (.ok (part, reply))

namespace SameOutcome

/-- Looking up the same on both sides. -/
lemma reading (h : Agree sid full part) {α : Type} {x y : Except ServiceError α} (hxy : y = x)
    (answer : α → Reply) :
    SameOutcome sid (do return (full, answer (← x))) (do return (part, answer (← y))) := by
  subst hxy
  cases y with
  | error e => exact .error e
  | ok a => exact .ok (answer a) h

/-- The same change of the store on both sides. -/
lemma change (h : Agree sid full part) {change change' : Except StoreError Store}
    (hchange : change' = change.map (cut sid)) (answer : Reply) :
    SameOutcome sid (do return (← full.withStore change, answer))
      (do return (← part.withStore change', answer)) := by
  subst hchange
  cases change with
  | error e => exact .error _
  | ok store => exact .ok answer ⟨rfl, h.limits, h.listening⟩

/-- The same new record on both sides. -/
lemma new (h : Agree sid full part) {α : Type} {change change' : Except StoreError Store}
    (hchange : change' = change.map (cut sid)) (record : α) (answer : α → Reply) :
    SameOutcome sid
      (do
        let (s, record) ← (do return (← full.withStore change, record))
        return (s, answer record))
      (do
        let (s, record) ← (do return (← part.withStore change', record))
        return (s, answer record)) := by
  subst hchange
  cases change with
  | error e => exact .error _
  | ok store => exact .ok (answer record) ⟨rfl, h.limits, h.listening⟩

end SameOutcome

/-! ### Events that concern the session -/

namespace Agree

/-- Requests are resolved in the same way. -/
lemma resolve (h : Agree sid full part) (request : PageRequest) :
    part.resolve request = full.resolve request := by
  rw [Service.resolve, Service.resolve, h.limits]

/-- A space is looked up with the same outcome. -/
lemma space (h : Agree sid full part) (id : Uuid) : part.space id = full.space id := by
  rw [Service.space, Service.space, h.store]
  rfl

/-- The session is looked up with the same outcome. -/
lemma session (h : Agree sid full part) : part.session sid = full.session sid := by
  rw [Service.session, Service.session, h.store, Store.cut_session?]

/-- The announcement of a message comes out the same. -/
lemma announce (h : Agree sid full part) (projectId : Uuid) (message : Message) :
    let d := full.announce projectId message
    let d' := part.announce projectId message
    Agree sid d.service d'.service ∧ d'.message = d.message ∧ d'.announcement = d.announcement := by
  have hlistening := h.listening
  unfold Service.announce
  cases hfull : full.queue with
  | none =>
    obtain hpart : part.queue = none := by simpa [hfull] using hlistening
    rw [hpart]
    exact ⟨h, rfl, rfl⟩
  | some queue =>
    obtain ⟨queue', hpart, hsame⟩ : ∃ queue', part.queue = some queue' ∧
        queue'.listening = queue.listening := by simpa [hfull] using hlistening
    rw [hpart]
    simp only [Queue.publish, hsame]
    by_cases hopen : queue.listening = true
    · rw [if_pos hopen, if_pos hopen]
      exact ⟨⟨h.store, h.limits, rfl⟩, rfl, rfl⟩
    · rw [if_neg hopen, if_neg hopen]
      exact ⟨h, rfl, rfl⟩

/-- Sending a message to the session has the same outcome. -/
lemma sendMessage (h : Agree sid full part) (hs : full.store.WellFormed) {fresh : Uuid}
    {now : Instant} {input : SendMessage} (hsession : input.sessionId = sid)
    (hnew : hasId (.ofUuid fresh) full.store.messages = false) :
    SameOutcome sid (full.perform fresh now (.sendMessage input))
      (part.perform fresh now (.sendMessage input)) := by
  have hinsert : part.store.insertMessage
      (.new fresh now sid input.role input.parts input.metadata) =
        (full.store.insertMessage (.new fresh now sid input.role input.parts input.metadata)).map
          fun x => (x.1.cut sid, x.2) := by
    have hid : hasId (.ofUuid (Message.new fresh now sid input.role input.parts input.metadata).id)
        full.store.messages = false := hnew
    have hto : (Message.new fresh now sid input.role input.parts input.metadata).sessionId = sid :=
      rfl
    rw [h.store, Store.cut_insertMessage hs hto rfl hid]
  simp only [perform, Service.sendMessage, hsession, h.session]
  split
  · exact .error _
  · cases checkParts 0 input.parts with
    | error e => exact .error e
    | ok u =>
      cases full.session sid with
      | error e => exact .error e
      | ok session =>
        simp only [ok_bind_eq, hinsert]
        cases full.store.insertMessage
            (.new fresh now sid input.role input.parts input.metadata) with
        | error e => exact .error _
        | ok stored =>
          obtain ⟨store, message⟩ := stored
          have hstored : Agree sid { full with store } { part with store := store.cut sid } :=
            ⟨rfl, h.limits, h.listening⟩
          obtain ⟨hagree, hmessage, hannouncement⟩ := hstored.announce input.projectId message
          change SameOutcome sid (.ok (_, .sent _ _)) (.ok (_, .sent _ _))
          rw [hmessage, hannouncement]
          exact .ok _ hagree

/-- A call that concerns the session has the same outcome on both sides, if the id that it draws for
a message or a task is new, and the tasks that count as tasks of the session belong to it. -/
lemma perform (h : Agree sid full part) (hs : full.store.Reachable) (hpart : part.store.Reachable)
    {messages tasks : List Uuid} {fresh : Uuid} {now : Instant} {call : Call}
    (hkept : Event.part? sid messages tasks ⟨fresh, now, call⟩ = some ⟨fresh, now, call⟩)
    (hbatch : Event.isBatch ⟨fresh, now, call⟩ = false)
    (hmessage : ∀ input, call = .sendMessage input →
      hasId (.ofUuid fresh) full.store.messages = false)
    (htask : ∀ id order data, call = .addTask id order data →
      hasId (.ofUuid fresh) full.store.tasks = false)
    (hown : ∀ id ∈ tasks, ∀ t ∈ full.store.tasks, t.id = .ofUuid id → t.sessionId = .ofUuid sid) :
    SameOutcome sid (full.perform fresh now call) (part.perform fresh now call) := by
  cases call with
  | createSpace projectId configs =>
    exact .new h (by rw [h.store, Store.cut_createSpace]) _ _
  | space id => exact .reading h (h.space id) _
  | updateSpaceConfigs id configs =>
    exact .change h (by rw [h.store, Store.cut_updateSpaceConfigs]) _
  | deleteSpace id => exact .change h (by rw [h.store, Store.cut_deleteSpace]) _
  | listSpaces projectId request =>
    refine .reading h ?_ _
    rw [listSpaces, listSpaces, h.resolve, h.store]
    rfl
  | createSession projectId spaceId configs =>
    have hfresh : fresh = sid := by simpa [Event.part?] using hkept
    have hcreate : part.store.createSession (.new fresh now projectId spaceId configs) =
        (full.store.createSession (.new fresh now projectId spaceId configs)).map (cut sid) := by
      rw [h.store, Store.cut_createSession hfresh]
    cases spaceId with
    | none => exact .new h hcreate _ _
    | some spaceId =>
      simp only [Service.perform, createSession, h.space]
      cases full.space spaceId with
      | error e => exact .error e
      | ok space => exact .new h hcreate _ _
  | session id =>
    obtain rfl : id = sid := by simpa [Event.part?] using hkept
    exact .reading h h.session _
  | updateSessionConfigs id configs =>
    obtain rfl : id = sid := by simpa [Event.part?] using hkept
    exact .change h (by rw [h.store, Store.cut_updateSessionConfigs]) _
  | connectToSpace id spaceId =>
    obtain rfl : id = sid := by simpa [Event.part?] using hkept
    exact .change h (by rw [h.store, Store.cut_connectSession]) _
  | deleteSession id =>
    obtain rfl : id = sid := by simpa [Event.part?] using hkept
    rw [h.store] at hpart
    exact .change h (by rw [h.store, Store.cut_deleteSession hs.linked hs.wellFormed hpart.linked
      hpart.wellFormed]) _
  | sendMessage input =>
    have hsession : input.sessionId = sid := by simpa [Event.part?] using hkept
    exact h.sendMessage hs.wellFormed hsession (hmessage input rfl)
  | getMessages id request =>
    obtain rfl : id = sid := by simpa [Event.part?] using hkept
    refine .reading h ?_ _
    rw [getMessages, getMessages, h.resolve, h.store]
    simp only [Store.cut_listMessages]
  | pendingMessageCount id =>
    obtain rfl : id = sid := by simpa [Event.part?] using hkept
    have hcount : part.pendingMessageCount id = full.pendingMessageCount id := by
      rw [pendingMessageCount, pendingMessageCount, h.store, Store.cut_pendingMessageCount]
    change SameOutcome id (.ok (full, .count _)) (.ok (part, .count _))
    rw [hcount]
    exact .ok _ h
  | setMessageProcessStatus ids status => simp [Event.isBatch] at hbatch
  | addTask id order data =>
    obtain rfl : id = sid := by simpa [Event.part?] using hkept
    have hsession : (Task.new fresh now id order data).sessionId = id := rfl
    have hnew : hasId (.ofUuid (Task.new fresh now id order data).id) full.store.tasks = false :=
      htask id order data rfl
    have hinsert : part.store.insertTask (.new fresh now id order data) =
        (full.store.insertTask (.new fresh now id order data)).map (cut id) := by
      rw [h.store, Store.cut_insertTask hsession hnew]
    simp only [Service.perform, addTask, h.session]
    cases full.session id with
    | error e => exact .error e
    | ok session => exact .new h hinsert _ _
  | updateTaskStatus id status =>
    have hid : id ∈ tasks := by simpa [Event.part?] using hkept
    exact .change h (by rw [h.store, Store.cut_updateTaskStatus (hown id hid)]) _
  | markTaskSpaceDigested id =>
    have hid : id ∈ tasks := by simpa [Event.part?] using hkept
    exact .change h (by rw [h.store, Store.cut_markTaskDigested (hown id hid)]) _
  | getTasks id request =>
    obtain rfl : id = sid := by simpa [Event.part?] using hkept
    refine .reading h ?_ _
    rw [getTasks, getTasks, h.resolve, h.store]
    simp only [Store.cut_listTasks]
  | learningStatus id =>
    obtain rfl : id = sid := by simpa [Event.part?] using hkept
    have hstatus : part.learningStatus id = full.learningStatus id := by
      rw [learningStatus, learningStatus, h.store, Store.cut_learningStatus]
    change SameOutcome id (.ok (full, .learningStatus _)) (.ok (part, .learningStatus _))
    rw [hstatus]
    exact .ok _ h
  | listSessions projectId filter request => simp [Event.part?] at hkept
  | createDisk projectId => simp [Event.part?] at hkept
  | deleteDisk id => simp [Event.part?] at hkept
  | listDisks projectId request => simp [Event.part?] at hkept

/-- Two sides with the same outcome of an event have the same answer, and agree after it. -/
lemma after (h : Agree sid full part) {e : Event}
    (hsame : SameOutcome sid (full.perform e.fresh e.now e.call)
      (part.perform e.fresh e.now e.call)) :
    part.answer e = full.answer e ∧ Agree sid (full.after e) (part.after e) := by
  unfold answer Service.after
  revert hsame
  generalize full.perform e.fresh e.now e.call = outcome
  generalize part.perform e.fresh e.now e.call = outcome'
  intro hsame
  cases hsame with
  | error err => exact ⟨rfl, h⟩
  | ok reply hagree => exact ⟨rfl, hagree⟩

/-- A batch does to the session what its part for the session does. -/
lemma after_batch (h : Agree sid full part) {messages : List Uuid}
    (hown : ∀ m ∈ full.store.messages, m.sessionId = .ofUuid sid →
      ∀ id, m.id = .ofUuid id → id ∈ messages)
    (fresh : Uuid) (now : Instant) (ids : List Uuid) (status : TaskStatus) :
    Agree sid (full.after ⟨fresh, now, .setMessageProcessStatus ids status⟩)
      (part.after ⟨fresh, now, .setMessageProcessStatus (ids.filter (· ∈ messages)) status⟩) := by
  have hafter : ∀ (s : Service) (ids : List Uuid),
      s.after ⟨fresh, now, .setMessageProcessStatus ids status⟩ =
        match s.store.setProcessStatus now ids status with
        | .ok (store, _) => { s with store }
        | .error _ => s := by
    intro s ids
    simp only [Service.after, Service.perform, setMessageProcessStatus]
    cases s.store.setProcessStatus now ids status <;> rfl
  rw [hafter, hafter]
  cases hnow : Cell.ofInstant now with
  | error err =>
    simp only [Store.setProcessStatus, hnow, error_bind_eq]
    exact h
  | ok updatedAt =>
    obtain ⟨store, n, hfull⟩ := full.store.exists_setProcessStatus hnow ids status
    obtain ⟨store', n', hpart⟩ :=
      part.store.exists_setProcessStatus hnow (ids.filter (· ∈ messages)) status
    rw [hfull, hpart]
    refine ⟨?_, h.limits, h.listening⟩
    rw [h.store] at hpart
    refine Store.cut_setProcessStatus (fun id hid => List.mem_of_mem_filter hid) ?_ hfull hpart
    intro m hm hsession id hid heq
    exact List.mem_filter.mpr ⟨hid, by simpa using hown m hm hsession id heq⟩

/-! ### Events that do not concern the session -/

/-- An event that does not concern the session leaves it as it is. -/
lemma of_other (h : Agree sid full part) (hs : full.store.WellFormed)
    (htaskless : ∀ m ∈ full.store.messages, m.taskId = .null) {messages tasks : List Uuid}
    (hother : ∀ id ∉ tasks, ∀ t ∈ full.store.tasks, t.id = .ofUuid id → t.sessionId ≠ .ofUuid sid)
    {e : Event} (he : Event.part? sid messages tasks e = none) : Agree sid (full.after e) part := by
  obtain ⟨hlimits, hlistening⟩ := limits_after full e
  refine ⟨h.store.trans ?_, h.limits.trans hlimits.symm, h.listening.trans hlistening.symm⟩
  rcases store_after full e with hsame | ⟨op, hcall, hop⟩
  · rw [hsame]
  · obtain ⟨fresh, now, call⟩ := e
    symm
    cases call with
    | createSession projectId spaceId configs =>
      have hfresh : fresh ≠ sid := by simpa [Event.part?] using he
      cases hcall
      exact Store.cut_eq_of_createSession hfresh hop
    | updateSessionConfigs id configs =>
      have hid : id ≠ sid := by simpa [Event.part?] using he
      cases hcall
      obtain ⟨updatedAt, -, -, hsame⟩ := Store.updateSessionConfigs_eq_ok_iff.mp hop
      rw [hsame]
      exact Store.cut_eq_of_updateSession hid fun _ => rfl
    | connectToSpace id spaceId =>
      have hid : id ≠ sid := by simpa [Event.part?] using he
      cases hcall
      obtain ⟨space, updatedAt, -, -, -, hsame⟩ := Store.connectSession_eq_ok_iff.mp hop
      rw [hsame]
      exact Store.cut_eq_of_updateSession hid fun _ => rfl
    | deleteSession id =>
      have hid : id ≠ sid := by simpa [Event.part?] using he
      cases hcall
      exact Store.cut_eq_of_deleteSession hs htaskless hid hop
    | sendMessage input =>
      have hsession : input.sessionId ≠ sid := by simpa [Event.part?] using he
      cases hcall
      obtain ⟨⟨store, message⟩, hinsert, hsame⟩ := map_eq_ok_iff.mp hop
      rw [← hsame]
      exact Store.cut_eq_of_insertMessage hsession hinsert
    | addTask id order data =>
      have hid : id ≠ sid := by simpa [Event.part?] using he
      cases hcall
      exact Store.cut_eq_of_insertTask hid hop
    | updateTaskStatus id status =>
      have hid : id ∉ tasks := by simpa [Event.part?] using he
      cases hcall
      obtain ⟨updatedAt, -, -, hsame⟩ := Store.updateTaskStatus_eq_ok_iff.mp hop
      rw [hsame]
      exact Store.cut_eq_of_updateTask (hother id hid) fun _ => rfl
    | markTaskSpaceDigested id =>
      have hid : id ∉ tasks := by simpa [Event.part?] using he
      cases hcall
      obtain ⟨updatedAt, -, -, hsame⟩ := Store.markTaskDigested_eq_ok_iff.mp hop
      rw [hsame]
      exact Store.cut_eq_of_updateTask (hother id hid) fun _ => rfl
    | createDisk projectId =>
      cases hcall
      obtain ⟨row, -, -, hsame⟩ := Store.createDisk_eq_ok_iff.mp hop
      rw [hsame]
      rfl
    | deleteDisk id =>
      cases hcall
      obtain ⟨-, hsame⟩ := Store.deleteDisk_eq_ok_iff.mp hop
      rw [hsame]
      rfl
    | createSpace projectId configs => simp [Event.part?] at he
    | updateSpaceConfigs id configs => simp [Event.part?] at he
    | deleteSpace id => simp [Event.part?] at he
    | setMessageProcessStatus ids status => simp [Event.part?] at he
    | _ => simp [Call.operation?] at hcall

end Agree

/-! ### Ids and their owners -/

/-- No id is drawn twice, and the lists hold the messages and exactly the tasks that the events send
and add to a session. -/
structure Owned (sid : Uuid) (messages tasks : List Uuid) (events : List Event) : Prop where
  distinct : (events.filterMap Event.drawn?).Nodup
  messages : ∀ e ∈ events, ∀ input, e.call = .sendMessage input → input.sessionId = sid →
    e.fresh ∈ messages
  tasks : ∀ e ∈ events, ∀ id order data, e.call = .addTask id order data →
    (e.fresh ∈ tasks ↔ id = sid)

/-- Events that draw the same id are the same. -/
lemma eq_of_drawn {events : List Event} (h : (events.filterMap Event.drawn?).Nodup) {e e' : Event}
    (he : e ∈ events) (he' : e' ∈ events) {id : Uuid} (hid : e.drawn? = some id)
    (hid' : e'.drawn? = some id) : e = e' := by
  by_contra hne
  let Differ (a b : Event) : Prop := ∀ x, a.drawn? = some x → ∀ y, b.drawn? = some y → x ≠ y
  have : Std.Symm Differ := ⟨fun a b hab x hx y hy => (hab y hy x hx).symm⟩
  have hpairs : events.Pairwise Differ := List.pairwise_filterMap.mp h
  exact hpairs.forall he he' hne id hid id hid' rfl

/-- Events with different ids own the messages and tasks of the session that they draw. -/
lemma owned_self {events : List Event} (h : (events.filterMap Event.drawn?).Nodup) (sid : Uuid) :
    Owned sid (events.filterMap (Event.messageOf? sid)) (events.filterMap (Event.taskOf? sid))
      events where
  distinct := h
  messages e he input hcall hsession := by
    refine List.mem_filterMap.mpr ⟨e, he, ?_⟩
    simp [Event.messageOf?, hcall, hsession]
  tasks e he id order data hcall := by
    constructor
    · intro hmem
      obtain ⟨e', he', htask⟩ := List.mem_filterMap.mp hmem
      unfold Event.taskOf? at htask
      split at htask
      next id' order' data' hcall' =>
        obtain ⟨hid', hfresh⟩ : id' = sid ∧ e'.fresh = e.fresh := by simpa using htask
        have hdrawn : e.drawn? = some e.fresh := by simp [Event.drawn?, hcall]
        have hdrawn' : e'.drawn? = some e.fresh := by simp [Event.drawn?, hcall', hfresh]
        obtain rfl : e = e' := eq_of_drawn h he he' hdrawn hdrawn'
        rw [hcall] at hcall'
        cases hcall'
        exact hid'
      next => simp at htask
    · rintro rfl
      exact List.mem_filterMap.mpr ⟨e, he, by simp [Event.taskOf?, hcall]⟩

namespace Owned

variable {messages tasks : List Uuid} {events : List Event} {e : Event} {s : Store}

/-- What is owned by all events is owned by those before the last one. -/
lemma init (h : Owned sid messages tasks (events ++ [e])) : Owned sid messages tasks events where
  distinct := by
    have hdistinct := h.distinct
    rw [List.filterMap_append] at hdistinct
    exact hdistinct.of_append_left
  messages e' he' := h.messages e' (List.mem_append_left _ he')
  tasks e' he' := h.tasks e' (List.mem_append_left _ he')

/-- An id that is drawn has not been drawn before. -/
lemma ne_of_drawn (h : Owned sid messages tasks (events ++ [e])) {id : Uuid}
    (hid : e.drawn? = some id) {e' : Event} (he' : e' ∈ events) : e'.drawn? ≠ some id := by
  intro hid'
  have hdistinct := h.distinct
  rw [List.filterMap_append, List.nodup_append] at hdistinct
  refine hdistinct.2.2 id (List.mem_filterMap.mpr ⟨e', he', hid'⟩) id ?_ rfl
  exact List.mem_filterMap.mpr ⟨e, List.mem_cons_self, hid⟩

/-- The id of a message that is sent is new. -/
lemma new_message (h : Owned sid messages tasks (events ++ [e])) (hs : Traced events s)
    {input : SendMessage} (hcall : e.call = .sendMessage input) :
    hasId (.ofUuid e.fresh) s.messages = false := by
  rw [Store.hasId_eq_false_iff]
  intro m hm hid
  obtain ⟨e', he', input', hcall', hid', -⟩ := hs.messages m hm
  have hdrawn : e.drawn? = some e.fresh := by simp [Event.drawn?, hcall]
  refine h.ne_of_drawn hdrawn he' ?_
  simp [Event.drawn?, hcall', Cell.ofUuid_injective (hid'.symm.trans hid)]

/-- The id of a task that is added is new. -/
lemma new_task (h : Owned sid messages tasks (events ++ [e])) (hs : Traced events s) {id : Uuid}
    {order : Int} {data : JsonObject} (hcall : e.call = .addTask id order data) :
    hasId (.ofUuid e.fresh) s.tasks = false := by
  rw [Store.hasId_eq_false_iff]
  intro t ht hid
  obtain ⟨e', he', id', order', data', hcall', hid', -⟩ := hs.tasks t ht
  have hdrawn : e.drawn? = some e.fresh := by simp [Event.drawn?, hcall]
  refine h.ne_of_drawn hdrawn he' ?_
  simp [Event.drawn?, hcall', Cell.ofUuid_injective (hid'.symm.trans hid)]

/-- The stored messages of the session are in the list. -/
lemma mem_messages (h : Owned sid messages tasks events) (hs : Traced events s) {m : MessageRow}
    (hm : m ∈ s.messages) (hsession : m.sessionId = .ofUuid sid) {id : Uuid}
    (hid : m.id = .ofUuid id) : id ∈ messages := by
  obtain ⟨e', he', input, hcall, hfresh, hto⟩ := hs.messages m hm
  rw [Cell.ofUuid_injective (hid.symm.trans hfresh)]
  exact h.messages e' he' input hcall (Cell.ofUuid_injective (hto.symm.trans hsession))

/-- Of the stored tasks those are in the list that belong to the session. -/
lemma mem_tasks_iff (h : Owned sid messages tasks events) (hs : Traced events s) {t : TaskRow}
    (ht : t ∈ s.tasks) {id : Uuid} (hid : t.id = .ofUuid id) :
    id ∈ tasks ↔ t.sessionId = .ofUuid sid := by
  obtain ⟨e', he', id', order, data, hcall, hfresh, hto⟩ := hs.tasks t ht
  rw [Cell.ofUuid_injective (hid.symm.trans hfresh), h.tasks e' he' id' order data hcall, hto,
    Cell.ofUuid_inj]

end Owned

/-! ### Runs -/

/-- What of an event concerns a session is the event, unless it is about a batch. -/
lemma part?_eq_some {messages tasks : List Uuid} {e e' : Event}
    (h : Event.part? sid messages tasks e = some e') :
    e' = e ∧ e.isBatch = false ∨ ∃ ids status, e.call = .setMessageProcessStatus ids status ∧
      e' = { e with call := .setMessageProcessStatus (ids.filter (· ∈ messages)) status } := by
  obtain ⟨fresh, now, call⟩ := e
  cases call with
  | setMessageProcessStatus ids status =>
    cases h
    exact .inr ⟨ids, status, rfl, rfl⟩
  | _ => exact .inl ⟨by grind [Event.part?], rfl⟩

/-- A run and what of it concerns a session agree on the session, and on the answers that concern
it. -/
lemma agree_run (limits : PagingLimits) (queue : Option Queue) {messages tasks : List Uuid}
    {events : List Event} (h : Owned sid messages tasks events) :
    let part := events.filterMap (Event.part? sid messages tasks)
    Agree sid ((start limits queue).run events) ((start limits queue).run part) ∧
      (((start limits queue).answers part).filter fun a => !a.1.isBatch) =
        ((start limits queue).answers events).filter fun a =>
          (Event.part? sid messages tasks a.1).isSome && !a.1.isBatch := by
  induction events using List.reverseRecOn with
  | nil => exact ⟨⟨rfl, rfl, rfl⟩, rfl⟩
  | append_singleton events e ih =>
    obtain ⟨hagree, hanswers⟩ := ih h.init
    have hreachable : ∀ events, ((start limits queue).run events).store.Reachable :=
      reachable_run ⟨[], rfl⟩
    have htraced := traced_run limits queue events
    simp only [List.filterMap_append, run_append, answers_append, List.filter_append, hanswers]
    rw [List.append_right_inj]
    generalize hfull : (start limits queue).run events = full at *
    generalize hpart :
      (start limits queue).run (events.filterMap (Event.part? sid messages tasks)) = part at *
    have hpartReachable : part.store.Reachable := hpart ▸ hreachable _
    have hfullReachable : full.store.Reachable := hfull ▸ hreachable _
    cases he : Event.part? sid messages tasks e with
    | none =>
      have hother : ∀ id ∉ tasks, ∀ t ∈ full.store.tasks, t.id = .ofUuid id →
          t.sessionId ≠ .ofUuid sid := fun id hid t ht hidt hsession =>
        hid ((h.init.mem_tasks_iff htraced ht hidt).mpr hsession)
      refine ⟨?_, ?_⟩
      · simpa [he] using hagree.of_other hfullReachable.wellFormed htraced.taskless hother he
      · simp [he, answers]
    | some e' =>
      rcases part?_eq_some he with ⟨rfl, hbatch⟩ | ⟨ids, status, hcall, rfl⟩
      · have hsame := hagree.perform hfullReachable hpartReachable
          he hbatch (fun input hcall => h.new_message htraced hcall)
          (fun id order data hcall => h.new_task htraced hcall)
          fun id hid t ht hidt => (h.init.mem_tasks_iff htraced ht hidt).mp hid
        obtain ⟨hanswer, hafter⟩ := hagree.after hsame
        refine ⟨?_, ?_⟩
        · simpa [he] using hafter
        · simp [he, answers, hbatch, hanswer]
      · refine ⟨?_, ?_⟩
        · have hafter := hagree.after_batch (fun m hm hsession id hid =>
            h.init.mem_messages htraced hm hsession hid) e.fresh e.now ids status
          rw [← hcall] at hafter
          simpa [he] using hafter
        · simp [he, answers, Event.isBatch, hcall]

/-- The view of a session is that of the store that is cut to it. -/
lemma view_cut (s : Store) (sid : Uuid) : (s.cut sid).view sid = s.view sid := by
  have hsession : (s.cut sid).sessions.find? (fun r => r.id == .ofUuid sid) =
      s.sessions.find? fun r => r.id == .ofUuid sid := by
    rw [← List.head?_filter, ← List.head?_filter]
    exact congrArg List.head? (Store.filter_filter_self _ _)
  rw [Store.view, Store.view, hsession]
  exact congr (congrArg _ (Store.filter_filter_self _ _)) (Store.filter_filter_self _ _)

/-- Whatever events follow one another on an empty store, each drawing ids of its own: a session
looks the same after them as after what of them concerns the session, and every answer that concerns
it is the same, but for the counts of batches. -/
theorem isolated_run (limits : PagingLimits) (queue : Option Queue) (sid : Uuid)
    (events : List Event) (hdistinct : (events.filterMap Event.drawn?).Nodup) :
    let s := start limits queue
    (s.run (Event.restrict sid events)).store.view sid = (s.run events).store.view sid ∧
      ((s.answers (Event.restrict sid events)).filter fun a => !a.1.isBatch) =
        (s.answers events).filter fun a =>
          (Event.partOf? sid events a.1).isSome && !a.1.isBatch := by
  intro s
  obtain ⟨hagree, hanswers⟩ := agree_run limits queue (owned_self hdistinct sid)
  refine ⟨?_, hanswers⟩
  have hstore : (s.run (Event.restrict sid events)).store = (s.run events).store.cut sid :=
    hagree.store
  rw [hstore, view_cut]

/-- Two sessions get messages in turn, a batch covers messages of both, and the second one is
removed: of the eight events four concern the first one, and the batch among them is about its
message. -/
theorem isolated_run_two_sessions :
    let event (fresh : Nat) (call : Call) : Event := ⟨.ofNat fresh, .ofNanos ⟨0, by decide⟩, call⟩
    let send (sessionId : Nat) : Call :=
      .sendMessage ⟨.ofNat 9, .ofNat sessionId, .user, [.ofText "hello"], []⟩
    let events := [event 1 (.createSession (.ofNat 9) none []),
      event 2 (.createSession (.ofNat 9) none []), event 3 (send 1), event 4 (send 2),
      event 5 (.addTask (.ofNat 2) 0 []),
      event 6 (.setMessageProcessStatus [.ofNat 3, .ofNat 4] .running),
      event 7 (.deleteSession (.ofNat 2)), event 8 (send 1)]
    let s := start ⟨20, 200⟩ none
    (events.filterMap Event.drawn?).Nodup ∧
      (Event.restrict (.ofNat 1) events).map (·.fresh) = [.ofNat 1, .ofNat 3, .ofNat 6, .ofNat 8] ∧
      (s.run (Event.restrict (.ofNat 1) events)).store.view (.ofNat 1) =
        (s.run events).store.view (.ofNat 1) := by
  intro event send events s
  have hdistinct : (events.filterMap Event.drawn?).Nodup := by decide
  exact ⟨hdistinct, by decide, (isolated_run ⟨20, 200⟩ none (.ofNat 1) events hdistinct).1⟩

end Colloquy.Service
