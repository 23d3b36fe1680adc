import Colloquy.Proofs.Service.Operation
import Colloquy.Service.Announcement

/-!
# The queue follows the store

Nothing but the announcement of a stored message looks at the queue of a service or writes to it. So
a call comes to the same with any queue in place of another, up to that announcement
(`perform_withQueue`). From this one step both results on runs follow: the queue has no influence on
the store and on what callers are told, and it receives what was sent, in order
(`announces_run`).
-/

namespace Colloquy.Service

variable {s s' : Service} {queue : Option Queue} {fresh : Uuid} {now : Instant} {call : Call}
  {reply : Reply} {e : Event}

/-- What a call came to, with another queue for its announcement. -/
def deliver (queue : Option Queue) : Call → Service × Reply → Service × Reply
  | .sendMessage input, (s, .sent m _) =>
    let d := (s.withQueue queue).announce input.projectId m
    (d.service, .sent d.message d.announcement)
  | _, (s, reply) => (s.withQueue queue, reply)

/-! ### One call -/

/-- A message is given back as it is announced. -/
lemma announce_message (s : Service) (projectId : Uuid) (m : Message) :
    (s.announce projectId m).message = m := by
  unfold announce
  cases s.queue with
  | none => rfl
  | some queue =>
    dsimp only
    cases queue.publish ⟨projectId, m.sessionId, m.id⟩ <;> rfl

/-- An announcement changes nothing but the queue. -/
lemma exists_announce_eq (s : Service) (projectId : Uuid) (m : Message) :
    ∃ queue, (s.announce projectId m).service = s.withQueue queue := by
  unfold announce
  cases hqueue : s.queue with
  | none => exact ⟨s.queue, rfl⟩
  | some queue =>
    dsimp only
    cases queue.publish ⟨projectId, m.sessionId, m.id⟩ with
    | error e => exact ⟨s.queue, rfl⟩
    | ok queue => exact ⟨some queue, rfl⟩

/-- A call that only looks something up does the same with another queue. -/
lemma withQueue_reading {α : Type} (x : Except ServiceError α) (answer : α → Reply)
    (hcall : ∀ a, deliver queue call (s, answer a) = (s.withQueue queue, answer a)) :
    (do return (s.withQueue queue, answer (← x))) =
      (do return (s, answer (← x))).map (deliver queue call) := by
  cases x with
  | error e => rfl
  | ok a => exact congrArg Except.ok (hcall a).symm

/-- A call that changes the store does the same with another queue. -/
lemma withQueue_change (change : Except StoreError Store) (answer : Reply)
    (hcall : ∀ s, deliver queue call (s, answer) = (s.withQueue queue, answer)) :
    (do return (← (s.withQueue queue).withStore change, answer)) =
      (do return (← s.withStore change, answer)).map (deliver queue call) := by
  cases change with
  | error e => rfl
  | ok store => exact congrArg Except.ok (hcall { s with store }).symm

/-- So does a call that gives back what it has made. -/
lemma withQueue_new {α : Type} (change : Except StoreError Store) (record : α) (answer : α → Reply)
    (hcall : ∀ s, deliver queue call (s, answer record) = (s.withQueue queue, answer record)) :
    (do
      let (s, record) ← (do return (← (s.withQueue queue).withStore change, record))
      return (s, answer record)) =
    (do
      let (s, record) ← (do return (← s.withStore change, record))
      return (s, answer record)).map (deliver queue call) := by
  cases change with
  | error e => rfl
  | ok store => exact congrArg Except.ok (hcall { s with store }).symm

/-- Sending a message comes to the same with another queue, up to the announcement. -/
lemma sendMessage_withQueue (input : SendMessage) :
    (s.withQueue queue).perform fresh now (.sendMessage input) =
      (s.perform fresh now (.sendMessage input)).map (deliver queue (.sendMessage input)) := by
  have hsession : (s.withQueue queue).session input.sessionId = s.session input.sessionId := rfl
  have hstore : (s.withQueue queue).store = s.store := rfl
  simp only [perform, sendMessage, hsession, hstore]
  split
  · rfl
  · cases checkParts 0 input.parts with
    | error e => rfl
    | ok u =>
      cases s.session input.sessionId with
      | error e => rfl
      | ok session =>
        simp only [ok_bind_eq]
        cases s.store.insertMessage
            (.new fresh now input.sessionId input.role input.parts input.metadata) with
        | error e => rfl
        | ok stored =>
          obtain ⟨store, m⟩ := stored
          obtain ⟨queue', hannounced⟩ := exists_announce_eq { s with store } input.projectId m
          change Except.ok (_, Reply.sent _ _) = Except.ok (deliver queue (.sendMessage input)
            ((announce { s with store } input.projectId m).service,
              .sent (announce { s with store } input.projectId m).message _))
          rw [announce_message { s with store }, hannounced]
          rfl

/-- A call comes to the same with another queue, up to the announcement. -/
theorem perform_withQueue (s : Service) (queue : Option Queue) (fresh : Uuid) (now : Instant)
    (call : Call) : (s.withQueue queue).perform fresh now call =
      (s.perform fresh now call).map (deliver queue call) := by
  cases call with
  | createSpace projectId configs => exact withQueue_new _ _ _ fun _ => rfl
  | space id => exact withQueue_reading _ _ fun _ => rfl
  | updateSpaceConfigs id configs => exact withQueue_change _ _ fun _ => rfl
  | deleteSpace id => exact withQueue_change _ _ fun _ => rfl
  | listSpaces projectId request => exact withQueue_reading _ _ fun _ => rfl
  | createSession projectId spaceId configs =>
    cases spaceId with
    | none => exact withQueue_new _ _ _ fun _ => rfl
    | some spaceId =>
      have hspace : (s.withQueue queue).space spaceId = s.space spaceId := rfl
      simp only [perform, createSession, hspace]
      cases s.space spaceId with
      | error e => rfl
      | ok space => exact withQueue_new _ _ _ fun _ => rfl
  | session id => exact withQueue_reading _ _ fun _ => rfl
  | updateSessionConfigs id configs => exact withQueue_change _ _ fun _ => rfl
  | connectToSpace id spaceId => exact withQueue_change _ _ fun _ => rfl
  | deleteSession id => exact withQueue_change _ _ fun _ => rfl
  | listSessions projectId filter request => exact withQueue_reading _ _ fun _ => rfl
  | sendMessage input => exact sendMessage_withQueue input
  | getMessages sessionId request => exact withQueue_reading _ _ fun _ => rfl
  | pendingMessageCount sessionId => rfl
  | setMessageProcessStatus ids status =>
    have hstore : (s.withQueue queue).store = s.store := rfl
    simp only [perform, setMessageProcessStatus, hstore]
    cases s.store.setProcessStatus now ids status <;> rfl
  | addTask sessionId order data =>
    have hsession : (s.withQueue queue).session sessionId = s.session sessionId := rfl
    simp only [perform, addTask, hsession]
    cases s.session sessionId with
    | error e => rfl
    | ok session => exact withQueue_new _ _ _ fun _ => rfl
  | updateTaskStatus id status => exact withQueue_change _ _ fun _ => rfl
  | markTaskSpaceDigested id => exact withQueue_change _ _ fun _ => rfl
  | getTasks sessionId request => exact withQueue_reading _ _ fun _ => rfl
  | learningStatus sessionId => rfl
  | createDisk projectId => exact withQueue_new _ _ _ fun _ => rfl
  | deleteDisk id => exact withQueue_change _ _ fun _ => rfl
  | listDisks projectId request => exact withQueue_reading _ _ fun _ => rfl

/-! ### Without influence -/

/-- What is delivered with another queue differs in the queue and in the announcement. -/
lemma deliver_eq (queue : Option Queue) (call : Call) (s : Service) (reply : Reply) :
    (∃ queue', (deliver queue call (s, reply)).1 = s.withQueue queue') ∧
      (deliver queue call (s, reply)).2.unannounced = reply.unannounced := by
  unfold deliver
  split
  next input _ m _ heq =>
    cases heq
    obtain ⟨queue', hannounced⟩ := exists_announce_eq (s.withQueue queue) input.projectId m
    refine ⟨⟨queue', hannounced⟩, ?_⟩
    dsimp only
    rw [announce_message]
    rfl
  next heq =>
    cases heq
    exact ⟨⟨queue, rfl⟩, rfl⟩

/-- With another queue, an event leaves the same store and is answered alike. -/
lemma after_withQueue (s : Service) (queue : Option Queue) (e : Event) :
    (∃ queue', (s.withQueue queue).after e = (s.after e).withQueue queue') ∧
      ((s.withQueue queue).answer e).map Reply.unannounced =
        (s.answer e).map Reply.unannounced := by
  unfold after answer
  rw [perform_withQueue]
  cases s.perform e.fresh e.now e.call with
  | error err => exact ⟨⟨queue, rfl⟩, rfl⟩
  | ok result =>
    obtain ⟨hqueue, htold⟩ := deliver_eq queue e.call result.1 result.2
    exact ⟨hqueue, congrArg Except.ok htold⟩

/-- With another queue, a run leaves the same store, and callers are told the same. -/
lemma run_withQueue (s : Service) (queue : Option Queue) (events : List Event) :
    (∃ queue', (s.withQueue queue).run events = (s.run events).withQueue queue') ∧
      (s.withQueue queue).told events = s.told events := by
  induction events generalizing s queue with
  | nil => exact ⟨⟨queue, rfl⟩, rfl⟩
  | cons e rest ih =>
    obtain ⟨⟨queue', hafter⟩, hanswer⟩ := after_withQueue s queue e
    obtain ⟨hrun, htold⟩ := ih (s.after e) queue'
    rw [← hafter] at hrun htold
    refine ⟨hrun, ?_⟩
    exact congrArg₂ List.cons hanswer htold

/-! ### What is received -/

/-- An open queue receives what a call has to announce. -/
lemma queue_deliver (received : List MessageInserted) (e : Event) (s : Service) (reply : Reply) :
    (deliver (some ⟨true, received⟩) e.call (s, reply)).1.queue =
      some ⟨true, received ++ (announcement? (e, .ok reply)).toList⟩ := by
  obtain ⟨fresh, now, call⟩ := e
  have hnone : (s.withQueue (some ⟨true, received⟩)).queue =
      some ⟨true, received ++ (none : Option MessageInserted).toList⟩ := by
    rw [Option.toList_none, List.append_nil]
    rfl
  cases call with
  | sendMessage input =>
    cases reply with
    | sent m announcement => rfl
    | _ => exact hnone
  | _ => exact hnone

/-- An event adds to an open queue what has to be announced for its answer. -/
lemma queue_after {received : List MessageInserted} (h : s.queue = some ⟨true, received⟩)
    (e : Event) :
    (s.after e).queue = some ⟨true, received ++ (announcement? (e, s.answer e)).toList⟩ := by
  have hsame := perform_withQueue s s.queue e.fresh e.now e.call
  rw [show s.withQueue s.queue = s from rfl] at hsame
  unfold after answer
  cases hperform : s.perform e.fresh e.now e.call with
  | error err =>
    obtain ⟨fresh, now, call⟩ := e
    cases call <;> simp [announcement?, Except.map, h]
  | ok result =>
    -- the call did the same to the queue as it does when its announcement is delivered again
    rw [hperform, h] at hsame
    have hresult := Except.ok.inj hsame
    have hqueue := queue_deliver received e result.1 result.2
    rw [← hresult] at hqueue
    exact hqueue

/-- A run adds to an open queue what has to be announced for its answers. -/
lemma queue_run {received : List MessageInserted} (h : s.queue = some ⟨true, received⟩)
    (events : List Event) :
    (s.run events).queue = some ⟨true, received ++ (s.answers events).filterMap announcement?⟩ := by
  induction events generalizing s received with
  | nil => rw [run_nil, h, answers, List.filterMap_nil, List.append_nil]
  | cons e rest ih =>
    have hrest := ih (queue_after h e)
    rw [List.append_assoc] at hrest
    rw [answers, List.filterMap_cons]
    cases hannounced : announcement? (e, s.answer e) with
    | none =>
      rw [hannounced] at hrest
      exact hrest
    | some announced =>
      rw [hannounced] at hrest
      exact hrest

/-- A message that was sent is stored in its session, and is announced if somebody listens. -/
lemma stored_of_sendMessage {input : SendMessage} {received : List MessageInserted}
    (hopen : s.queue = some ⟨true, received⟩) (hcall : e.call = .sendMessage input)
    (hanswer : s.answer e = .ok reply) :
    ∃ m, reply = .sent m (some (.ok ⟨input.projectId, input.sessionId, m.id⟩)) ∧
      m.sessionId = input.sessionId ∧ ∃ row ∈ (s.after e).store.messages, m.toRow = .ok row := by
  unfold answer at hanswer
  unfold after
  rw [hcall] at hanswer ⊢
  obtain ⟨⟨s', _⟩, hperform, rfl⟩ := map_eq_ok_iff.mp hanswer
  rw [hperform]
  obtain ⟨d, hsend, hresult⟩ := bind_eq_ok_iff.mp hperform
  obtain ⟨rfl, rfl⟩ := Prod.mk.inj (pure_eq_ok_iff.mp hresult)
  obtain ⟨store, m, hinsert, rfl⟩ := sendMessage_eq_ok hsend
  obtain ⟨parentId, row, -, rfl, hrow, -, -, -, -, rfl⟩ := Store.insertMessage_eq_ok_iff.mp hinsert
  refine ⟨_, ?_, rfl, row, ?_, hrow⟩
  · simp [announce, hopen, Queue.publish, Message.new]
  · simp [announce, hopen, Queue.publish]

/-- The queue has no influence on the store and on what callers are told; and an open queue
receives, in the order of the events, exactly one announcement for each message that was sent, which
is stored in its session by then. -/
theorem announces_run (store : Store) (limits : PagingLimits) (events : List Event) :
    let service (queue : Option Queue) : Service := ⟨store, limits, queue⟩
    let listened := service (some (.empty true))
    (∀ queue, ((service queue).run events).store = ((service none).run events).store ∧
      (service queue).told events = (service none).told events) ∧
    (listened.run events).queue = some ⟨true, (listened.answers events).filterMap announcement?⟩ ∧
    ∀ before e after input reply, events = before ++ e :: after → e.call = .sendMessage input →
      (listened.run before).answer e = .ok reply →
        ∃ m, reply = .sent m (some (.ok ⟨input.projectId, input.sessionId, m.id⟩)) ∧
          m.sessionId = input.sessionId ∧
          ∃ row ∈ (listened.run (before ++ [e])).store.messages, m.toRow = .ok row := by
  intro service listened
  have hopen (events : List Event) : (listened.run events).queue =
      some ⟨true, (listened.answers events).filterMap announcement?⟩ :=
    queue_run (show listened.queue = some ⟨true, []⟩ from rfl) events
  refine ⟨fun queue => ?_, hopen events, ?_⟩
  · obtain ⟨⟨queue', hrun⟩, htold⟩ := run_withQueue (service none) queue events
    have hstore := congrArg Service.store hrun
    exact ⟨hstore, htold⟩
  · intro before e after input reply _ hcall hanswer
    rw [run_append]
    exact stored_of_sendMessage (hopen before) hcall hanswer

/-- A message without parts and one to an unknown session are not announced, and the others are. -/
example :
    let event (fresh : Nat) (call : Call) : Event := ⟨.ofNat fresh, .ofNanos ⟨0, by decide⟩, call⟩
    let send (sessionId : Nat) (parts : List Part) : Call :=
      .sendMessage ⟨.ofNat 9, .ofNat sessionId, .user, parts, []⟩
    let events := [event 1 (.createSession (.ofNat 9) none []), event 2 (send 1 []),
      event 3 (send 1 [.ofText "hello"]), event 4 (send 5 [.ofText "hello"]),
      event 6 (send 1 [.ofText "again"])]
    ((start {} (some (.empty true))).run events).queue.map Queue.received =
      some [⟨.ofNat 9, .ofNat 1, .ofNat 3⟩, ⟨.ofNat 9, .ofNat 1, .ofNat 6⟩] := by
  decide +kernel

end Colloquy.Service
