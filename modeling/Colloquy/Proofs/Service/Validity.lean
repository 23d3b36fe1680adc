import Colloquy.Proofs.Service.Refusal
import Colloquy.Proofs.Store.Keeping

/-!
# Stored messages are valid

The service makes a message only of parts that can be sent, and no operation touches the parts of a
stored message. So whatever calls come before, the parts of a message that is read back can be sent
again, though they went through their JSON form; and a message that cannot be stored is refused for
the first reason there is, in a fixed order (`Service.valid_run`).
-/

namespace Colloquy

namespace Part

/-- Parts that are found valid in the same way can be sent as well. -/
lemma Sendable.of_map_validate {parts parts' : List Part} (h : Sendable parts)
    (hsame : parts'.map validate = parts.map validate) : Sendable parts' := by
  refine ⟨fun hnil => h.some ?_, fun part' hpart' => ?_⟩
  · rw [hnil, List.map_nil] at hsame
    exact List.map_eq_nil_iff.mp hsame.symm
  · obtain ⟨part, hpart, hvalidate⟩ := List.mem_map.mp (hsame ▸ List.mem_map_of_mem hpart')
    exact hvalidate ▸ h.valid part hpart

/-- Parts that can be sent can be sent when they have been read back. -/
lemma Sendable.of_json? {parts parts' : List Part} (h : Sendable parts) {column : Nat}
    (hread : (Cell.ofParts parts).json? column listReader = .ok parts') : Sendable parts' :=
  h.of_map_validate <| map_validate_of_read <|
    Cell.read_of_json?_text (listToDocument_wellFormed parts) hread

end Part

namespace Service

/-! ### Stored parts -/

/-- The parts of every stored message can be sent. -/
def HoldsSendable (s : Store) : Prop :=
  ∀ r ∈ s.messages, ∃ parts, r.parts = .ofParts parts ∧ Part.Sendable parts

/-- A message that was sent has parts that can be sent. -/
lemma sendable_of_sendMessage {s : Service} {id : Uuid} {now : Instant} {input : SendMessage}
    {d : Delivery} (h : s.sendMessage id now input = .ok d) : Part.Sendable input.parts := by
  unfold sendMessage at h
  split at h
  next => simp at h
  next hempty =>
    obtain ⟨u, hcheck, -⟩ := bind_eq_ok_iff.mp h
    exact ⟨fun hnil => hempty (List.isEmpty_iff.mpr hnil), checkParts_eq_ok_iff.mp hcheck⟩

/-- After an event, the stored messages still have parts that can be sent. -/
lemma HoldsSendable.after {s : Service} (h : HoldsSendable s.store) (hs : s.store.WellFormed)
    (e : Event) : HoldsSendable (s.after e).store := by
  unfold Service.after
  cases hperform : s.perform e.fresh e.now e.call with
  | error refusal => exact h
  | ok result =>
    have hstore := (carries_of_perform hperform).store
    cases hcall : e.call.operation? e.fresh e.now with
    | none =>
      rw [hcall] at hstore
      exact hstore ▸ h
    | some op =>
      rw [hcall] at hstore
      intro r' hr'
      rcases Store.origin_of_message hs hstore hr' with
        ⟨r, hr, hrest⟩ | ⟨message, parentId, rfl, hrow⟩
      · exact hrest.parts ▸ h r hr
      · obtain ⟨input, hinput, rfl⟩ := eq_of_insertMessage hcall
        obtain ⟨-, -, -, -, -, hparts, -⟩ := Message.toRow_eq_ok_iff.mp hrow
        rw [hinput] at hperform
        obtain ⟨d, hsend, -⟩ := bind_eq_ok_iff.mp hperform
        exact ⟨input.parts, hparts, sendable_of_sendMessage hsend⟩

/-- After any events, the stored messages have parts that can be sent. -/
lemma holdsSendable_run (limits : PagingLimits) (queue : Option Queue) (events : List Event) :
    HoldsSendable ((start limits queue).run events).store :=
  run_induction (P := fun _ => HoldsSendable) (fun _ hr => absurd hr List.not_mem_nil)
    (fun _ _ e hs h => h.after hs e) limits queue events

/-- What is read of stored messages can be sent. -/
lemma sendable_of_getMessages {s : Service} (h : HoldsSendable s.store)
    (hs : s.store.WellFormed) {sessionId : Uuid} {request : PageRequest} {page : Page Message}
    (hpage : s.getMessages sessionId request = .ok page) {m : Message} (hm : m ∈ page.items) :
    Part.Sendable m.parts := by
  obtain ⟨q, hq, hlist⟩ := bind_eq_ok_iff.mp hpage
  obtain ⟨hcounted, -⟩ := PageRequest.resolve_eq_ok (mapError_eq_ok_iff.mp hq)
  obtain ⟨r, hr, hread⟩ := Listing.exists_row_of_mem_page
    (hs.rows (.messages sessionId)).written hcounted (stored_eq_ok_iff.mp hlist) hm
  obtain ⟨parts, hparts, hsendable⟩ := h r (List.mem_of_mem_filter hr)
  obtain ⟨-, -, -, -, -, hread, -⟩ := MessageRow.read_eq_ok_iff.mp hread
  exact hsendable.of_json? (hparts ▸ hread)

/-! ### Refused messages -/

/-- Nothing is found of a session exactly if it is not stored. -/
lemma session_eq_notFound_iff {s : Service} {id missing : Uuid} {entity : Entity} :
    s.session id = .error (.notFound entity missing) ↔
      entity = .session ∧ missing = id ∧ Store.hasId (.ofUuid id) s.store.sessions = false := by
  rw [session, present_eq_error_iff, Store.session?, Store.find?_eq_ok_none_iff]
  simp [and_comm, and_assoc]

/-- Every message that is read back after a run has parts, and none of them lacks anything. A
message is refused as empty exactly if it has no parts, for a part exactly if that part is the first
that lacks something, and for its session exactly if nothing is wrong with its parts and the session
is not stored; a refused message leaves everything as it was. -/
theorem valid_run (limits : PagingLimits) (queue : Option Queue) (events : List Event) :
    let s := (start limits queue).run events
    (∀ sessionId request page, s.getMessages sessionId request = .ok page →
      ∀ m ∈ page.items, Part.Sendable m.parts) ∧
    ∀ (id : Uuid) (now : Instant) (input : SendMessage),
      (s.sendMessage id now input = .error .emptyMessage ↔ input.parts = []) ∧
      (∀ i fault, s.sendMessage id now input = .error (.invalidPart i fault) ↔
        Part.FirstFault input.parts i fault) ∧
      (∀ entity missing, s.sendMessage id now input = .error (.notFound entity missing) ↔
        Part.Sendable input.parts ∧ entity = .session ∧ missing = input.sessionId ∧
          Store.hasId (.ofUuid input.sessionId) s.store.sessions = false) ∧
      ∀ refusal, s.sendMessage id now input = .error refusal →
        s.after ⟨id, now, .sendMessage input⟩ = s := by
  intro s
  refine ⟨fun sessionId request page hpage m hm => ?_, fun id now input => ⟨?_, ?_, ?_, ?_⟩⟩
  · exact sendable_of_getMessages (holdsSendable_run limits queue events)
      (reachable_run ⟨[], rfl⟩ events).wellFormed hpage hm
  · rw [sendMessage_eq_error_iff]
    simp [session, present_eq_error_iff]
  · intro i fault
    rw [sendMessage_eq_error_iff]
    simp [session, present_eq_error_iff]
  · intro entity missing
    rw [sendMessage_eq_error_iff, session_eq_notFound_iff]
    simp
  · intro refusal hrefusal
    simp only [after, perform, hrefusal, error_bind_eq]

/-- A message with a part of free data comes back with a part that has the key it needs. -/
theorem valid_run_data_part :
    let part : Part := { kind := .data, metadata := some [("data_type", .string "csv")] }
    let now := Instant.ofNanos ⟨0, by decide⟩
    let s := (start {} none).run
      [⟨.ofNat 1, now, .createSession (.ofNat 7) none []⟩,
        ⟨.ofNat 2, now, .sendMessage ⟨.ofNat 7, .ofNat 1, .user, [part], []⟩⟩]
    ∃ page, s.getMessages (.ofNat 1) {} = .ok page ∧ page.items.length = 1 ∧
      ∀ m ∈ page.items, Part.Sendable m.parts := by
  intro part now s
  have hlength : (s.getMessages (.ofNat 1) {}).toOption.map (·.items.length) = some 1 := by
    decide +kernel
  cases hpage : s.getMessages (.ofNat 1) {} with
  | error refusal => simp [hpage, Except.toOption] at hlength
  | ok page =>
    refine ⟨page, rfl, by simpa [hpage, Except.toOption] using hlength, ?_⟩
    exact (valid_run _ _ _).1 _ _ page hpage

end Service

end Colloquy
