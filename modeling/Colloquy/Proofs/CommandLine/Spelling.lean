import Colloquy.Proofs.CommandLine.Reading
import Colloquy.Proofs.CommandLine.Usage
import Colloquy.Proofs.Service.Refusal
import Colloquy.Proofs.Store.Keeping
import Colloquy.Proofs.Store.Refusal
import Colloquy.Proofs.Text.Decimal

/-!
# Values that can be given

Every integer can be given as the order of a task, and every text as a text of a message, but not
every one as a word of its own: where the value begins with a hyphen it has to be attached to its
option (`CommandLine.given_values`). The proof goes through the arguments of a line one by one; what
they add up to is what the command is made of, and running it is one call of the service.
-/

namespace Colloquy

open Usage

variable {p : Progress} {found : Arguments} {k : Nat}

/-! ### Words that are values -/

/-- A word that does not begin with a hyphen does not begin like an option. -/
lemma Word.beginsOption_eq_false {s : String} (h : ∀ c, s.toList.head? = some c → c ≠ '-') :
    beginsOption s = false := by
  unfold beginsOption
  split
  next heq => exact absurd rfl (h '-' (by rw [heq]; rfl))
  next => rfl

/-- The text of an id does not begin like an option. -/
lemma Uuid.beginsOption_text (id : Uuid) : Word.beginsOption id.text = false := by
  refine Word.beginsOption_eq_false fun c hc => ?_
  have hdigit : ∀ d < 16, Nat.digitChar d ≠ '-' := by decide
  have hlen : (hexDigits 32 id.toNat).length = 32 := length_hexDigits 32 id.toNat
  obtain ⟨first, rest, hdigits⟩ := List.exists_cons_of_ne_nil
    (List.ne_nil_of_length_pos (l := hexDigits 32 id.toNat) (by omega))
  obtain ⟨d, hd, rfl⟩ := mem_hexDigits (hdigits ▸ List.mem_cons_self)
  rw [text, String.toList_ofList, chars, hyphenate, hdigits] at hc
  obtain rfl : Nat.digitChar d = c := by simpa using hc
  exact hdigit d hd

/-- The text of an integer begins with a hyphen if the integer is negative. -/
lemma Decimal.beginsOption_ofInt (n : Int) :
    Word.beginsOption (.ofList (ofInt n)) = decide (n < 0) := by
  cases n with
  | ofNat m =>
    refine (Word.beginsOption_eq_false fun c hc => ?_).trans (by simp)
    rw [String.toList_ofList] at hc
    have hdigit : c.isDigit :=
      Nat.isDigit_of_mem_toDigits (by decide) (by decide) (List.mem_of_mem_head? hc)
    rintro rfl
    simp at hdigit
  | negSucc m =>
    obtain ⟨c, rest, hdigits⟩ := List.exists_cons_of_ne_nil
      (show ofNat (m + 1) ≠ [] from Nat.toDigits_ne_nil)
    rw [Word.beginsOption, String.toList_ofList, ofInt, hdigits]
    simp

namespace CommandLine

/-- The text of an id is read as the operand for an id. -/
lemma read_idOperand (id : Uuid) : idOperand.read id.text = .ok (.id id) := by
  simp [idOperand, Parameter.read, ValueKind.read, Uuid.read?, Uuid.text, Uuid.ofChars?_chars]

/-- What naming a project adds. -/
def projectArguments : Option Uuid → Arguments
  | some id => [("project", [.id id])]
  | none => []

/-- The words that name a project add it. -/
lemma adds_projectWords {usage : CommandUsage Command} (h : p.Amounts found k)
    (hfind : ((Usage.command usage).options sharedOptions).find? (·.name == "project") =
      some { name := "project", takes := some .id })
    (hnew : found.has "project" = false) (project : Option Uuid) :
    Adds sharedOptions usage p (projectWords project) (found ++ projectArguments project) k := by
  cases project with
  | none =>
    rw [projectArguments, List.append_nil]
    exact .nil h
  | some id =>
    exact adds_option { name := "project", takes := some .id } ⟨id.text, false⟩ h
      (by decide) hfind rfl (.inr id.beginsOption_text) (read_idOperand id)
      (.inr hnew)

/-- A command and its project are made of what the words after its name add. -/
lemma parse_of_adds {cu : CommandUsage Command} {words rest : List String} {command : Command}
    {project : Option Uuid} (hlevel : usage.read sharedOptions {} words =
      (Usage.command cu).read sharedOptions {} rest)
    (hadds : Adds sharedOptions cu {} rest found k)
    (hexclusive : (cu.exclusive.any fun (a, b) => found.has a && found.has b) = false)
    (hmake : cu.make found = some command)
    (hshared : (found.filter fun (name, _) => sharedOptions.any (·.name == name)) =
      projectArguments project) :
    parse words = .ok ⟨none, none, project, false, command⟩ := by
  obtain ⟨p, hp, hread⟩ := hadds
  rw [parse, Usage.parse, hlevel, ← List.append_nil rest, hread, read_made hp hexclusive hmake,
    hshared, ok_bind_eq]
  cases project <;> rfl

/-- Words that cannot be read make no command. -/
lemma parse_eq_error {words : List String} (h : ∃ e, usage.read sharedOptions {} words = .error e) :
    ∃ e, parse words = .error e := by
  obtain ⟨e, he⟩ := h
  exact ⟨e, by rw [parse, Usage.parse, he, error_bind_eq]⟩

section Tasks

variable {order : GivenValue}

/-- The words for adding a task are read as those of that command. -/
lemma read_add (rest : List String) : usage.read sharedOptions {} ("task" :: "add" :: rest) =
    (Usage.command addUsage).read sharedOptions {} rest :=
  (read_named (u := usage) rfl rfl _).trans (read_named (u := taskUsage) rfl rfl _)

/-- The session of a task is its first operand. -/
lemma adds_session_add (sessionId : Uuid) :
    Adds sharedOptions addUsage {} [sessionId.text] [("ID", [.id sessionId])] 1 :=
  adds_operand (Progress.amounts_settled [] 0) rfl rfl sessionId.beginsOption_text
    (read_idOperand sessionId) rfl

/-- A line that adds a task is read as that if its order is taken as a value. -/
lemma parse_addTaskWords {n : Decimal.Int64} (horder : order.text = .ofList (Decimal.ofInt n.1))
    (hgiven : order.Accepted) (sessionId : Uuid) (project : Option Uuid) :
    parse (addTaskWords sessionId order project) =
      .ok ⟨none, none, project, false, .addTask sessionId n.1 none⟩ := by
  have hread : ValueKind.read .int64 order.text = .ok (.number n.1) := by
    rw [horder, ValueKind.read, String.toList_ofList, Decimal.readInt64_ofInt]
    rfl
  have hadds := (adds_session_add sessionId).append fun p hp =>
    (adds_option { name := "order", takes := some .int64 } order hp (by decide) rfl rfl
      hgiven hread (.inr rfl)).append fun p hp =>
        adds_projectWords hp rfl rfl project
  refine parse_of_adds (read_add _) hadds rfl ?_ ?_
  · cases project <;> rfl
  · cases project <;> rfl

/-- If the order is not taken as a value, the line is refused. -/
lemma parse_addTaskWords_eq_error (hgiven : ¬order.Accepted) (sessionId : Uuid)
    (project : Option Uuid) : ∃ e, parse (addTaskWords sessionId order project) = .error e := by
  obtain ⟨p, hp, hadds⟩ := adds_session_add sessionId
  apply parse_eq_error
  rw [addTaskWords, List.cons_append, List.cons_append, read_add, hadds]
  exact exists_error_of_not_accepted { name := "order", takes := some .int64 } hp
    (by decide) rfl rfl hgiven rfl _

end Tasks

section Texts

/-- The option for a text of a message. -/
def textOption : Parameter := { name := "text", takes := some .text, repeatable := true }

/-- The words for sending a message are read as those of that command. -/
lemma read_send (rest : List String) : usage.read sharedOptions {} ("message" :: "send" :: rest) =
    (Usage.command sendUsage).read sharedOptions {} rest :=
  (read_named (u := usage) rfl rfl _).trans (read_named (u := messageUsage) rfl rfl _)

/-- The session of a message is its first operand. -/
lemma adds_session_send (sessionId : Uuid) :
    Adds sharedOptions sendUsage {} [sessionId.text] [("ID", [.id sessionId])] 1 :=
  adds_operand (Progress.amounts_settled [] 0) rfl rfl sessionId.beginsOption_text
    (read_idOperand sessionId) rfl

/-- What texts add to a message. -/
def textArguments (texts : List GivenValue) : Arguments :=
  texts.map fun t => ("text", [.text t.text])

/-- A text that is accepted adds itself. -/
lemma adds_text {t : GivenValue} (hgiven : t.Accepted) (h : p.Amounts found k) :
    Adds sharedOptions sendUsage p (t.words "text") (found ++ [("text", [.text t.text])]) k :=
  adds_option textOption t h (by decide) rfl rfl hgiven rfl (.inl rfl)

/-- Texts are added one after another. -/
lemma adds_texts {texts : List GivenValue} (hgiven : ∀ t ∈ texts, t.Accepted)
    (h : p.Amounts found k) :
    Adds sharedOptions sendUsage p (texts.flatMap (GivenValue.words "text"))
      (found ++ textArguments texts) k := by
  induction texts generalizing p found with
  | nil =>
    rw [textArguments, List.map_nil, List.append_nil]
    exact .nil h
  | cons t rest ih =>
    obtain ⟨hfirst, hrest⟩ := List.forall_mem_cons.mp hgiven
    rw [List.flatMap_cons, textArguments, List.map_cons, List.append_cons]
    exact (adds_text hfirst h).append fun p hp => ih hrest hp

/-- One text that is not taken as a value is enough for a line to be refused. -/
lemma exists_error_of_texts {texts : List GivenValue} (hgiven : ¬∀ t ∈ texts, t.Accepted)
    (h : p.Amounts found 1) (more : List String) :
    ∃ e, (Usage.command sendUsage).read sharedOptions p
      (texts.flatMap (GivenValue.words "text") ++ more) = .error e := by
  induction texts generalizing p found with
  | nil => simp at hgiven
  | cons t rest ih =>
    rw [List.flatMap_cons, List.append_assoc]
    by_cases hfirst : t.Accepted
    · have hrest : ¬∀ t ∈ rest, t.Accepted := fun hrest =>
        hgiven (List.forall_mem_cons.mpr ⟨hfirst, hrest⟩)
      obtain ⟨p', hp', hread⟩ := adds_text hfirst h
      rw [hread]
      exact ih hrest hp'
    · exact exists_error_of_not_accepted textOption h (by decide) rfl rfl hfirst
        rfl _

/-- Texts give no other argument. -/
lemma has_textArguments (texts : List GivenValue) {name : String} (hname : name ≠ "text") :
    (textArguments texts).has name = false := by
  refine Arguments.has_eq_false_iff.mpr fun e he => ?_
  obtain ⟨t, -, rfl⟩ := List.mem_map.mp he
  exact hname.symm

/-- A project gives no other argument. -/
lemma has_projectArguments (project : Option Uuid) {name : String} (hname : name ≠ "project") :
    (projectArguments project).has name = false := by
  cases project with
  | none => rfl
  | some id => simpa [projectArguments, Arguments.has] using hname.symm

/-- The values of the texts are the texts in their order. -/
lemma values_textArguments (texts : List GivenValue) :
    (textArguments texts).values "text" = texts.map fun t => .text t.text := by
  induction texts with
  | nil => rfl
  | cons t rest ih => exact congrArg (Value.text t.text :: ·) ih

/-- The message that is made of texts has these texts, in their order. -/
lemma make_sendUsage (sessionId : Uuid) (texts : List GivenValue) (project : Option Uuid) :
    sendUsage.make ([("ID", [.id sessionId])] ++ textArguments texts ++ projectArguments project) =
      some (.sendMessage sessionId .user (texts.map (·.text)) [] none) := by
  generalize hfound :
    ([("ID", [.id sessionId])] ++ textArguments texts ++ projectArguments project : Arguments) =
      found
  have hhas : ∀ name, name ≠ "ID" → name ≠ "text" → name ≠ "project" → found.has name = false := by
    intro name hid htext hproject
    rw [← hfound, Arguments.has_append, Arguments.has_append, has_textArguments texts htext,
      has_projectArguments project hproject, Bool.or_false, Bool.or_false]
    exact Arguments.has_eq_false_iff.mpr (by simpa using hid.symm)
  have hid : found.id? "ID" = some sessionId := by
    rw [← hfound]
    rfl
  have hrole : found.role? "role" = none := by
    rw [Arguments.role?, Arguments.value?_eq_none (hhas _ (by decide) (by decide) (by decide))]
  have hmeta : found.text? "meta" = none := by
    rw [Arguments.text?, Arguments.value?_eq_none (hhas _ (by decide) (by decide) (by decide))]
  have hparts : found.texts "part" = [] := by
    rw [Arguments.texts, Arguments.values_eq_nil (hhas _ (by decide) (by decide) (by decide))]
    rfl
  have htexts : found.texts "text" = texts.map (·.text) := by
    rw [Arguments.texts, ← hfound, Arguments.values_append, Arguments.values_append,
      values_textArguments, Arguments.values_eq_nil (has_projectArguments project (by decide)),
      List.append_nil]
    change ((texts.map fun t => Value.text t.text).filterMap _) = _
    rw [List.filterMap_map]
    exact congrFun List.filterMap_eq_map texts
  simp only [sendUsage, hid, hrole, htexts, hparts, hmeta]
  rfl

/-- A line that sends texts is read as that if each text is taken as a value. -/
lemma parse_sendTextsWords {texts : List GivenValue} (hgiven : ∀ t ∈ texts, t.Accepted)
    (sessionId : Uuid) (project : Option Uuid) :
    parse (sendTextsWords sessionId texts project) = .ok ⟨none, none, project, false,
      .sendMessage sessionId .user (texts.map (·.text)) [] none⟩ := by
  have hadds := (adds_session_send sessionId).append fun p hp =>
    (adds_texts hgiven hp).append fun p hp => by
      refine adds_projectWords hp rfl ?_ project
      rw [Arguments.has_append, has_textArguments texts (by decide)]
      rfl
  refine parse_of_adds (read_send _) hadds rfl (make_sendUsage sessionId texts project) ?_
  have hnone : (textArguments texts).filter (fun (name, _) => sharedOptions.any (·.name == name)) =
      [] := by
    refine List.filter_eq_nil_iff.mpr fun e he => ?_
    obtain ⟨t, -, rfl⟩ := List.mem_map.mp he
    change ¬(sharedOptions.any (·.name == "text") = true)
    decide
  rw [List.filter_append, List.filter_append, hnone]
  cases project <;> rfl

/-- If one text is not taken as a value, the line is refused. -/
lemma parse_sendTextsWords_eq_error {texts : List GivenValue} (hgiven : ¬∀ t ∈ texts, t.Accepted)
    (sessionId : Uuid) (project : Option Uuid) :
    ∃ e, parse (sendTextsWords sessionId texts project) = .error e := by
  obtain ⟨p, hp, hadds⟩ := adds_session_send sessionId
  apply parse_eq_error
  rw [sendTextsWords, List.cons_append, List.cons_append, read_send, hadds]
  exact exists_error_of_texts hgiven hp _

end Texts

/-! ### What the lines store -/

section Run

variable {s : Store} {l : Line} {config : Config} {project : Option Uuid} {sessionId : Uuid}
  {session : Session} {cell : Cell}

/-- A task is added to a stored session at a place that is free. -/
lemma run_addTask (hs : s.Reachable) (hsession : s.session? sessionId = .ok (some session))
    (hconfig : Config.load l.configFile = .ok config) (hnow : Cell.ofInstant l.now = .ok cell)
    (hnew : s.IsNew l.fresh) {n : Int} (hfree : ¬s.IsTaken sessionId n)
    (hparse : parse l.words = .ok ⟨none, none, project, false, .addTask sessionId n none⟩) :
    let task := Task.new l.fresh l.now sessionId n []
    ∃ row, l.run s = ({ s with tasks := s.tasks ++ [row] }, .ok (Command.printed (.task task))) ∧
      row.read = .ok task.recounted := by
  intro task
  have hdangles := Store.dangles_of_find? hs.wellFormed.sessions hsession
  obtain ⟨row, hrow, hinsert⟩ := Store.exists_insertTask_new hnow hnew hdangles hfree []
  refine ⟨row, ?_, TaskRow.read_of_toRow hrow ⟨⟨trivial, List.Pairwise.nil⟩, trivial⟩⟩
  have hfound : Service.session { store := s, limits := config.paging } sessionId = .ok session :=
    Service.present_eq_ok_iff.mpr hsession
  have hperform : Service.perform { store := s, limits := config.paging } l.fresh l.now
      (.addTask sessionId n []) =
        .ok ({ store := { s with tasks := s.tasks ++ [row] }, limits := config.paging },
          .task task) := by
    simp only [Service.perform, Service.addTask, hfound, ok_bind_eq, Service.withStore,
      Service.stored, hinsert, mapError_ok_eq, task]
    rfl
  exact Line.run_of_perform hs hparse hconfig rfl hperform

/-- A message of texts that are not empty is stored in a stored session. -/
lemma run_sendTexts (hs : s.Reachable) (hsession : s.session? sessionId = .ok (some session))
    (hconfig : Config.load l.configFile = .ok config) {owner : Uuid}
    (howner : project.or config.projectId = some owner) (hnow : Cell.ofInstant l.now = .ok cell)
    (hnew : s.IsNew l.fresh) {texts : List String} (hne : texts ≠ [])
    (htexts : ∀ text ∈ texts, text ≠ "")
    (hparse : parse l.words =
      .ok ⟨none, none, project, false, .sendMessage sessionId .user texts [] none⟩) :
    ∃ parentId row,
      let message := { Message.new l.fresh l.now sessionId .user (texts.map Part.ofText) [] with
        parentId }
      l.run s = ({ s with messages := s.messages ++ [row] },
        .ok (Command.printed (.sent message none))) ∧ row.read = .ok message.recounted := by
  let message := Message.new l.fresh l.now sessionId .user (texts.map Part.ofText) []
  have hdangles := Store.dangles_of_find? hs.wellFormed.sessions hsession
  obtain ⟨⟨s', message'⟩, hinsert⟩ := hs.wellFormed.exists_insertMessage_new hnow hnew hdangles
    .user (texts.map Part.ofText) []
  obtain ⟨parentId, row, -, rfl, hrow, -, -, -, -, rfl⟩ :=
    Store.insertMessage_eq_ok_iff.mp hinsert
  refine ⟨parentId, row, ?_, ?_⟩
  · let sent : SendMessage :=
      ⟨owner, sessionId, .user, texts.map Part.ofText, []⟩
    have hcalls : (Command.sendMessage sessionId .user texts [] none).calls?
        (project.or config.projectId) = .ok [.sendMessage sent] := by
      simp only [Command.calls?, Command.partsOf, Command.objectOf, ok_bind_eq, howner,
        List.append_nil, sent]
      rfl
    have hvalid : ∀ part ∈ texts.map Part.ofText, part.validate = .ok () := by
      intro part hpart
      obtain ⟨text, htext, rfl⟩ := List.mem_map.mp hpart
      exact if_neg (htexts text htext)
    have hcheck : Service.checkParts 0 (texts.map Part.ofText) = .ok () :=
      Service.checkParts_eq_ok_iff.mpr hvalid
    have hsome : (texts.map Part.ofText).isEmpty = false := by simpa using hne
    have hfound : Service.session { store := s, limits := config.paging } sessionId =
        .ok session := Service.present_eq_ok_iff.mpr hsession
    have hperform : Service.perform { store := s, limits := config.paging } l.fresh l.now
        (.sendMessage sent) =
          .ok ({ store := { s with messages := s.messages ++ [row] }, limits := config.paging },
            .sent { message with parentId } none) := by
      simp only [Service.perform, Service.sendMessage, hsome, hcheck, hfound, ok_bind_eq,
        Service.stored, hinsert, mapError_ok_eq, Bool.false_eq_true, if_false, sent]
      rfl
    exact Line.run_of_perform hs hparse hconfig hcalls hperform
  · have hplain : ∀ part ∈ texts.map Part.ofText, part.Plain (Json.maxLevels - 2) := by
      intro part hpart
      obtain ⟨text, -, rfl⟩ := List.mem_map.mp hpart
      exact Part.plain_ofText text _
    exact MessageRow.read_of_toRow hrow ⟨⟨trivial, List.Pairwise.nil⟩, trivial⟩ hplain

end Run

/-- Every value of the type of an option can be given, and a line is read as it is meant exactly if
each value is given in a way in which it is taken: attached to its option, or as a word of its own
that does not begin with a hyphen, unless it is nothing else. So a task is added with any order that
is free in its session, and a message is sent with any texts that are not empty, in their order. -/
theorem given_values (sessionId : Uuid) (project : Option Uuid) :
    (∀ (n : Decimal.Int64) (order : GivenValue), order.text = .ofList (Decimal.ofInt n.1) →
      (order.Accepted → parse (addTaskWords sessionId order project) =
        .ok ⟨none, none, project, false, .addTask sessionId n.1 none⟩) ∧
      (¬order.Accepted → ∃ e, parse (addTaskWords sessionId order project) = .error e)) ∧
    (∀ texts : List GivenValue,
      ((∀ t ∈ texts, t.Accepted) → parse (sendTextsWords sessionId texts project) =
        .ok ⟨none, none, project, false,
          .sendMessage sessionId .user (texts.map (·.text)) [] none⟩) ∧
      ((¬∀ t ∈ texts, t.Accepted) →
        ∃ e, parse (sendTextsWords sessionId texts project) = .error e)) ∧
    ∀ (s : Store) (l : Line) (config : Config), s.Reachable →
      (∃ session, s.session? sessionId = .ok (some session)) →
      Config.load l.configFile = .ok config → (project.or config.projectId).isSome →
      l.now.nanos?.isSome → s.IsNew l.fresh →
      (∀ (n : Decimal.Int64) (order : GivenValue), order.text = .ofList (Decimal.ofInt n.1) →
        order.Accepted → ¬s.IsTaken sessionId n.1 →
        let task := Task.new l.fresh l.now sessionId n.1 []
        ∃ row, { l with words := addTaskWords sessionId order project }.run s =
            ({ s with tasks := s.tasks ++ [row] }, .ok (Command.printed (.task task))) ∧
          row.read = .ok task.recounted) ∧
      ∀ texts : List GivenValue, texts ≠ [] → (∀ t ∈ texts, t.Accepted) →
        (∀ t ∈ texts, t.text ≠ "") → ∃ parentId row,
          let message := { Message.new l.fresh l.now sessionId .user
            (texts.map fun t => .ofText t.text) [] with parentId }
          { l with words := sendTextsWords sessionId texts project }.run s =
              ({ s with messages := s.messages ++ [row] },
                .ok (Command.printed (.sent message none))) ∧
            row.read = .ok message.recounted := by
  refine ⟨fun n order horder => ⟨fun hgiven => parse_addTaskWords horder hgiven _ _,
      fun hgiven => parse_addTaskWords_eq_error hgiven _ _⟩,
    fun texts => ⟨fun hgiven => parse_sendTextsWords hgiven _ _,
      fun hgiven => parse_sendTextsWords_eq_error hgiven _ _⟩, ?_⟩
  rintro s l config hs ⟨session, hsession⟩ hconfig hproject hnow hnew
  obtain ⟨owner, howner⟩ := Option.isSome_iff_exists.mp hproject
  obtain ⟨cell, hcell⟩ : ∃ cell, Cell.ofInstant l.now = .ok cell := by
    obtain ⟨n, hn⟩ := Option.isSome_iff_exists.mp hnow
    exact ⟨.integer n, by rw [Cell.ofInstant, hn]⟩
  constructor
  · intro n order horder hgiven hfree
    let line := { l with words := addTaskWords sessionId order project }
    exact run_addTask (l := line) hs hsession hconfig hcell hnew hfree
      (parse_addTaskWords horder hgiven _ _)
  · intro texts hne hgiven htexts
    let line := { l with words := sendTextsWords sessionId texts project }
    obtain ⟨parentId, row, hrun, hread⟩ := run_sendTexts (l := line) hs hsession hconfig howner
      hcell hnew (by simpa using hne) (by simpa using htexts) (parse_sendTextsWords hgiven _ _)
    rw [List.map_map] at hrun hread
    exact ⟨parentId, row, hrun, hread⟩

/-- With an order and texts that begin with a hyphen, which are attached to their options, a task is
added and a message is sent. -/
theorem given_values_with_hyphens :
    let now : Instant := .ofNanos ⟨0, by decide⟩
    let session : Session := .new (.ofNat 1) now (.ofNat 7) none []
    let s := Store.empty.run [.createSession session]
    let line (words : List String) : Line := { words, fresh := .ofNat 2, now }
    let texts : List GivenValue := [⟨"-x", true⟩, ⟨"-", false⟩, ⟨"--", true⟩]
    (∃ row, (line (addTaskWords (.ofNat 1) ⟨"-1", true⟩ (some (.ofNat 7)))).run s =
        ({ s with tasks := s.tasks ++ [row] },
          .ok (Command.printed (.task (.new (.ofNat 2) now (.ofNat 1) (-1) [])))) ∧
      row.read = .ok (Task.new (.ofNat 2) now (.ofNat 1) (-1) []).recounted) ∧
    ∃ parentId row,
      let message := { Message.new (.ofNat 2) now (.ofNat 1) .user
        (texts.map fun t => .ofText t.text) [] with parentId }
      (line (sendTextsWords (.ofNat 1) texts (some (.ofNat 7)))).run s =
          ({ s with messages := s.messages ++ [row] },
            .ok (Command.printed (.sent message none))) ∧
        row.read = .ok message.recounted := by
  intro now session s line texts
  have hs : s.Reachable := ⟨_, rfl⟩
  have hsession : ∃ session, s.session? (.ofNat 1) = .ok (some session) := by
    obtain ⟨row, hrow, hstored⟩ : ∃ row, session.toRow = .ok row ∧ row ∈ s.sessions :=
      ⟨_, rfl, by decide +kernel⟩
    exact ⟨_, hs.wellFormed.sessions.find?_eq_ok_some_iff.mpr ⟨row, hstored,
      (Session.toRow_eq_ok_iff.mp hrow).1,
      SessionRow.read_of_toRow hrow ⟨⟨trivial, List.Pairwise.nil⟩, trivial⟩⟩⟩
  have hnew : s.IsNew (.ofNat 2) := by constructor <;> decide +kernel
  have hfree : ¬s.IsTaken (.ofNat 1) (-1) := by
    rintro ⟨t, ht, -⟩
    simp [show s.tasks = [] by decide +kernel] at ht
  -- what the store holds is not to be computed once more
  clear_value s
  obtain ⟨-, -, hruns⟩ := given_values (.ofNat 1) (some (.ofNat 7))
  obtain ⟨hadd, hsend⟩ := hruns s (line []) {} hs hsession rfl rfl (by decide) hnew
  exact ⟨hadd ⟨-1, by decide⟩ ⟨"-1", true⟩ (by decide) (.inl rfl) hfree,
    hsend texts (by decide) (by decide) (by decide)⟩

/-- As words of their own, an order below zero and texts that begin with a hyphen are refused. -/
theorem separate_hyphens_refused :
    let session := "00000000-0000-0000-0000-000000000001"
    parse ["task", "add", session, "--order", "-1"] = .error .unknownArgument ∧
      parse ["message", "send", session, "--text", "-x"] = .error .unknownArgument ∧
      parse ["message", "send", session, "--text", "--"] = .error .missingValue := by
  decide +kernel

end CommandLine

end Colloquy
