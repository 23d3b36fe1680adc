import Colloquy.CommandLine.Paging
import Colloquy.Proofs.CommandLine.Spelling
import Colloquy.Proofs.Paging.Cursor

/-!
# Lines with one more option

Words that are understood lead to one of the commands that there are (`Usage.Offers`), and whatever
comes after them is read as more arguments of that command (`Usage.read_append`). What has been
found until then was given for arguments of the command (`Progress.Sound`), so an argument that is
missing in the command was not given at all. From this, a listing that is asked for without a cursor
is understood with a cursor as well (`CommandLine.parse_append_cursor`), and every cursor is a word
that can be one (`Cursor.beginsOption_of_decode`).
-/

namespace Colloquy

variable {α : Type} {p q : Progress} {taken : List Parameter} {parameter : Parameter}
  {words : List String} {word : String} {values : List Value}

/-! ### What has been found -/

/-- Only the two hyphens are taken as the separator. -/
lemma Word.eq_of_separator (h : Word.of word = .separator) : word = "--" := by
  unfold Word.of at h
  split at h
  next hlist => exact String.toList_inj.mp (by rw [hlist]; rfl)
  next => split at h <;> simp at h
  next => simp at h
  next => simp at h

/-- Whether an argument can have these values: unless it takes none, the first of them has been
read. -/
def Parameter.Gives (parameter : Parameter) (values : List Value) : Prop :=
  ∀ kind, parameter.takes = some kind →
    ∃ word value rest, kind.read word = .ok value ∧ values = value :: rest

/-- Values that were read from some words are values that the argument can have. -/
lemma Parameter.gives_of_mapM (h : words.mapM parameter.read = .ok values) (hne : words ≠ []) :
    parameter.Gives values := by
  intro kind hkind
  obtain ⟨word, rest, rfl⟩ := List.exists_cons_of_ne_nil hne
  rw [List.mapM_cons] at h
  obtain ⟨value, hvalue, h⟩ := bind_eq_ok_iff.mp h
  obtain ⟨more, -, h⟩ := bind_eq_ok_iff.mp h
  refine ⟨word, value, more, ?_, (pure_eq_ok_iff.mp h).symm⟩
  rwa [read, hkind] at hvalue

namespace Progress

/-- Options may follow, and all that has been found was given for arguments that are taken. -/
structure Sound (taken : List Parameter) (p : Progress) : Prop where
  onlyOperands : p.onlyOperands = false
  found : ∀ e ∈ p.found, ∃ parameter ∈ taken, parameter.name = e.1 ∧ parameter.Gives e.2
  waiting : ∀ parameter words, p.waiting = some (parameter, words) → parameter ∈ taken

namespace Sound

/-- Nothing has been found in the beginning. -/
lemma empty (taken : List Parameter) : Sound taken {} :=
  ⟨rfl, by simp, by simp⟩

/-- Noting values for an argument that is taken keeps the progress sound. -/
lemma note (h : p.Sound taken) (hmem : parameter ∈ taken)
    (hgives : ∀ values, words.mapM parameter.read = .ok values → parameter.Gives values)
    (hnote : p.note parameter words = .ok q) : q.Sound taken := by
  obtain ⟨-, values, hvalues, rfl⟩ := note_eq_ok_iff.mp hnote
  refine ⟨h.onlyOperands, ?_, h.waiting⟩
  intro e he
  rcases List.mem_append.mp he with he | he
  · exact h.found e he
  · rw [List.mem_singleton.mp he]
    exact ⟨parameter, hmem, rfl, hgives values hvalues⟩

/-- Settling the last argument keeps the progress sound. -/
lemma settle (h : p.Sound taken) (hsettle : p.settle = .ok q) : q.Sound taken := by
  unfold Progress.settle at hsettle
  split at hsettle
  next => exact Except.ok.inj hsettle ▸ h
  next => simp at hsettle
  next parameter words hne hwaiting =>
    have hrest : Sound taken { p with waiting := none } :=
      ⟨h.onlyOperands, h.found, by simp⟩
    refine hrest.note (h.waiting _ _ hwaiting) (fun values hvalues => ?_) hsettle
    exact Parameter.gives_of_mapM hvalues hne

/-- Starting on an argument that is taken keeps the progress sound. -/
lemma start (h : p.Sound taken) (hmem : parameter ∈ taken)
    (hstart : p.start parameter words = .ok q) : q.Sound taken := by
  obtain ⟨p', hsettle, hq⟩ := bind_eq_ok_iff.mp hstart
  obtain rfl := pure_eq_ok_iff.mp hq
  have h' := h.settle hsettle
  refine ⟨h'.onlyOperands, h'.found, ?_⟩
  rintro _ _ ⟨⟩
  exact hmem

/-- A flag that is taken keeps the progress sound. -/
lemma flag (h : p.Sound taken) (hmem : parameter ∈ taken)
    (htakes : parameter.takes = none) (hflag : p.flag parameter = .ok q) : q.Sound taken := by
  obtain ⟨p', hsettle, hnote⟩ := bind_eq_ok_iff.mp hflag
  refine (h.settle hsettle).note hmem (fun values _ kind hkind => ?_) hnote
  simp [htakes] at hkind

/-- An option with its value attached keeps the progress sound. -/
lemma attached (h : p.Sound taken) (hmem : parameter ∈ taken)
    (hattached : p.attached parameter word = .ok q) : q.Sound taken := by
  obtain ⟨p', hstart, hsettle⟩ := bind_eq_ok_iff.mp hattached
  exact (h.start hmem hstart).settle hsettle

/-- A value for the argument that waits for one keeps the progress sound. -/
lemma giveValue (h : p.Sound taken) (word : String) : (p.giveValue word).Sound taken := by
  unfold Progress.giveValue
  split
  next parameter words hwaiting =>
    refine ⟨h.onlyOperands, h.found, ?_⟩
    rintro _ _ ⟨⟩
    exact h.waiting _ _ hwaiting
  next => exact h

/-- An operand that is taken keeps the progress sound. -/
lemma operand {operands : List Parameter} (h : p.Sound taken)
    (hmem : ∀ parameter ∈ operands, parameter ∈ taken)
    (hoperand : p.operand? operands word = some (.ok q)) : q.Sound taken := by
  unfold operand? at hoperand
  split at hoperand
  next => simp at hoperand
  next parameter hplace =>
    have hmem := hmem parameter (List.mem_of_getElem? hplace)
    split at hoperand
    next =>
      split at hoperand
      next =>
        split at hoperand
        next =>
          obtain rfl := Except.ok.inj (Option.some.inj hoperand)
          exact h.giveValue word
        next => exact h.start hmem (Option.some.inj hoperand)
      next => exact h.start hmem (Option.some.inj hoperand)
    next =>
      obtain ⟨p', hstart, hq⟩ := bind_eq_ok_iff.mp (Option.some.inj hoperand)
      obtain rfl := pure_eq_ok_iff.mp hq
      have h' := h.start hmem hstart
      exact ⟨h'.onlyOperands, h'.found, h'.waiting⟩

end Sound

end Progress

/-! ### Words that are followed by others -/

namespace Usage

variable {shared : List Parameter} {u : Usage α} {usage : CommandUsage α}

/-- The commands that there are. -/
inductive Offers : Usage α → CommandUsage α → Prop
  | here (usage : CommandUsage α) : Offers (.command usage) usage
  | within {commands : List (String × Usage α)} {name : String} {u : Usage α}
      {usage : CommandUsage α} (hmem : (name, u) ∈ commands) (h : Offers u usage) :
      Offers (.group commands) usage

/-- What a command inside offers is offered. -/
lemma Offers.of_lookup {inner : Usage α} (hlookup : u.commands.lookup word = some inner)
    (h : Offers inner usage) : Offers u usage := by
  cases u with
  | group commands =>
    obtain ⟨before, after, hcommands, -⟩ := List.lookup_eq_some_iff.mp hlookup
    have hmem : (word, inner) ∈ commands := by
      rw [show commands = _ from hcommands]
      exact List.mem_append_right _ List.mem_cons_self
    exact .within hmem h
  | command usage => simp [commands] at hlookup

/-- A group offers what its commands offer. -/
lemma forall_offers_group_iff {P : CommandUsage α → Prop} {commands : List (String × Usage α)} :
    (∀ usage, Offers (.group commands) usage → P usage) ↔
      ∀ c ∈ commands, ∀ usage, Offers c.2 usage → P usage := by
  constructor
  · intro h c hc usage hoffers
    exact h usage (.within hc hoffers)
  · rintro h usage ⟨⟩
    next name u hmem hoffers => exact h (name, u) hmem usage hoffers

/-- A command offers itself only. -/
lemma forall_offers_command_iff {P : CommandUsage α → Prop} :
    (∀ usage', Offers (.command usage) usage' → P usage') ↔ P usage := by
  constructor
  · intro h
    exact h usage (.here usage)
  · rintro h usage' ⟨⟩
    exact h

/-- The arguments that are taken at a level of commands. -/
def parameters (shared : List Parameter) (u : Usage α) : List Parameter :=
  u.options shared ++ u.operands

/-- A word that is taken is given for an argument. -/
lemma sound_of_takeWord (h : p.Sound (u.parameters shared)) (hword : word ≠ "--")
    (htake : u.takeWord shared p word = .ok q) : q.Sound (u.parameters shared) := by
  unfold takeWord at htake
  simp only [h.onlyOperands, Bool.false_eq_true, if_false] at htake
  cases hof : Word.of word with
  | separator => exact absurd (Word.eq_of_separator hof) hword
  | short letters =>
    rw [hof] at htake
    dsimp only at htake
    split at htake <;> simp at htake
  | plain =>
    rw [hof] at htake
    dsimp only at htake
    split at htake
    next => exact Except.ok.inj htake ▸ h.giveValue word
    next =>
      have hoperand : p.operand? u.operands word = some (.ok q) := by
        cases hresult : p.operand? u.operands word with
        | none => simp [hresult] at htake
        | some result => rw [← htake, hresult, Option.getD_some]
      exact h.operand (fun parameter hmem => List.mem_append_right _ hmem) hoperand
  | long name value =>
    rw [hof] at htake
    dsimp only at htake
    split at htake
    · split at htake <;> simp at htake
    · split at htake
      next => simp at htake
      next parameter hfind =>
        have hmem : parameter ∈ u.parameters shared :=
          List.mem_append_left _ (List.mem_of_find?_eq_some hfind)
        split at htake
        next htakes => exact h.flag hmem htakes htake
        next => simp at htake
        next => exact h.attached hmem htake
        next => exact h.start hmem htake

/-- Words that are read lead to a command, and what comes after them is read from there. -/
lemma read_append {parsed : Parsed α} (h : p.Sound (u.parameters shared)) (hwords : "--" ∉ words)
    (hread : u.read shared p words = .ok parsed) :
    ∃ usage q extra, Offers u usage ∧ q.Sound ((command usage).parameters shared) ∧
      ∀ more, u.read shared p (words ++ more) = (do
        let parsed ← (command usage).read shared q more
        return { parsed with shared := parsed.shared ++ extra }) := by
  -- a word may lead to another level, which starts with nothing found, so the level varies
  induction words generalizing u p parsed with
  | nil =>
    cases u with
    | group commands =>
      rw [read_nil, finish] at hread
      obtain ⟨p', -, hfinish⟩ := bind_eq_ok_iff.mp hread
      simp at hfinish
    | command usage =>
      refine ⟨usage, p, [], .here usage, h, fun more => ?_⟩
      simp only [List.nil_append, List.append_nil]
      exact (bind_pure _).symm
  | cons word rest ih =>
    obtain ⟨hword, hrest⟩ : "--" ≠ word ∧ "--" ∉ rest := by simpa using hwords
    unfold read at hread
    split at hread
    next hnamed =>
      -- the word leads into a group, and its level is closed at the end
      cases hlookup : u.commands.lookup word with
      | none => simp [hlookup] at hread
      | some inner =>
        rw [hlookup] at hread
        obtain ⟨parsed', hinner, hread⟩ := bind_eq_ok_iff.mp hread
        obtain ⟨p', hsettle, -⟩ := bind_eq_ok_iff.mp hread
        obtain ⟨usage, q, extra, hoffers, hq, hmore⟩ := ih (.empty _) hrest hinner
        refine ⟨usage, q, extra ++ p'.found, hoffers.of_lookup hlookup, hq, fun more => ?_⟩
        rw [List.cons_append]
        conv_lhs => unfold read
        simp only [hnamed, if_true, hlookup, hmore, hsettle, ok_bind_eq, bind_assoc, pure_bind,
          List.append_assoc]
    next hnamed =>
      obtain ⟨p', htake, hread⟩ := bind_eq_ok_iff.mp hread
      obtain ⟨usage, q, extra, hoffers, hq, hmore⟩ :=
        ih (sound_of_takeWord h hword.symm htake) hrest hread
      refine ⟨usage, q, extra, hoffers, hq, fun more => ?_⟩
      rw [List.cons_append]
      conv_lhs => unfold read
      rw [if_neg hnamed, htake, ok_bind_eq, hmore]

end Usage

/-! ### Cursors that are words -/

namespace Cursor

/-- What a cursor is made of is plain text. -/
lemma toNat_lt_of_mem_payload {nanos : Int} {id : Uuid} {c : Char} (h : c ∈ payload nanos id) :
    c.toNat < 128 := by
  rcases List.mem_append.mp h with h | h
  · rcases Decimal.mem_ofInt h with rfl | hdigit
    · decide
    · exact Nat.lt_of_le_of_lt (Char.isDigit_iff_toNat.mp hdigit).2 (by decide)
  · rcases List.mem_cons.mp h with rfl | h
    · decide
    · exact Uuid.toNat_lt_of_mem_chars h

/-- A cursor does not begin with a hyphen, although hyphens are among its symbols: what is written
in it begins with an ASCII character, which leaves the high bits of the first symbol free. -/
lemma beginsOption_of_encode {createdAt : Instant} {id : Uuid} {cursor : String}
    (h : encode createdAt id = .ok cursor) : Word.beginsOption cursor = false := by
  unfold encode at h
  split at h
  next nanos _ =>
    obtain rfl := Except.ok.inj h
    obtain ⟨first, rest, hpayload⟩ := List.exists_cons_of_ne_nil
      (show payload nanos id ≠ [] from List.append_ne_nil_of_right_ne_nil _ (List.cons_ne_nil _ _))
    have hascii : ∀ c ∈ payload nanos id, c.toNat < 128 := fun _ hc => toNat_lt_of_mem_payload hc
    have hfirst : first.toNat < 128 := hascii first (hpayload ▸ List.mem_cons_self)
    obtain ⟨more, hmore⟩ := Base64Url.exists_encode_cons (Base64Url.byteOf first)
      (rest.map Base64Url.byteOf)
    refine Word.beginsOption_eq_false fun c hc => ?_
    rw [String.toList_ofList, Base64Url.utf8_ofList hascii, hpayload, List.map_cons, hmore,
      Base64Url.toNat_byteOf hfirst, List.head?_cons] at hc
    obtain rfl := Option.some.inj hc
    exact Base64Url.symbol_ne_hyphen (by omega)
  next => simp at h

/-- A text that is read as a position, or as none, is a word of its own. -/
lemma beginsOption_of_decode {cursor : String} {start : Option SortKey}
    (h : decode cursor = .ok start) : Word.beginsOption cursor = false := by
  cases start with
  | none => rw [decode_eq_ok_none_iff.mp h]; rfl
  | some key => exact beginsOption_of_encode (decode_eq_ok_some_iff.mp h).2

end Cursor

/-! ### Listings -/

/-- A listing that goes on from a cursor; other commands stay as they are. -/
def Command.withCursor (cursor : String) : Command → Command
  | .listSpaces page => .listSpaces { page with cursor }
  | .listSessions filter page => .listSessions filter { page with cursor }
  | .listMessages id page => .listMessages id { page with cursor }
  | .listTasks id page => .listTasks id { page with cursor }
  | .listDisks page => .listDisks { page with cursor }
  | command => command

/-- The page that a listing asks for. -/
def Command.page? : Command → Option PageRequest
  | .listSpaces page | .listSessions _ page | .listMessages _ page | .listTasks _ page
  | .listDisks page => some page
  | _ => none

/-- A command is a listing of a scope exactly if it is the one of the scope, and the project is
given that the scope needs. -/
lemma Command.listing?_eq_some_iff {command : Command} {project : Option Uuid} {scope : Scope}
    {page : PageRequest} : command.listing? project = some (scope, page) ↔
      command = scope.command page ∧ ∀ id, scope.project? = some id → project = some id := by
  constructor
  · intro h
    cases command <;> cases project <;> simp_all [listing?]
    all_goals obtain ⟨rfl, rfl⟩ := h; simp [Scope.command, Scope.project?]
  · rintro ⟨rfl, hproject⟩
    cases scope <;> simp_all [Scope.command, Scope.project?, listing?]

/-- The command of a scope asks for the page that it was made with. -/
lemma Scope.page?_command (scope : Scope) (page : PageRequest) :
    (scope.command page).page? = some page := by
  cases scope <;> rfl

/-- A cursor for the command of a scope is the cursor of its page. -/
lemma Scope.withCursor_command (scope : Scope) (page : PageRequest) (cursor : String) :
    (scope.command page).withCursor cursor = scope.command { page with cursor } := by
  cases scope <;> rfl

/-- A text that is missing was not given, if only texts can be given for its argument. -/
lemma Arguments.has_eq_false_of_text? {a : Arguments} {name : String}
    (ha : ∀ e ∈ a, ∃ parameter ∈ taken, parameter.name = e.1 ∧ parameter.Gives e.2)
    (hname : ∀ parameter ∈ taken, parameter.name = name → parameter.takes = some .text)
    (hnone : a.text? name = none) : a.has name = false := by
  by_contra hhas
  obtain ⟨e, he, hgiven⟩ := List.any_eq_true.mp (Bool.not_eq_false _ ▸ hhas)
  have hsome : (a.lookup name).isSome :=
    List.lookup_isSome_iff.mpr ⟨e, he, by rwa [BEq.comm]⟩
  obtain ⟨values, hvalues⟩ := Option.isSome_iff_exists.mp hsome
  obtain ⟨before, after, rfl, -⟩ := List.lookup_eq_some_iff.mp hvalues
  obtain ⟨parameter, hmem, hsame, hgives⟩ :=
    ha (name, values) (List.mem_append_right _ List.mem_cons_self)
  obtain ⟨word, value, rest, hread, rfl⟩ := hgives .text (hname parameter hmem hsame)
  obtain rfl : .text word = value := Except.ok.inj hread
  rw [text?, value?, hvalues] at hnone
  simp at hnone

namespace CommandLine

/-- The option for a cursor. -/
def cursorOption : Parameter := { name := "cursor", takes := some .text }

/-- Whether no command is made that lists something. -/
def NoListing (made : Option Command) : Prop :=
  ∀ command, made = some command → command.page? = none

/-- Whether a command lists something and takes a cursor. -/
structure TakesCursor (cu : CommandUsage Command) : Prop where
  find : ((Usage.command cu).options sharedOptions).find? (·.name == "cursor") = some cursorOption
  named : ∀ parameter ∈ (Usage.command cu).parameters sharedOptions,
    parameter.name = "cursor" → parameter.takes = some .text
  exclusive : ∀ e ∈ cu.exclusive, e.1 ≠ "cursor" ∧ e.2 ≠ "cursor"
  cursor : ∀ found command page, cu.make found = some command → command.page? = some page →
    page.cursor = found.text? "cursor"
  make : ∀ found command cursor, cu.make found = some command → found.has "cursor" = false →
    cu.make (found ++ [("cursor", [.text cursor])]) = some (command.withCursor cursor)

variable {found : Arguments} {cursor : String}

/-- A cursor at the end gives no other argument. -/
lemma has_append_cursor {name : String} (hname : name ≠ "cursor") :
    Arguments.has (found ++ [("cursor", [.text cursor])]) name = found.has name := by
  have hother : Arguments.has [("cursor", [.text cursor])] name = false :=
    Arguments.has_eq_false_iff.mpr (by simpa using hname.symm)
  rw [Arguments.has_append, hother, Bool.or_false]

/-- A cursor at the end is the cursor of the page. -/
lemma pageOf_append_cursor (hnew : found.has "cursor" = false) :
    pageOf (found ++ [("cursor", [.text cursor])]) = { pageOf found with cursor } := by
  have hlimit : Arguments.number? (found ++ [("cursor", [.text cursor])]) "limit" =
      found.number? "limit" := by
    rw [Arguments.number?, Arguments.value?_append rfl, Arguments.number?]
  have hasc : Arguments.has (found ++ [("cursor", [.text cursor])]) "asc" = found.has "asc" :=
    has_append_cursor (by decide)
  have hcursor : Arguments.text? (found ++ [("cursor", [.text cursor])]) "cursor" =
      some cursor := by
    rw [Arguments.text?, Arguments.value?, List.lookup_append, Arguments.lookup_eq_none hnew]
    rfl
  rw [pageOf, hlimit, hasc, hcursor]
  rfl

/-- A cursor at the end does not change an id that is given. -/
lemma id?_append_cursor {name : String} (hname : name ≠ "cursor") :
    Arguments.id? (found ++ [("cursor", [.text cursor])]) name = found.id? name := by
  rw [Arguments.id?, Arguments.value?_append, Arguments.id?]
  exact Arguments.has_eq_false_iff.mpr (by simpa using hname.symm)

namespace NoListing

/-- No command is made that lists something if none is made. -/
lemma none : NoListing none := by
  rintro _ ⟨⟩

/-- A command without a page lists nothing. -/
lemma some {command : Command} (h : command.page? = Option.none) : NoListing (some command) := by
  rintro _ ⟨⟩
  exact h

/-- What is made from a value that may be missing lists nothing if it lists nothing for any value.
-/
lemma bind {β : Type} {x : Option β} {f : β → Option Command} (h : ∀ b, NoListing (f b)) :
    NoListing (x.bind f) := by
  intro command hmade
  obtain ⟨b, -, hb⟩ := Option.bind_eq_some_iff.mp hmade
  exact h b command hb

end NoListing

/-- A command on a record lists nothing if it lists nothing for any id. -/
lemma noListing_onRecord {make : Uuid → Command} (h : ∀ id, (make id).page? = none)
    (found : Arguments) : NoListing ((onRecord make).make found) := by
  change NoListing ((found.id? "ID").map make)
  rw [Option.map_eq_bind]
  exact .bind fun id => .some (h id)

/-- A command that sets a configuration lists nothing if it lists nothing for any id and any text.
-/
lemma noListing_configure {make : Uuid → String → Command}
    (h : ∀ id configs, (make id configs).page? = none) (found : Arguments) :
    NoListing ((configure make).make found) :=
  .bind fun id => .bind fun configs => .some (h id configs)

/-- A listing takes a cursor if its options are those of listings, and what it lists does not depend
on the cursor. -/
lemma takesCursor_of_make {β : Type} {cu : CommandUsage Command} (target : Arguments → Option β)
    (make : β → PageRequest → Command) (hmake : ∀ a, cu.make a = (target a).map (make · (pageOf a)))
    (htarget : ∀ found cursor, target (found ++ [("cursor", [.text cursor])]) = target found)
    (hpage : ∀ t page, (make t page).page? = some page)
    (hcursor : ∀ t page cursor, (make t page).withCursor cursor = make t { page with cursor })
    (hfind : ((Usage.command cu).options sharedOptions).find? (·.name == "cursor") =
      some cursorOption)
    (hnamed : ∀ parameter ∈ (Usage.command cu).parameters sharedOptions,
      parameter.name = "cursor" → parameter.takes = some .text)
    (hexclusive : ∀ e ∈ cu.exclusive, e.1 ≠ "cursor" ∧ e.2 ≠ "cursor") : TakesCursor cu where
  find := hfind
  named := hnamed
  exclusive := hexclusive
  cursor found command page hcommand hlist := by
    rw [hmake] at hcommand
    obtain ⟨t, -, rfl⟩ := Option.map_eq_some_iff.mp hcommand
    obtain rfl := Option.some.inj ((hpage t _).symm.trans hlist)
    rfl
  make found command cursor hcommand hnew := by
    rw [hmake] at hcommand
    obtain ⟨t, ht, rfl⟩ := Option.map_eq_some_iff.mp hcommand
    rw [hmake, htarget, ht, pageOf_append_cursor hnew, Option.map_some, hcursor]

/-- A listing of what belongs to a record takes a cursor. -/
lemma takesCursor_listingOf {make : Uuid → PageRequest → Command}
    (hpage : ∀ id page, (make id page).page? = some page)
    (hcursor : ∀ id page cursor, (make id page).withCursor cursor = make id { page with cursor }) :
    TakesCursor (listingOf make) := by
  refine takesCursor_of_make (·.id? "ID") make (fun a => ?_) (fun _ _ => ?_) hpage hcursor rfl
    (show ∀ parameter ∈ pageOptions ++ sharedOptions ++ [idOperand], _ by decide)
    (by simp [listingOf])
  · rw [Option.map_eq_bind]
    rfl
  · exact id?_append_cursor (by decide)

/-- A listing of what belongs to the project takes a cursor. -/
lemma takesCursor_listingOfProject {make : PageRequest → Command}
    (hpage : ∀ page, (make page).page? = some page)
    (hcursor : ∀ page cursor, (make page).withCursor cursor = make { page with cursor }) :
    TakesCursor (listingOfProject make) :=
  takesCursor_of_make (fun _ => some ()) (fun _ => make) (fun _ => rfl) (fun _ _ => rfl)
    (fun _ => hpage) (fun _ => hcursor) rfl
    (show ∀ parameter ∈ pageOptions ++ sharedOptions ++ [], _ by decide)
    (by simp [listingOfProject])

/-- The listing of sessions takes a cursor. -/
lemma takesCursor_sessionsUsage : TakesCursor sessionsUsage := by
  refine takesCursor_of_make (fun a => some (sessionFilterOf a)) .listSessions (fun _ => rfl)
    (fun found cursor => ?_) (fun _ _ => rfl) (fun _ _ _ => rfl) rfl (by decide) (by decide)
  rw [sessionFilterOf, id?_append_cursor (by decide), has_append_cursor (by decide),
    sessionFilterOf]

/-- A command never lists anything, or it takes a cursor. -/
lemma noListing_or_takesCursor :
    ∀ cu, usage.Offers cu → (∀ found, NoListing (cu.make found)) ∨ TakesCursor cu := by
  simp only [usage, spaceUsage, sessionUsage, messageUsage, taskUsage, diskUsage,
    Usage.forall_offers_group_iff, Usage.forall_offers_command_iff, List.forall_mem_cons,
    List.not_mem_nil, false_implies, implies_true, and_true]
  refine ⟨?spaces, ?sessions, ?messages, ?tasks, ?disks⟩
  case spaces =>
    exact ⟨.inl fun _ => .some rfl,
      .inr (takesCursor_listingOfProject (fun _ => rfl) fun _ _ => rfl),
      .inl (noListing_configure fun _ _ => rfl), .inl (noListing_onRecord fun _ => rfl)⟩
  case sessions =>
    exact ⟨.inl fun _ => .some rfl, .inr takesCursor_sessionsUsage,
      .inl (noListing_onRecord fun _ => rfl), .inl (noListing_configure fun _ _ => rfl),
      .inl fun _ => .bind fun _ => .bind fun _ => .some rfl, .inl (noListing_onRecord fun _ => rfl)⟩
  case messages =>
    refine ⟨.inl fun _ => .bind fun _ => .some rfl,
      .inr (takesCursor_listingOf (fun _ _ => rfl) fun _ _ _ => rfl),
      .inl (noListing_onRecord fun _ => rfl), .inl fun found => ?_⟩
    split
    · exact .bind fun _ => .some rfl
    · exact .none
  case tasks =>
    exact ⟨.inl fun _ => .bind fun _ => .bind fun _ => .some rfl,
      .inr (takesCursor_listingOf (fun _ _ => rfl) fun _ _ _ => rfl),
      .inl fun _ => .bind fun _ => .bind fun _ => .some rfl,
      .inl (noListing_onRecord fun _ => rfl), .inl (noListing_onRecord fun _ => rfl)⟩
  case disks =>
    exact ⟨.inl fun _ => .some rfl,
      .inr (takesCursor_listingOfProject (fun _ => rfl) fun _ _ => rfl),
      .inl (noListing_onRecord fun _ => rfl)⟩

/-- The words for a cursor that comes last, behind what makes a listing without one. -/
lemma read_cursor {cu : CommandUsage Command} {parsed : Parsed Command} {page : PageRequest}
    (hp : p.Sound ((Usage.command cu).parameters sharedOptions)) (htakes : TakesCursor cu)
    (hread : (Usage.command cu).read sharedOptions p [] = .ok parsed)
    (hpage : parsed.command.page? = some page) (hnone : page.cursor = none)
    (hcursor : Word.beginsOption cursor = false) :
    (Usage.command cu).read sharedOptions p ["--cursor", cursor] =
      .ok { parsed with command := parsed.command.withCursor cursor } := by
  obtain ⟨found, k, hfound, hexclusive, hmake, hshared⟩ :=
    Usage.exists_amounts_of_read_nil hp.onlyOperands hread
  have hnew : found.has "cursor" = false := by
    refine Arguments.has_eq_false_of_text? (hp.settle hfound).found htakes.named ?_
    rw [← htakes.cursor found _ page hmake hpage, hnone]
  obtain ⟨q, hq, hadds⟩ := Usage.adds_option cursorOption ⟨cursor, false⟩ hfound
    (by decide) htakes.find rfl (.inr hcursor) rfl (.inr hnew)
  have hallowed : ∀ e ∈ cu.exclusive,
      (Arguments.has (found ++ [("cursor", [.text cursor])]) e.1 &&
        Arguments.has (found ++ [("cursor", [.text cursor])]) e.2) = false := by
    intro e he
    obtain ⟨hfirst, hsecond⟩ := htakes.exclusive e he
    rw [has_append_cursor hfirst, has_append_cursor hsecond]
    exact Usage.any_exclusive_eq_false_iff.mp hexclusive e he
  have hmade : (Usage.command cu).read sharedOptions q [] = _ :=
    Usage.read_made hq (Usage.any_exclusive_eq_false_iff.mpr hallowed)
      (htakes.make found _ cursor hmake hnew)
  rw [← hadds [], List.filter_append, ← hshared] at hmade
  have hunshared : sharedOptions.any (·.name == cursorOption.name) = false := by decide
  exact hmade.trans (by simp [hunshared])

/-- A listing without a cursor goes on from any cursor that is a word of its own. -/
theorem parse_append_cursor {i : Invocation} {page : PageRequest} (hwords : "--" ∉ words)
    (hparse : parse words = .ok i) (hpage : i.command.page? = some page)
    (hnone : page.cursor = none) (hcursor : Word.beginsOption cursor = false) :
    parse (words ++ ["--cursor", cursor]) =
      .ok { i with command := i.command.withCursor cursor } := by
  obtain ⟨parsed, hread, hi⟩ := bind_eq_ok_iff.mp hparse
  obtain rfl := pure_eq_ok_iff.mp hi
  obtain ⟨cu, q, extra, hoffers, hq, hmore⟩ :=
    Usage.read_append (Progress.Sound.empty _) hwords hread
  have hend := hmore []
  rw [List.append_nil, show usage.read sharedOptions {} words = .ok parsed from hread] at hend
  obtain ⟨made, hmade, hparsed⟩ := bind_eq_ok_iff.mp hend.symm
  obtain rfl := pure_eq_ok_iff.mp hparsed
  rcases noListing_or_takesCursor cu hoffers with hno | htakes
  · obtain ⟨found, k, -, -, hmake, -⟩ := Usage.exists_amounts_of_read_nil hq.onlyOperands hmade
    simp [hno found _ hmake] at hpage
  · rw [parse, Usage.parse, hmore, read_cursor hq htakes hmade hpage hnone hcursor]
    rfl

end CommandLine

end Colloquy
