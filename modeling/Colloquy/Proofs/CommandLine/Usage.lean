import Mathlib.Data.List.TakeWhile
import Colloquy.CommandLine.Spelling
import Colloquy.Proofs.Outcome
import Colloquy.Proofs.Uuid

/-!
# Reading arguments one after another

A command reads its words from left to right, and between two arguments all that counts is what has
been found (`Progress.Amounts`), not whether the last argument is settled already. So each argument
has one lemma that says what it adds, for whatever words come after it (`Usage.adds_option`,
`Usage.adds_operand`), and a line is read by going through its arguments.
-/

namespace Colloquy

variable {α : Type} {p q : Progress} {found : Arguments} {k : Nat}

/-! ### Words -/

namespace Word

/-- A word is plain exactly if it does not begin like an option. -/
lemma of_eq_plain_iff {s : String} : Word.of s = .plain ↔ beginsOption s = false := by
  unfold Word.of beginsOption
  constructor
  · intro h
    split at h <;> simp_all
    · split at h <;> simp_all
  · intro h
    split <;> simp_all

/-- The name of an option that is not the one for help. -/
structure IsOptionName (name : String) : Prop where
  ne_nil : name.toList ≠ []
  noEquals : '=' ∉ name.toList
  ne_help : name ≠ Usage.helpName

instance (name : String) : Decidable (IsOptionName name) :=
  decidable_of_iff (name.toList ≠ [] ∧ '=' ∉ name.toList ∧ name ≠ Usage.helpName)
    ⟨fun ⟨h, h', h''⟩ => ⟨h, h', h''⟩, fun ⟨h, h', h''⟩ => ⟨h, h', h''⟩⟩

/-- The name of an option has no sign of equality. -/
lemma IsOptionName.ne_equals {name : String} (h : IsOptionName name) :
    ∀ c ∈ name.toList, (c != '=') = true := by
  intro c hc
  exact bne_iff_ne.mpr fun heq => h.noEquals (heq ▸ hc)

/-- A word of two hyphens and more names an option, and what follows the sign of equality is its
value. -/
lemma of_hyphens {s : String} {cs : List Char} (h : s.toList = '-' :: '-' :: cs) (hcs : cs ≠ []) :
    Word.of s = match cs.dropWhile (· != '=') with
      | _ :: value => .long (.ofList (cs.takeWhile (· != '='))) (some (.ofList value))
      | [] => .long (.ofList (cs.takeWhile (· != '='))) none := by
  obtain ⟨c, rest, rfl⟩ := List.exists_cons_of_ne_nil hcs
  unfold Word.of
  rw [h]
  rfl

/-- Two hyphens and a name are the option of that name. -/
lemma of_name {name : String} (h : IsOptionName name) :
    Word.of ("--" ++ name) = .long name none := by
  have htake : name.toList.takeWhile (· != '=') = name.toList :=
    List.takeWhile_eq_self_iff.mpr h.ne_equals
  have hdrop : name.toList.dropWhile (· != '=') = [] := List.dropWhile_eq_nil_iff.mpr h.ne_equals
  have hlist : ("--" ++ name).toList = '-' :: '-' :: name.toList := by simp
  rw [of_hyphens hlist h.ne_nil, htake, hdrop, String.ofList_toList]

/-- A name with a sign of equality and a value are the option with that value. -/
lemma of_attached {name : String} (h : IsOptionName name) (value : String) :
    Word.of ("--" ++ name ++ "=" ++ value) = .long name (some value) := by
  have hlist : ("--" ++ name ++ "=" ++ value).toList =
      '-' :: '-' :: (name.toList ++ '=' :: value.toList) := by
    simp
  have htake : (name.toList ++ '=' :: value.toList).takeWhile (· != '=') = name.toList := by
    rw [List.takeWhile_append_of_pos h.ne_equals]
    simp
  have hdrop : (name.toList ++ '=' :: value.toList).dropWhile (· != '=') = '=' :: value.toList := by
    rw [List.dropWhile_append_of_pos h.ne_equals]
    simp
  rw [of_hyphens hlist (by simp), htake, hdrop]
  simp only [String.ofList_toList]

end Word

/-! ### Arguments -/

namespace Arguments

variable {a b : Arguments} {name : String}

/-- What has been found in two lists together has been found in one of them. -/
lemma has_append (a b : Arguments) (name : String) :
    Arguments.has (a ++ b) name = (a.has name || b.has name) :=
  List.any_append

/-- An argument has not been found exactly if no entry has its name. -/
lemma has_eq_false_iff : a.has name = false ↔ ∀ e ∈ a, e.1 ≠ name := by
  simp [has]

/-- An argument that has not been found has no entry. -/
lemma lookup_eq_none (h : a.has name = false) : a.lookup name = none := by
  refine List.lookup_eq_none_iff.mpr fun e he => ?_
  exact bne_iff_ne.mpr (has_eq_false_iff.mp h e he).symm

/-- An argument that is not given has no value. -/
lemma value?_eq_none (h : a.has name = false) : a.value? name = none := by
  rw [value?, lookup_eq_none h, Option.bind_none]

/-- What is given last does not change the value of another argument. -/
lemma value?_append (h : b.has name = false) : Arguments.value? (a ++ b) name = a.value? name := by
  rw [value?, List.lookup_append, lookup_eq_none h, Option.or_none, value?]

/-- The values in two lists together are those of the one and then those of the other. -/
lemma values_append (a b : Arguments) (name : String) :
    Arguments.values (a ++ b) name = a.values name ++ b.values name := by
  rw [values, List.filter_append, List.flatMap_append]
  rfl

/-- An argument that has not been found has no values. -/
lemma values_eq_nil (h : a.has name = false) : a.values name = [] := by
  rw [values, List.filter_eq_nil_iff.mpr, List.flatMap_nil]
  intro e he
  simpa using has_eq_false_iff.mp h e he

end Arguments

/-! ### Progress -/

namespace Progress

/-- When the last argument is settled, these arguments have been found and so many operands taken;
options may follow. -/
def Amounts (p : Progress) (found : Arguments) (operands : Nat) : Prop :=
  p.settle = .ok { found, operands }

/-- Progress without a waiting argument amounts to what it holds. -/
lemma amounts_settled (found : Arguments) (k : Nat) :
    Amounts { found, operands := k } found k := rfl

/-- Values are noted exactly if the argument may come again or is new, and its words can be read. -/
lemma note_eq_ok_iff {parameter : Parameter} {words : List String} :
    p.note parameter words = .ok q ↔
      (parameter.repeatable = true ∨ p.found.has parameter.name = false) ∧
        ∃ values, words.mapM parameter.read = .ok values ∧
          q = { p with found := p.found ++ [(parameter.name, values)] } := by
  have hnote : (do
      return { p with found := p.found ++ [(parameter.name, ← words.mapM parameter.read)] } :
        Except UsageError Progress) = .ok q ↔ ∃ values, words.mapM parameter.read = .ok values ∧
          q = { p with found := p.found ++ [(parameter.name, values)] } := by
    simp only [bind_eq_ok_iff, pure_eq_ok_iff, eq_comm (a := q)]
  unfold note
  rw [← hnote]
  cases parameter.repeatable <;> cases p.found.has parameter.name <;> simp

/-- Settling an argument moves it to those that were found. -/
lemma settle_keeps (h : p.settle = .ok q) :
    q.operands = p.operands ∧ q.onlyOperands = p.onlyOperands ∧ q.waiting = none := by
  unfold settle at h
  split at h
  next hwaiting =>
    obtain rfl := Except.ok.inj h
    exact ⟨rfl, rfl, hwaiting⟩
  next => simp at h
  next =>
    obtain ⟨-, values, -, rfl⟩ := note_eq_ok_iff.mp h
    exact ⟨rfl, rfl, rfl⟩

/-- Options may follow when all is settled. -/
lemma Amounts.onlyOperands (h : p.Amounts found k) : p.onlyOperands = false :=
  (settle_keeps h).2.1.symm

/-- No value is awaited when all is settled. -/
lemma Amounts.awaitsValue (h : p.Amounts found k) : p.awaitsValue = false := by
  unfold Amounts settle at h
  unfold Progress.awaitsValue
  split at h <;> simp_all

/-- An argument whose word has just been read adds its value. -/
lemma amounts_waiting {parameter : Parameter} {word : String} {value : Value}
    (hread : parameter.read word = .ok value)
    (hnew : parameter.repeatable = true ∨ found.has parameter.name = false) :
    Amounts { found, waiting := some (parameter, [word]), operands := k }
      (found ++ [(parameter.name, [value])]) k := by
  refine note_eq_ok_iff.mpr ⟨hnew, [value], ?_, rfl⟩
  simp [hread]

end Progress

/-! ### Levels of commands -/

namespace Usage

variable {usage : CommandUsage α} {shared : List Parameter} {parameter : Parameter} {value : Value}
  {word : String} {rest : List String}

/-- When no word is left, the command is finished. -/
lemma read_nil (shared : List Parameter) (u : Usage α) (p : Progress) :
    u.read shared p [] = u.finish shared p := by
  unfold read
  rfl

/-- A command takes its words one after another. -/
lemma read_cons (word : String) (rest : List String) :
    (command usage).read shared p (word :: rest) =
      (command usage).takeWord shared p word >>= fun p => (command usage).read shared p rest := by
  conv_lhs => unfold read
  simp [hasCommand, commands]

/-- The name of a command leads to the words of that command. -/
lemma read_named {u inner : Usage α} (hlookup : u.commands.lookup word = some inner)
    (hnamed : u.hasCommand word = true) (rest : List String) :
    u.read shared {} (word :: rest) = inner.read shared {} rest := by
  conv_lhs => unfold read
  simp only [hnamed, hlookup, Progress.awaitsValue, Bool.not_false, Bool.and_self, if_true]
  cases inner.read shared {} rest with
  | error e => rfl
  | ok parsed =>
    simp [Progress.settle, ok_bind_eq]

/-- What an argument adds, for whatever words come after it. -/
def Adds (shared : List Parameter) (usage : CommandUsage α) (p : Progress) (words : List String)
    (found : Arguments) (operands : Nat) : Prop :=
  ∃ p', p'.Amounts found operands ∧ ∀ rest, (command usage).read shared p (words ++ rest) =
    (command usage).read shared p' rest

/-- No words add nothing. -/
lemma Adds.nil (h : p.Amounts found k) : Adds shared usage p [] found k :=
  ⟨p, h, fun _ => rfl⟩

/-- Words add what the first of them and then the others add. -/
lemma Adds.append {words more : List String} {found' : Arguments} {k' : Nat}
    (h : Adds shared usage p words found k)
    (hmore : ∀ p', p'.Amounts found k → Adds shared usage p' more found' k') :
    Adds shared usage p (words ++ more) found' k' := by
  obtain ⟨p', hp', hread⟩ := h
  obtain ⟨p'', hp'', hread'⟩ := hmore p' hp'
  refine ⟨p'', hp'', fun rest => ?_⟩
  rw [List.append_assoc, hread, hread']

/-- An option that is understood is started by its name. -/
lemma takeWord_name (h : p.Amounts found k) (hname : Word.IsOptionName parameter.name)
    (hfind : ((command usage).options shared).find? (·.name == parameter.name) = some parameter)
    {kind : ValueKind} (htakes : parameter.takes = some kind) :
    (command usage).takeWord shared p ("--" ++ parameter.name) =
      .ok { found, waiting := some (parameter, []), operands := k } := by
  unfold takeWord
  simp only [h.onlyOperands, Word.of_name hname, hfind, htakes,
    beq_eq_false_iff_ne.mpr hname.ne_help]
  simp only [Progress.start, show p.settle = _ from h, ok_bind_eq]
  rfl

/-- An option with its value, given in a way in which it is taken, adds the value. -/
lemma adds_option (parameter : Parameter) (given : GivenValue) (h : p.Amounts found k)
    (hname : Word.IsOptionName parameter.name)
    (hfind : ((command usage).options shared).find? (·.name == parameter.name) = some parameter)
    {kind : ValueKind} (htakes : parameter.takes = some kind) (hgiven : given.Accepted)
    (hread : kind.read given.text = .ok value)
    (hnew : parameter.repeatable = true ∨ found.has parameter.name = false) :
    Adds shared usage p (given.words parameter.name) (found ++ [(parameter.name, [value])]) k := by
  have hreads : parameter.read given.text = .ok value := by
    simp only [Parameter.read, htakes, hread]
  have hwaits := Progress.amounts_waiting (k := k) hreads hnew
  unfold GivenValue.words
  split
  next hattached =>
    -- attached, the value is settled at once
    refine ⟨_, Progress.amounts_settled _ _, fun rest => ?_⟩
    rw [List.singleton_append, read_cons, takeWord]
    simp only [h.onlyOperands, Word.of_attached hname, hfind, htakes,
      beq_eq_false_iff_ne.mpr hname.ne_help]
    simp only [Progress.attached, Progress.start, show p.settle = _ from h, ok_bind_eq]
    simp only [pure_bind, show Progress.settle _ = _ from hwaits]
    rfl
  next hseparate =>
    -- as a word of its own, it waits
    have hplain : Word.of given.text = .plain :=
      Word.of_eq_plain_iff.mpr (hgiven.resolve_left hseparate)
    refine ⟨_, hwaits, fun rest => ?_⟩
    rw [List.cons_append, read_cons, takeWord_name h hname hfind htakes, ok_bind_eq,
      List.singleton_append, read_cons, takeWord]
    simp only [hplain]
    rfl

/-- A flag is added with no value. -/
lemma adds_flag (parameter : Parameter) (h : p.Amounts found k)
    (hname : Word.IsOptionName parameter.name)
    (hfind : ((command usage).options shared).find? (·.name == parameter.name) = some parameter)
    (htakes : parameter.takes = none) (hnew : found.has parameter.name = false) :
    Adds shared usage p ["--" ++ parameter.name] (found ++ [(parameter.name, [])]) k := by
  have hnote : Progress.note { found, operands := k } parameter [] =
      .ok { found := found ++ [(parameter.name, [])], operands := k } :=
    Progress.note_eq_ok_iff.mpr ⟨.inr hnew, [], rfl, rfl⟩
  refine ⟨_, Progress.amounts_settled _ _, fun rest => ?_⟩
  rw [List.singleton_append, read_cons, takeWord]
  simp only [h.onlyOperands, Word.of_name hname, hfind, htakes,
    beq_eq_false_iff_ne.mpr hname.ne_help]
  simp only [Progress.flag, show p.settle = _ from h, ok_bind_eq, hnote]
  rfl

/-- An operand adds its value. -/
lemma adds_operand (h : p.Amounts found k) (hoperand : usage.operands[k]? = some parameter)
    (hsingle : parameter.repeatable = false) (hword : Word.beginsOption word = false)
    (hread : parameter.read word = .ok value) (hnew : found.has parameter.name = false) :
    Adds shared usage p [word] (found ++ [(parameter.name, [value])]) (k + 1) := by
  have hplain : Word.of word = .plain := Word.of_eq_plain_iff.mpr hword
  have hcount : p.operands = k := (Progress.settle_keeps h).1.symm
  refine ⟨_, Progress.amounts_waiting (k := k + 1) hread (.inr hnew), fun rest => ?_⟩
  rw [List.singleton_append, read_cons, takeWord]
  simp only [h.onlyOperands, h.awaitsValue, hplain, Progress.operand?, operands, hcount, hoperand,
    hsingle, Progress.start, show p.settle = _ from h, ok_bind_eq]
  rfl

/-- No two arguments have been found that exclude each other. -/
lemma any_exclusive_eq_false_iff {exclusive : List (String × String)} :
    (exclusive.any fun (a, b) => found.has a && found.has b) = false ↔
      ∀ e ∈ exclusive, (found.has e.1 && found.has e.2) = false := by
  rw [List.any_eq_false]
  exact forall₂_congr fun e _ => Bool.eq_false_iff.symm

/-- At the end of the words a command is made of what has been found. -/
lemma read_made (h : p.Amounts found k) {made : α}
    (hexclusive : (usage.exclusive.any fun (a, b) => found.has a && found.has b) = false)
    (hmake : usage.make found = some made) :
    (command usage).read shared p [] =
      .ok ⟨made, found.filter fun (name, _) => shared.any (·.name == name)⟩ := by
  rw [read_nil, finish, show p.settle = _ from h, ok_bind_eq]
  simp only [hexclusive, hmake]
  rfl

/-- A command that is made at the end of the words is made of what has been found. -/
lemma exists_amounts_of_read_nil {parsed : Parsed α} (honly : p.onlyOperands = false)
    (h : (command usage).read shared p [] = .ok parsed) :
    ∃ found k, p.Amounts found k ∧
      (usage.exclusive.any fun (a, b) => found.has a && found.has b) = false ∧
      usage.make found = some parsed.command ∧
      parsed.shared = found.filter fun (name, _) => shared.any (·.name == name) := by
  rw [read_nil, finish] at h
  obtain ⟨q, hsettle, h⟩ := bind_eq_ok_iff.mp h
  obtain ⟨-, hkept, hwaiting⟩ := Progress.settle_keeps hsettle
  dsimp only at h
  split at h
  next => simp at h
  next hexclusive =>
    split at h
    next => simp at h
    next made hmade =>
      obtain rfl := pure_eq_ok_iff.mp h
      refine ⟨q.found, q.operands, ?_, Bool.eq_false_iff.mpr hexclusive, hmade, rfl⟩
      rw [Progress.Amounts, hsettle]
      obtain ⟨found, waiting, operands, onlyOperands⟩ := q
      simp_all

/-! ### Values that are not taken -/

/-- Nothing is settled while an option waits for its value. -/
lemma settle_of_awaitsValue (h : p.awaitsValue = true) : p.settle = .error .missingValue := by
  unfold Progress.awaitsValue at h
  unfold Progress.settle
  split at h <;> simp_all

/-- While an option waits for its value, the one word that begins with a hyphen and is not refused
says that only operands follow. -/
lemma eq_of_takeWord_of_awaitsValue (h : p.awaitsValue = true) (honly : p.onlyOperands = false)
    (hword : Word.beginsOption word = true)
    (htake : (command usage).takeWord shared p word = .ok q) :
    q = { p with onlyOperands := true } := by
  have hsettle := settle_of_awaitsValue h
  unfold takeWord at htake
  simp only [honly, Bool.false_eq_true, if_false] at htake
  cases hof : Word.of word with
  | separator =>
    rw [hof] at htake
    exact (Except.ok.inj htake).symm
  | short letters =>
    rw [hof] at htake
    dsimp only at htake
    split at htake <;> simp [hsettle, error_bind_eq] at htake
  | plain => simp [Word.of_eq_plain_iff.mp hof] at hword
  | long name value =>
    rw [hof] at htake
    dsimp only at htake
    split at htake
    · split at htake <;> simp [hsettle, error_bind_eq] at htake
    · split at htake
      · simp at htake
      · split at htake <;> simp [Progress.flag, Progress.attached, Progress.start, hsettle,
          error_bind_eq] at htake

/-- A value that begins with a hyphen and stands alone is refused, whatever comes after it. -/
lemma exists_error_of_not_accepted (parameter : Parameter) (h : p.Amounts found k)
    (hname : Word.IsOptionName parameter.name)
    (hfind : ((command usage).options shared).find? (·.name == parameter.name) = some parameter)
    {kind : ValueKind} (htakes : parameter.takes = some kind) {given : GivenValue}
    (hgiven : ¬given.Accepted) (hoperands : usage.operands[k]? = none) (rest : List String) :
    ∃ e, (command usage).read shared p (given.words parameter.name ++ rest) = .error e := by
  obtain ⟨hseparate, hword⟩ := not_or.mp hgiven
  rw [Bool.not_eq_false] at hword
  rw [GivenValue.words, if_neg hseparate, List.cons_append, read_cons,
    takeWord_name h hname hfind htakes, ok_bind_eq, List.singleton_append, read_cons]
  cases htake : (command usage).takeWord shared
      { found, waiting := some (parameter, []), operands := k } given.text with
  | error e => exact ⟨e, error_bind_eq⟩
  | ok q =>
    -- after the separator there are only operands, and none is left
    obtain rfl := eq_of_takeWord_of_awaitsValue rfl rfl hword htake
    rw [ok_bind_eq]
    cases rest with
    | nil => exact ⟨.missingValue, by rw [read_nil]; rfl⟩
    | cons word rest =>
      rw [read_cons, takeWord]
      simp [Progress.operand?, operands, hoperands, error_bind_eq]

end Usage

end Colloquy
