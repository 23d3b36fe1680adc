import Colloquy.CommandLine.Paging
import Colloquy.Proofs.CommandLine.Continuation
import Colloquy.Proofs.Json.Layout
import Colloquy.Proofs.Record.Format

/-!
# Following printed cursors

Somebody who runs a listing, reads the cursor in what it prints and gives it to the same line again
gets all records of the listing, each once and in order (`Line.prints_all`). Three things carry
this: a page is read back from what is printed for it (`Page.ofPrinted?_pretty`), its cursor is a
word that is taken as a value (`Line.Lists.goOn`), and what a line prints is the page of the request
that it is understood as (`Line.run_of_pageOf`). So the lines print what a walk through the stored
records returns.
-/

namespace Colloquy

open Json (Document)

variable {s : Store} {scope : Scope} {limits : PagingLimits} {request : PageRequest} {l : Line}

/-! ### Printed pages -/

/-- A record that is written can be printed. -/
lemma Scope.toDocument_wellFormed : (scope : Scope) → (a : scope.Record) →
    (scope.toDocument a).WellFormed
  | .spaces _, a => Space.toDocument_wellFormed a
  | .sessions _ _, a => Session.toDocument_wellFormed a
  | .messages _, a => Message.toDocument_wellFormed a
  | .tasks _, a => Task.toDocument_wellFormed a
  | .disks _, a => Disk.toDocument_wellFormed a

/-- What is printed for a page shows the page. -/
lemma Page.ofPrinted?_pretty {α : Type} {write : α → Document} (hwrite : ∀ a, (write a).WellFormed)
    (page : Page α) : ofPrinted? ((page.toDocument write).pretty ++ "\n") =
      some ⟨page.items.map write, page.hasMore, page.nextCursor⟩ := by
  have hsame : page.toDocument write =
      toDocument id ⟨page.items.map write, page.hasMore, page.nextCursor⟩ := by
    simp [toDocument]
  rw [ofPrinted?, Document.ofString?_pretty_line (toDocument_wellFormed hwrite), Option.bind_some,
    hsame]
  let shown : Page Document := ⟨page.items.map write, page.hasMore, page.nextCursor⟩
  have hread : ∀ d ∈ shown.items, (fun _ d => some d : Json.Reader Document) 125 (id d) =
      some (id d) := fun _ _ => rfl
  calc read (fun _ d => some d) Json.maxLevels (toDocument id shown)
      = some ⟨shown.items.map id, shown.hasMore, shown.nextCursor⟩ := read_toDocument hread
    _ = some shown := by rw [List.map_id]

/-! ### The words of listings -/

namespace CommandLine

open Usage

section Words

variable {p : Progress} {found : Arguments} {k : Nat} {cu : CommandUsage Command}

/-- A limit does not begin like an option. -/
lemma beginsOption_limit (n : Nat) : Word.beginsOption (.ofList (Decimal.ofInt n)) = false := by
  rw [Decimal.beginsOption_ofInt]
  simp

/-- What a limit adds. -/
def limitArguments : Option Nat → Arguments
  | some n => [("limit", [.number n])]
  | none => []

/-- A limit of 32 bits is read as the number that it is. -/
lemma read_limit {n : Nat} (hn : n < 4294967296) :
    ValueKind.read .nat32 (.ofList (Decimal.ofInt n)) = .ok (.number n) := by
  have hrange : Decimal.InInt64 n := by
    unfold Decimal.InInt64
    omega
  have hread : (Decimal.readInt64 (String.ofList (Decimal.ofInt n)).toList).toOption =
      some ⟨n, hrange⟩ := by
    rw [String.toList_ofList, Decimal.readInt64_ofInt ⟨n, hrange⟩]
    rfl
  have hbound : 0 ≤ (n : Int) ∧ (n : Int) < 4294967296 := by omega
  rw [ValueKind.read, hread, Option.bind_eq_bind, Option.bind_some, if_pos hbound]
  rfl

/-- The words for a limit add it. -/
lemma adds_limitWords (h : p.Amounts found k)
    (hfind : ((Usage.command cu).options sharedOptions).find? (·.name == "limit") =
      some { name := "limit", takes := some .nat32 })
    (hnew : found.has "limit" = false) {limit : Option Nat} (hlimit : ∀ n ∈ limit, n < 4294967296) :
    Adds sharedOptions cu p (limitWords limit) (found ++ limitArguments limit) k := by
  cases limit with
  | none =>
    rw [limitArguments, List.append_nil]
    exact .nil h
  | some n =>
    exact adds_option { name := "limit", takes := some .nat32 } ⟨.ofList (Decimal.ofInt n), false⟩ h
      (by decide) hfind rfl (.inr (beginsOption_limit n)) (read_limit (hlimit n rfl))
      (.inr hnew)

/-- What an order adds. -/
def orderArguments (timeDesc : Bool) : Arguments :=
  if timeDesc then [] else [("asc", [])]

/-- The words for an order add it. -/
lemma adds_orderWords (h : p.Amounts found k)
    (hfind : ((Usage.command cu).options sharedOptions).find? (·.name == "asc") =
      some { name := "asc", takes := none })
    (hnew : found.has "asc" = false) (timeDesc : Bool) :
    Adds sharedOptions cu p (orderWords timeDesc) (found ++ orderArguments timeDesc) k := by
  cases timeDesc with
  | true =>
    rw [orderArguments, if_pos rfl, List.append_nil]
    exact .nil h
  | false =>
    exact adds_flag { name := "asc", takes := none } h (by decide) hfind rfl hnew

/-- The command that lists a scope. -/
def usageOf : Scope → CommandUsage Command
  | .spaces _ => listingOfProject .listSpaces
  | .sessions _ _ => sessionsUsage
  | .messages _ => listingOf .listMessages
  | .tasks _ => listingOf .listTasks
  | .disks _ => listingOfProject .listDisks

/-- What naming a scope adds, but for its project. -/
def targetArguments : Scope → Arguments
  | .spaces _ | .sessions _ .all | .disks _ => []
  | .sessions _ (.inSpace id) => [("space", [.id id])]
  | .sessions _ .notConnected => [("not-connected", [])]
  | .messages id | .tasks id => [("ID", [.id id])]

/-- The words for a scope lead to its command and add what names the scope. -/
lemma exists_adds_words (scope : Scope) : ∃ rest k,
    (∀ more, usage.read sharedOptions {} (scope.words ++ more) =
      (Usage.command (usageOf scope)).read sharedOptions {} (rest ++ more)) ∧
    Adds sharedOptions (usageOf scope) {} rest (targetArguments scope) k := by
  have hlevel : ∀ {group : String} {inner : Usage Command} {cu : CommandUsage Command},
      usage.commands.lookup group = some inner → usage.hasCommand group = true →
        inner.commands.lookup "list" = some (.command cu) → inner.hasCommand "list" = true →
          ∀ more, usage.read sharedOptions {} (group :: "list" :: more) =
            (Usage.command cu).read sharedOptions {} more := fun h h' hlist hlist' _ =>
    (read_named h h' _).trans (read_named hlist hlist' _)
  have hstart : Progress.Amounts {} [] 0 := Progress.amounts_settled [] 0
  cases scope with
  | spaces id => exact ⟨[], 0, hlevel rfl rfl rfl rfl, .nil hstart⟩
  | disks id => exact ⟨[], 0, hlevel rfl rfl rfl rfl, .nil hstart⟩
  | messages id =>
    exact ⟨[id.text], 1, fun _ => hlevel rfl rfl rfl rfl _,
      adds_operand hstart rfl rfl id.beginsOption_text (read_idOperand id) rfl⟩
  | tasks id =>
    exact ⟨[id.text], 1, fun _ => hlevel rfl rfl rfl rfl _,
      adds_operand hstart rfl rfl id.beginsOption_text (read_idOperand id) rfl⟩
  | sessions projectId filter =>
    cases filter with
    | all => exact ⟨[], 0, hlevel rfl rfl rfl rfl, .nil hstart⟩
    | inSpace id =>
      exact ⟨["--space", id.text], 0, fun _ => hlevel rfl rfl rfl rfl _,
        adds_option spaceOption ⟨id.text, false⟩ hstart (by decide) rfl rfl
          (.inr id.beginsOption_text) (read_idOperand id) (.inr rfl)⟩
    | notConnected =>
      exact ⟨["--not-connected"], 0, fun _ => hlevel rfl rfl rfl rfl _,
        adds_flag { name := "not-connected", takes := none } hstart (by decide) rfl rfl rfl⟩

/-- The words that list a scope are read as that. -/
lemma parse_listWords (scope : Scope) {limit : Option Nat} (hlimit : ∀ n ∈ limit, n < 4294967296)
    (timeDesc : Bool) : parse (listWords scope limit timeDesc) =
      .ok ⟨none, none, scope.project?, false, scope.command ⟨limit, none, some timeDesc⟩⟩ := by
  obtain ⟨rest, k, hlevel, htarget⟩ := exists_adds_words scope
  -- with the scope, what is given and the order known, only fixed arguments are left
  refine parse_of_adds (hlevel _) (htarget.append fun p hp =>
    (adds_limitWords hp ?_ ?_ hlimit).append fun p hp =>
      (adds_orderWords hp ?_ ?_ timeDesc).append fun p hp =>
        adds_projectWords hp ?_ ?_ scope.project?) ?_ ?_ ?_
  all_goals
    rcases scope with _ | ⟨_, _ | _ | _⟩ | _ | _ | _ <;> cases limit <;> cases timeDesc <;> rfl

/-- A word that does not begin like an option is not the separator. -/
lemma ne_separator {word : String} (h : Word.beginsOption word = false) : "--" ≠ word := by
  rintro rfl
  exact absurd h (by decide)

/-- Other words may follow those that list a scope. -/
lemma separator_not_mem_listWords (scope : Scope) (limit : Option Nat) (timeDesc : Bool) :
    "--" ∉ listWords scope limit timeDesc := by
  have hid : ∀ id : Uuid, "--" ≠ id.text := fun id => ne_separator id.beginsOption_text
  have hscope : "--" ∉ scope.words := by
    rcases scope with _ | ⟨_, _ | _ | _⟩ | _ | _ | _ <;> simp [Scope.words, hid]
  have hlimit : "--" ∉ limitWords limit := by
    cases limit <;> simp [limitWords, ne_separator (beginsOption_limit _)]
  have horder : "--" ∉ orderWords timeDesc := by
    cases timeDesc <;> simp [orderWords]
  have hproject : "--" ∉ projectWords scope.project? := by
    cases scope.project? <;> simp [projectWords, hid]
  simp [listWords, hscope, hlimit, horder, hproject]

end Words

end CommandLine

/-! ### Lines that list -/

namespace Line

/-- A line that lists prints the page of its request, and nothing is stored. -/
lemma run_of_pageOf (hs : s.Reachable) (hlists : l.Lists scope limits request)
    {page : Page scope.Record} (hpage : s.pageOf scope limits request = .ok page) :
    l.run s = (s, .ok ((page.toDocument scope.toDocument).pretty ++ "\n")) := by
  obtain ⟨i, config, hparse, hconfig, rfl, hlisting⟩ := hlists
  obtain ⟨hcommand, hproject⟩ := Command.listing?_eq_some_iff.mp hlisting
  obtain ⟨q, hq, hlist⟩ := bind_eq_ok_iff.mp hpage
  have hanswer : (Service.resolve { store := s, limits := config.paging } request >>= fun q =>
      Service.stored (s.list scope q)) = .ok page := by
    refine bind_eq_ok_iff.mpr ⟨q, ?_, Service.stored_eq_ok_iff.mpr hlist⟩
    exact mapError_eq_ok_iff.mpr (mapError_eq_ok_iff.mp hq)
  have hrun : ∀ {call : Call} {reply : Reply},
      (scope.command request).calls? (i.project.or config.projectId) = .ok [call] →
        Service.perform { store := s, limits := config.paging } l.fresh l.now call =
          .ok ({ store := s, limits := config.paging }, reply) →
        l.run s = (s, .ok (Command.printed reply)) := fun hcalls hperform =>
    Line.run_of_perform hs hparse hconfig (hcommand ▸ hcalls) hperform
  -- each scope has a call and an answer of its own, and some need the project that is given
  cases scope with
  | spaces id =>
    rw [hproject id rfl] at hrun
    exact hrun rfl (bind_eq_ok_iff.mpr ⟨page, hanswer, rfl⟩)
  | sessions id filter =>
    rw [hproject id rfl] at hrun
    exact hrun rfl (bind_eq_ok_iff.mpr ⟨page, hanswer, rfl⟩)
  | disks id =>
    rw [hproject id rfl] at hrun
    exact hrun rfl (bind_eq_ok_iff.mpr ⟨page, hanswer, rfl⟩)
  | messages id => exact hrun rfl (bind_eq_ok_iff.mpr ⟨page, hanswer, rfl⟩)
  | tasks id => exact hrun rfl (bind_eq_ok_iff.mpr ⟨page, hanswer, rfl⟩)

/-- A line that lists from the start lists from any cursor that can be read. -/
lemma Lists.goOn (h : l.Lists scope limits request) (hnone : request.cursor = none)
    (hwords : "--" ∉ l.words) {cursor : String} {start : Option SortKey}
    (hcursor : Cursor.decode cursor = .ok start) :
    (l.goOn (some cursor)).Lists scope limits { request with cursor } := by
  obtain ⟨i, config, hparse, hconfig, hlimits, hlisting⟩ := h
  obtain ⟨hcommand, hproject⟩ := Command.listing?_eq_some_iff.mp hlisting
  have hpage : i.command.page? = some request := by rw [hcommand, scope.page?_command]
  refine ⟨_, config, CommandLine.parse_append_cursor hwords hparse hpage hnone
    (Cursor.beginsOption_of_decode hcursor), hconfig, hlimits, ?_⟩
  dsimp only
  rw [hcommand, scope.withCursor_command]
  exact Command.listing?_eq_some_iff.mpr ⟨rfl, hproject⟩

variable {line : Nat → Line} {limit : Nat → Option Nat} {timeDesc : Bool} {i : Nat}
  {cursor : Option String}

/-- There is one way to run lines one after another. -/
lemma Prints.unique {items items' : List Document} {s' s'' : Store}
    (h : Prints line i cursor s items s') (h' : Prints line i cursor s items' s'') :
    items' = items ∧ s'' = s' := by
  have hsame : ∀ {l : Line} {s s' s'' : Store} {output output' : String}
      {page page' : Page Document}, l.run s = (s', .ok output) →
        Page.ofPrinted? output = some page → l.run s = (s'', .ok output') →
          Page.ofPrinted? output' = some page' → page' = page ∧ s'' = s' := by
    intro l s s' s'' output output' page page' hrun hpage hrun' hpage'
    obtain ⟨rfl, houtput⟩ := Prod.mk.inj (hrun.symm.trans hrun')
    obtain rfl := Except.ok.inj houtput
    exact ⟨Option.some.inj (hpage'.symm.trans hpage), rfl⟩
  induction h generalizing items' s'' with
  | last hrun hpage hlast =>
    cases h' with
    | last hrun' hpage' _ =>
      obtain ⟨rfl, rfl⟩ := hsame hrun hpage hrun' hpage'
      exact ⟨rfl, rfl⟩
    | next hrun' hpage' hnext' _ =>
      obtain ⟨rfl, rfl⟩ := hsame hrun hpage hrun' hpage'
      simp [hlast] at hnext'
  | next hrun hpage hnext _ ih =>
    cases h' with
    | last hrun' hpage' hlast' =>
      obtain ⟨rfl, rfl⟩ := hsame hrun hpage hrun' hpage'
      simp [hnext] at hlast'
    | next hrun' hpage' hnext' hlater' =>
      obtain ⟨rfl, rfl⟩ := hsame hrun hpage hrun' hpage'
      obtain rfl := Option.some.inj (hnext.symm.trans hnext')
      obtain ⟨rfl, rfl⟩ := ih hlater'
      exact ⟨rfl, rfl⟩

/-- Lines that list from each cursor that they are given print what a walk returns. -/
lemma prints_of_walk (hs : s.Reachable)
    (hlists : ∀ i cursor, PageRequest.Accepted ⟨limit i, cursor, some timeDesc⟩ limits →
      ((line i).goOn cursor).Lists scope limits ⟨limit i, cursor, some timeDesc⟩)
    {pages : List (Page scope.Record)}
    (h : Page.Walk (fun i cursor => s.pageOf scope limits ⟨limit i, cursor, some timeDesc⟩)
      i cursor pages) :
    Prints line i cursor s ((pages.flatMap Page.items).map scope.toDocument) s := by
  have hrun : ∀ {i cursor page},
      s.pageOf scope limits ⟨limit i, cursor, some timeDesc⟩ = .ok page →
        ((line i).goOn cursor).run s =
          (s, .ok ((page.toDocument scope.toDocument).pretty ++ "\n")) := by
    intro i cursor page hpage
    obtain ⟨q, hq, -⟩ := bind_eq_ok_iff.mp hpage
    exact run_of_pageOf hs (hlists i cursor ⟨q, mapError_eq_ok_iff.mp hq⟩) hpage
  induction h with
  | last hpage hlast =>
    rw [List.flatMap_singleton]
    exact .last (hrun hpage) (Page.ofPrinted?_pretty scope.toDocument_wellFormed _) hlast
  | next hpage hnext _ ih =>
    rw [List.flatMap_cons, List.map_append]
    exact .next (hrun hpage) (Page.ofPrinted?_pretty scope.toDocument_wellFormed _) hnext ih

/-- Whatever lines have been run, if the rows of a scope can be read, then each line that lists the
scope goes on from every cursor, and lines that follow the cursors that are printed come to an end
and have printed all records, each once and in order. There is such a line for each listing. A line
that says that only operands follow is none, as it takes no option behind that. -/
theorem prints_all (lines : List Line) (scope : Scope)
    (hreadable : (afterAll lines).Readable scope) (limits : PagingLimits) (timeDesc : Bool) :
    (∀ (l : Line) (config : Config) (limit : Option Nat),
      Config.load l.configFile = .ok config → config.paging = limits →
        (∀ n ∈ limit, n < 4294967296) → l.words = CommandLine.listWords scope limit timeDesc →
          l.Lists scope limits ⟨limit, none, some timeDesc⟩ ∧ "--" ∉ l.words) ∧
    ∃ records : List scope.Record,
      (records.map Except.ok).Perm (((afterAll lines).rows scope).map Row.read) ∧
      (records.Pairwise fun a b =>
        (SortOrder.ofTimeDesc timeDesc).precedes (sortKey a) (sortKey b)) ∧
      ∀ (line : Nat → Line) (limit : Nat → Option Nat), (∀ i, limits.Accepts (limit i)) →
        (∀ i, (line i).Lists scope limits ⟨limit i, none, some timeDesc⟩ ∧
          "--" ∉ (line i).words) →
          (∀ i cursor start, Cursor.decode cursor = .ok start →
            ((line i).goOn (some cursor)).Lists scope limits ⟨limit i, some cursor, some timeDesc⟩ ∧
              PageRequest.Accepted ⟨limit i, some cursor, some timeDesc⟩ limits) ∧
          ∀ items s', Prints line 0 none (afterAll lines) items s' ↔
            items = records.map scope.toDocument ∧ s' = afterAll lines := by
  have hkept : (afterAll lines).Kept fun _ => False := kept_afterAll (by simp)
  have hs := hkept.reachable
  obtain ⟨read, hread⟩ := Listing.exists_reads hreadable
  obtain ⟨records, hperm, hordered, hdrains⟩ :=
    Store.exists_drainsTo_of_reads hs.wellFormed hread limits (some timeDesc)
  refine ⟨?_, records, ?_, hordered, ?_⟩
  · intro l config limit hconfig hlimits hlimit hwords
    have hparse := CommandLine.parse_listWords scope hlimit timeDesc
    have hopen := CommandLine.separator_not_mem_listWords scope limit timeDesc
    rw [← hwords] at hparse hopen
    refine ⟨⟨_, config, hparse, hconfig, hlimits, ?_⟩, hopen⟩
    refine Command.listing?_eq_some_iff.mpr ⟨rfl, fun id hid => ?_⟩
    dsimp only
    rw [hid, Option.some_or]
  · rw [show ((afterAll lines).rows scope).map Row.read = _ from hread]
    exact hperm.map _
  · intro line limit hlimit hlines
    have hcontinues : ∀ i cursor start, Cursor.decode cursor = .ok start →
        ((line i).goOn (some cursor)).Lists scope limits ⟨limit i, some cursor, some timeDesc⟩ :=
      fun i cursor start hcursor => (hlines i).1.goOn rfl (hlines i).2 hcursor
    refine ⟨fun i cursor start hcursor => ⟨hcontinues i cursor start hcursor, ?_⟩, ?_⟩
    · exact ⟨_, PageRequest.resolve_eq_ok_of_startsAt (hlimit i) hcursor⟩
    · obtain ⟨pages, hpages, rfl⟩ := hdrains hlimit
      have hlists : ∀ i cursor, PageRequest.Accepted ⟨limit i, cursor, some timeDesc⟩ limits →
          ((line i).goOn cursor).Lists scope limits ⟨limit i, cursor, some timeDesc⟩ := by
        rintro i cursor ⟨q, hq⟩
        cases cursor with
        | none => exact (hlines i).1
        | some cursor => exact hcontinues i cursor q.after (PageRequest.resolve_eq_ok hq).2
      have hprints := prints_of_walk hs hlists hpages
      intro items s'
      constructor
      · exact hprints.unique
      · rintro ⟨rfl, rfl⟩
        exact hprints

/-- Two tasks of one time before the epoch, on a page each. -/
theorem prints_all_two_tasks :
    let line (words : List String) (fresh : Nat) : Line :=
      { words, fresh := .ofNat fresh, now := .ofNanos ⟨-1, by decide⟩ }
    let session := "00000000-0000-0000-0000-000000000001"
    let lines := [line ["session", "create", "--project", "00000000-0000-0000-0000-000000000007"] 1,
      line ["task", "add", session, "--order", "0"] 2,
      line ["task", "add", session, "--order", "1"] 3]
    let list := line ["task", "list", session, "--limit", "1"] 4
    ∃ records : List Task, records.length = 2 ∧
      Prints (fun _ => list) 0 none (afterAll lines) (records.map Task.toDocument)
        (afterAll lines) := by
  intro line session lines list
  have hstored : (afterAll lines).Readable (.tasks (.ofNat 1)) ∧
      ((afterAll lines).rows (.tasks (.ofNat 1))).length = 2 := by decide +kernel
  have hlimit : PagingLimits.Accepts {} (some 1) := by
    unfold PagingLimits.Accepts
    decide
  obtain ⟨hlists, records, hperm, -, hprints⟩ :=
    prints_all lines (.tasks (.ofNat 1)) hstored.1 {} true
  refine ⟨records, ?_, ?_⟩
  · have hlength := hperm.length_eq
    rw [List.length_map, List.length_map, hstored.2] at hlength
    exact hlength
  · have hline := hlists list {} (some 1) rfl rfl (by decide) (by decide +kernel)
    exact ((hprints (fun _ => list) (fun _ => some 1) (fun _ => hlimit) fun _ => hline).2 _ _).mpr
      ⟨rfl, rfl⟩

end Line

end Colloquy
