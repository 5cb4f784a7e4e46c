import ScriptFront.CommandLine
import ScriptFront.Proofs.Run.Reporting

/-!
# What a call leaves behind

The arguments of a call can stand in any order: they make a request if they name one file
and do not ask for help, and of several presentations the last one is meant. A request
succeeds or fails as a whole. It shows what it asks for if the file holds text and the text
can be read that far, and otherwise writes nothing but a message, which is the same for
every presentation that reads the same. Events appear in the log only.
-/

namespace ScriptFront.CommandLine

/-- The arguments that are no paths. -/
def options : List String :=
  ["--tokens", "--json", "-h", "--help"]

/-- The paths among arguments. -/
def paths (arguments : List String) : List String :=
  arguments.filter (· ∉ options)

/-- Arguments that ask for help. -/
def AsksForHelp (arguments : List String) : Prop :=
  "-h" ∈ arguments ∨ "--help" ∈ arguments

instance (arguments : List String) : Decidable (AsksForHelp arguments) :=
  inferInstanceAs (Decidable (_ ∨ _))

/-- What an argument asks to be shown, if it does. -/
def presentation? (argument : String) : Option Presentation :=
  if argument = "--tokens" then some .tokens
  else if argument = "--json" then some .json
  else none

/-- What arguments ask for last, and the given presentation if they ask for none. -/
def lastPresentation (otherwise : Presentation) (arguments : List String) : Presentation :=
  (arguments.filterMap presentation?).getLast?.getD otherwise

/-- Arguments that name one file and do not ask for help. -/
structure Names (arguments : List String) (path : String) : Prop where
  noHelp : ¬ AsksForHelp arguments
  onePath : paths arguments = [path]

section Arguments

variable {argument : String} {arguments : List String}

theorem paths_cons_option (listed : argument ∈ options) :
    paths (argument :: arguments) = paths arguments :=
  List.filter_cons_of_neg (by simpa using listed)

theorem paths_cons_path (unlisted : argument ∉ options) :
    paths (argument :: arguments) = argument :: paths arguments :=
  List.filter_cons_of_pos (by simpa using unlisted)

/-- Each argument may replace what has been asked for before it. -/
theorem lastPresentation_cons (otherwise : Presentation) :
    lastPresentation otherwise (argument :: arguments) =
      lastPresentation ((presentation? argument).getD otherwise) arguments := by
  cases asked : presentation? argument with
  | none => rw [lastPresentation, List.filterMap_cons_none asked]; rfl
  | some presentation =>
      rw [lastPresentation, List.filterMap_cons_some asked, List.getLast?_cons]
      rfl

theorem presentation?_of_not_mem (unlisted : argument ∉ options) :
    presentation? argument = none := by
  simp only [options, List.mem_cons, List.not_mem_nil, or_false, not_or] at unlisted
  rw [presentation?, if_neg unlisted.1, if_neg unlisted.2.1]

theorem Argument.ofText_of_not_mem (unlisted : argument ∉ options) :
    Argument.ofText argument = .path argument := by
  simp only [options, List.mem_cons, List.not_mem_nil, or_false, not_or] at unlisted
  obtain ⟨noTokens, noJson, noHelp, noLongHelp⟩ := unlisted
  rw [Argument.ofText, if_neg noTokens, if_neg noJson, if_neg (not_or.mpr ⟨noHelp, noLongHelp⟩)]

theorem asksForHelp_cons_of_ne (other : argument ≠ "-h" ∧ argument ≠ "--help") :
    AsksForHelp (argument :: arguments) ↔ AsksForHelp arguments := by
  simp [AsksForHelp, other.1.symm, other.2.symm]

end Arguments

namespace Request

/-- What is left of the arguments makes a request if it does not ask for help and there is
one path in all. -/
theorem continue?_eq_some_iff {presentation : Presentation} {path : Option String}
    {arguments : List String} {request : Request} :
    continue? presentation path (arguments.map Argument.ofText) = some request ↔
      ¬ AsksForHelp arguments ∧ path.toList ++ paths arguments = [request.path] ∧
        lastPresentation presentation arguments = request.presentation := by
  obtain ⟨shown, named⟩ := request
  induction arguments generalizing presentation path with
  | nil =>
      cases path with
      | none => simp [continue?, paths]
      | some path => simp [continue?, paths, AsksForHelp, lastPresentation, and_comm]
  | cons argument arguments inductionHypothesis =>
      rw [List.map_cons, lastPresentation_cons]
      by_cases listed : argument ∈ options
      · rw [paths_cons_option listed]
        simp only [options, List.mem_cons, List.not_mem_nil, or_false] at listed
        rcases listed with rfl | rfl | rfl | rfl
        · rw [asksForHelp_cons_of_ne (by decide)]
          exact inductionHypothesis
        · rw [asksForHelp_cons_of_ne (by decide)]
          exact inductionHypothesis
        · exact iff_of_false nofun fun made => made.1 (.inl List.mem_cons_self)
        · exact iff_of_false nofun fun made => made.1 (.inr List.mem_cons_self)
      · have noHelp : argument ≠ "-h" ∧ argument ≠ "--help" := by
          constructor <;> rintro rfl <;> exact listed (by decide)
        rw [Argument.ofText_of_not_mem listed, paths_cons_path listed,
          asksForHelp_cons_of_ne noHelp, presentation?_of_not_mem listed]
        cases path with
        | none => exact inductionHypothesis
        | some first =>
            refine iff_of_false nofun fun made => ?_
            simp at made

/-- Arguments make a request if they name one file and do not ask for help. -/
theorem ofArguments?_eq_some_iff {arguments : List String} {request : Request} :
    ofArguments? arguments = some request ↔
      Names arguments request.path ∧ lastPresentation .tree arguments = request.presentation := by
  rw [ofArguments?, continue?_eq_some_iff, ← and_assoc]
  exact and_congr_left' ⟨fun ⟨noHelp, onePath⟩ => ⟨noHelp, onePath⟩,
    fun ⟨noHelp, onePath⟩ => ⟨noHelp, onePath⟩⟩

end Request

/-- Without help and with one path, arguments name a file. -/
theorem exists_names_iff {arguments : List String} :
    (∃ path, Names arguments path) ↔
      ¬ (AsksForHelp arguments ∨ (paths arguments).length ≠ 1) := by
  rw [not_or, Decidable.not_not, List.length_eq_one_iff]
  exact ⟨fun ⟨path, named⟩ => ⟨named.noHelp, path, named.onePath⟩,
    fun ⟨noHelp, path, onePath⟩ => ⟨path, noHelp, onePath⟩⟩

/-- The order of arguments does not matter to what they name. -/
theorem Names.perm {arguments others : List String} {path : String}
    (named : Names arguments path) (same : arguments.Perm others) : Names others path where
  noHelp asked := named.noHelp (asked.imp same.mem_iff.mpr same.mem_iff.mpr)
  onePath := List.perm_singleton.mp (named.onePath ▸ (same.filter _).symm)

/-- What is found out for a request, and what is reported on the way. A finding is what is
to be written out, or a message. -/
def Request.finding (request : Request) (contents : Except SystemError ByteArray) :
    Traced String String := do
  let source ← Traced.ofExcept (request.source contents)
  (request.presentation.render source).mapError Diagnosis.message

/-- What a call leaves behind when something has been found out for it. -/
def Outcome.ofFinding (filter : LogFilter) (finding : Traced String String) : Outcome :=
  match finding.outcome with
  | .ok output => ⟨0, output, filter.log finding.events⟩
  | .error message => .failed (filter.log finding.events) message

/-- The outcome of a run is that of what it has found out. -/
theorem Outcome.ofRun_eq (filter : LogFilter) (run : Traced Diagnosis String) :
    ofRun filter run = ofFinding filter (run.mapError Diagnosis.message) := by
  obtain ⟨events, outcome⟩ := run
  cases outcome <;> rfl

namespace Request

variable {request : Request} {contents : Except SystemError ByteArray}

theorem finding_of_source {source : String} (read : request.source contents = .ok source) :
    request.finding contents =
      (request.presentation.render source).mapError Diagnosis.message := by
  rw [finding, read]
  rfl

theorem finding_of_unread {message : String} (unread : request.source contents = .error message) :
    request.finding contents = Traced.fail message := by
  rw [finding, unread]
  rfl

/-- An answer is made from a finding, which does not depend on the log. -/
theorem answer_eq (request : Request) (contents : Except SystemError ByteArray)
    (filter : LogFilter) :
    request.answer contents filter = .ofFinding filter (request.finding contents) := by
  unfold answer
  cases read : request.source contents with
  | error message =>
      rw [finding_of_unread read]
      rfl
  | ok source =>
      rw [finding_of_source read]
      exact Outcome.ofRun_eq filter _

/-- The source in a file is the text whose bytes the file holds. -/
theorem source_eq_ok_iff (request : Request) {source : String} :
    request.source contents = .ok source ↔ contents = .ok source.toUTF8 := by
  cases contents with
  | error error => exact iff_of_false nofun nofun
  | ok bytes =>
      have decoded : String.fromUTF8? bytes = some source ↔ bytes = source.toUTF8 := by
        unfold String.fromUTF8?
        constructor
        · intro read
          split at read
          · cases read
            rfl
          · cases read
        · rintro rfl
          exact dif_pos source.isValidUTF8
      rw [Except.ok.injEq, ← decoded]
      rw [Request.source]
      cases String.fromUTF8? bytes with
      | none => exact iff_of_false nofun nofun
      | some text => simp

end Request

namespace Presentation

/-- What a presentation needs of a source: its tokens if they are shown, and else its
program. -/
def Shows (source : String) : Presentation → Prop
  | .tokens => ∃ tokens, (tokenize source).outcome = .ok tokens
  | .tree => ∃ program, (analyze source).outcome = .ok program
  | .json => ∃ program, (analyze source).outcome = .ok program

/-- A program as text. -/
def ofProgram (presentation : Presentation) (program : List Statement) : String :=
  match presentation with
  | .json => (Json.array (Statement.jsonAll program)).pretty 0 ++ "\n"
  | _ => OutlineLine.join (Statement.outlineAll 0 program)

theorem render_eq_map {presentation : Presentation} (other : presentation ≠ .tokens)
    (source : String) :
    presentation.render source = presentation.ofProgram <$> analyze source := by
  cases presentation with
  | tokens => exact absurd rfl other
  | tree => exact bind_pure_comp ..
  | json => exact bind_pure_comp ..

/-- A source without tokens is presented alike in every way. -/
theorem render_of_unreadable {source : String} {error : LexicalError} {events : List Event}
    (unread : tokenize source = ⟨events, .error error⟩) (presentation : Presentation) :
    presentation.render source = ⟨events, .error (.lexical error)⟩ := by
  by_cases listing : presentation = .tokens
  · rw [listing, render, unread]
    rfl
  · rw [render_eq_map listing, analyze_of_unreadable unread]
    rfl

/-- A source is rendered if there is in it what is to be shown. -/
theorem exists_render_iff {source : String} {presentation : Presentation} :
    (∃ output, (presentation.render source).outcome = .ok output) ↔
      presentation.Shows source := by
  have viewed : ∀ {Error Result Next : Type} (view : Result → Next) (run : Traced Error Result),
      (∃ next, (view <$> run).outcome = .ok next) ↔ ∃ result, run.outcome = .ok result := by
    intro Error Result Next view run
    obtain ⟨events, outcome⟩ := run
    cases outcome with
    | error error => exact iff_of_false nofun nofun
    | ok result => exact iff_of_true ⟨_, rfl⟩ ⟨_, rfl⟩
  cases presentation with
  | tokens =>
      have listed : render source .tokens =
          Token.listing <$> (tokenize source).mapError .lexical := bind_pure_comp ..
      rw [listed, viewed]
      exact exists_congr fun tokens => mapError_eq_ok_iff
  | tree =>
      have other : Presentation.tree ≠ .tokens := nofun
      rw [render_eq_map other, viewed]
      rfl
  | json =>
      have other : Presentation.json ≠ .tokens := nofun
      rw [render_eq_map other, viewed]
      rfl

end Presentation

namespace Outcome

variable (filter : LogFilter) (finding : Traced String String)

theorem status_ofFinding :
    (ofFinding filter finding).status = 0 ∧ (∃ output, finding.outcome = .ok output) ∨
      (ofFinding filter finding).status = 1 ∧ ¬ ∃ output, finding.outcome = .ok output := by
  unfold ofFinding
  cases finding.outcome with
  | ok output => exact .inl ⟨rfl, output, rfl⟩
  | error message => exact .inr ⟨rfl, nofun⟩

/-- What is found out fixes what a call leaves behind, but for the log. -/
theorem exists_ofFinding : ∃ status output events message, (status ≠ 0 → output = "") ∧
    ∀ filter : LogFilter,
      ofFinding filter finding = ⟨status, output, filter.log events ++ message⟩ := by
  obtain ⟨events, outcome⟩ := finding
  cases outcome with
  | ok output => exact ⟨0, output, events, "", absurd rfl, fun filter => by simp [ofFinding]⟩
  | error message =>
      exact ⟨1, "", events, message ++ "\n", fun _ => rfl, fun filter => by
        simp [ofFinding, failed, String.append_assoc]⟩

end Outcome

namespace Request

variable {contents : Except SystemError ByteArray} {filter : LogFilter}

/-- Something is found to show if the file holds a source with what is to be shown. -/
theorem exists_finding_iff {request : Request} :
    (∃ output, (request.finding contents).outcome = .ok output) ↔
      ∃ source : String, contents = .ok source.toUTF8 ∧ request.presentation.Shows source := by
  simp only [← source_eq_ok_iff request]
  cases read : request.source contents with
  | error message =>
      rw [finding_of_unread read]
      exact iff_of_false nofun nofun
  | ok source =>
      have found : (∃ output, (request.finding contents).outcome = .ok output) ↔
          ∃ output, (request.presentation.render source).outcome = .ok output := by
        rw [finding_of_source read]
        exact exists_congr fun output => mapError_eq_ok_iff
      rw [found, Presentation.exists_render_iff]
      exact ⟨fun shows => ⟨source, rfl, shows⟩, fun ⟨_, same, shows⟩ => by cases same; exact shows⟩

/-- A request succeeds if the file holds a source with what is to be shown, and fails
otherwise. -/
theorem status_answer (request : Request) :
    ((request.answer contents filter).status = 0 ↔
        ∃ source : String, contents = .ok source.toUTF8 ∧ request.presentation.Shows source) ∧
      ((request.answer contents filter).status = 0 ∨
        (request.answer contents filter).status = 1) := by
  rw [answer_eq, ← exists_finding_iff]
  rcases Outcome.status_ofFinding filter (request.finding contents) with
    ⟨status, found⟩ | ⟨status, unfound⟩
  · exact ⟨iff_of_true status found, .inl status⟩
  · exact ⟨iff_of_false (by rw [status]; exact nofun) unfound, .inr status⟩

/-- The two presentations of a program succeed and fail together, and for the same reason. -/
theorem answer_alike (contents : Except SystemError ByteArray) (filter : LogFilter)
    {first second : Presentation} (program : first ≠ .tokens) (otherProgram : second ≠ .tokens)
    (path : String) :
    (answer ⟨first, path⟩ contents filter).status =
        (answer ⟨second, path⟩ contents filter).status ∧
      (answer ⟨first, path⟩ contents filter).errors =
        (answer ⟨second, path⟩ contents filter).errors := by
  rw [answer_eq, answer_eq]
  cases read : source ⟨first, path⟩ contents with
  | error message =>
      have otherRead : source ⟨second, path⟩ contents = .error message := read
      rw [finding_of_unread read, finding_of_unread otherRead]
      exact ⟨rfl, rfl⟩
  | ok text =>
      have otherRead : source ⟨second, path⟩ contents = .ok text := read
      rw [finding_of_source read, finding_of_source otherRead, Presentation.render_eq_map program,
        Presentation.render_eq_map otherProgram]
      generalize analyze text = run
      obtain ⟨events, outcome⟩ := run
      cases outcome <;> exact ⟨rfl, rfl⟩

/-- Where the tokens cannot be shown, nothing can. -/
theorem answer_of_failed_tokens {path : String}
    (failed : (answer ⟨.tokens, path⟩ contents filter).status ≠ 0) (presentation : Presentation) :
    answer ⟨presentation, path⟩ contents filter = answer ⟨.tokens, path⟩ contents filter := by
  rw [answer_eq, answer_eq]
  cases read : source ⟨.tokens, path⟩ contents with
  | error message =>
      have otherRead : source ⟨presentation, path⟩ contents = .error message := read
      rw [finding_of_unread read, finding_of_unread otherRead]
  | ok text =>
      have otherRead : source ⟨presentation, path⟩ contents = .ok text := read
      cases run : tokenize text with
      | mk events outcome =>
          cases outcome with
          | error error =>
              rw [finding_of_source read, finding_of_source otherRead,
                Presentation.render_of_unreadable run, Presentation.render_of_unreadable run]
          | ok tokens =>
              have shown : Presentation.tokens.Shows text :=
                ⟨tokens, congrArg Traced.outcome run⟩
              have held := (source_eq_ok_iff _).mp read
              exact absurd ((status_answer ⟨.tokens, path⟩).1.mpr ⟨text, held, shown⟩) failed

end Request

section Runs

variable {files : String → Except SystemError ByteArray} {setting : Option String}

/-- Arguments that name a file are answered from that file. -/
theorem run_of_names {arguments : List String} {path : String} (named : Names arguments path) :
    run arguments files setting =
      (Request.mk (lastPresentation .tree arguments) path).answer (files path)
        (LogFilter.ofSetting? setting) := by
  have request : Request.ofArguments? arguments =
      some ⟨lastPresentation .tree arguments, path⟩ :=
    Request.ofArguments?_eq_some_iff.mpr ⟨named, rfl⟩
  rw [run, request]

/-- Arguments that name no file get help. -/
theorem run_of_unnamed {arguments : List String} (unnamed : ¬ ∃ path, Names arguments path) :
    run arguments files setting = .helped := by
  rw [run]
  cases request : Request.ofArguments? arguments with
  | none => rfl
  | some request => exact absurd ⟨_, (Request.ofArguments?_eq_some_iff.mp request).1⟩ unnamed

/-- Arguments in another order that ask for the same last are answered alike. -/
theorem run_perm {arguments others : List String} (same : arguments.Perm others)
    (last : lastPresentation .tree arguments = lastPresentation .tree others) :
    run arguments files setting = run others files setting := by
  by_cases named : ∃ path, Names arguments path
  · obtain ⟨path, named⟩ := named
    rw [run_of_names named, run_of_names (named.perm same), last]
  · have unnamed : ¬ ∃ path, Names others path :=
      fun ⟨path, otherNamed⟩ => named ⟨path, otherNamed.perm same.symm⟩
    rw [run_of_unnamed named, run_of_unnamed unnamed]

/-- Only the log depends on its setting, and only success writes anything else out. -/
theorem exists_run (arguments : List String) (files : String → Except SystemError ByteArray) :
    ∃ status output events message, (status ≠ 0 → output = "") ∧
      ∀ setting, run arguments files setting =
        ⟨status, output, (LogFilter.ofSetting? setting).log events ++ message⟩ := by
  by_cases named : ∃ path, Names arguments path
  · obtain ⟨path, named⟩ := named
    obtain ⟨status, output, events, message, silent, told⟩ := Outcome.exists_ofFinding
      (Request.finding ⟨lastPresentation .tree arguments, path⟩ (files path))
    refine ⟨status, output, events, message, silent, fun setting => ?_⟩
    rw [run_of_names named, Request.answer_eq, told]
  · refine ⟨2, "", [], help, fun _ => rfl, fun setting => ?_⟩
    rw [run_of_unnamed named]
    rfl

end Runs

/-- A call either shows what it is asked for or fails and shows nothing. Its arguments can
stand in any order, as long as they ask for the same last. The presentations fail together
where they read the same, and a log changes nothing else. -/
theorem run_all_or_nothing (files : String → Except SystemError ByteArray) :
    (∀ arguments setting, (run arguments files setting).status = 2 ↔
      AsksForHelp arguments ∨ (paths arguments).length ≠ 1) ∧
    (∀ arguments path setting, Names arguments path →
      run arguments files setting = (Request.mk (lastPresentation .tree arguments) path).answer
          (files path) (LogFilter.ofSetting? setting) ∧
        ((run arguments files setting).status = 0 ↔ ∃ source : String,
          files path = .ok source.toUTF8 ∧ (lastPresentation .tree arguments).Shows source) ∧
        ((run arguments files setting).status = 0 ∨ (run arguments files setting).status = 1)) ∧
    (∀ arguments others setting, arguments.Perm others →
      lastPresentation .tree arguments = lastPresentation .tree others →
      run arguments files setting = run others files setting) ∧
    (∀ forTree forJson forTokens path setting,
      Names forTree path → lastPresentation .tree forTree = .tree →
      Names forJson path → lastPresentation .tree forJson = .json →
      Names forTokens path → lastPresentation .tree forTokens = .tokens →
      (run forTree files setting).status = (run forJson files setting).status ∧
        (run forTree files setting).errors = (run forJson files setting).errors ∧
        ((run forTokens files setting).status ≠ 0 →
          run forTree files setting = run forTokens files setting ∧
            run forJson files setting = run forTokens files setting)) ∧
    (∀ arguments, ∃ status output events message, (status ≠ 0 → output = "") ∧
      ∀ setting, run arguments files setting =
        ⟨status, output, (LogFilter.ofSetting? setting).log events ++ message⟩) := by
  refine ⟨fun arguments setting => ?_, fun arguments path setting named => ?_,
    fun arguments others setting => run_perm, ?_, fun arguments => exists_run arguments files⟩
  · by_cases named : ∃ path, Names arguments path
    · have understood := exists_names_iff.mp named
      obtain ⟨path, named⟩ := named
      rw [run_of_names named]
      refine iff_of_false ?_ understood
      rcases (Request.status_answer _).2 with status | status <;> rw [status] <;> exact nofun
    · rw [run_of_unnamed named]
      exact iff_of_true rfl (Decidable.not_not.mp (mt exists_names_iff.mpr named))
  · rw [run_of_names named]
    exact ⟨rfl, Request.status_answer _⟩
  · intro forTree forJson forTokens path setting treeNamed tree jsonNamed json tokensNamed tokens
    rw [run_of_names treeNamed, run_of_names jsonNamed, run_of_names tokensNamed, tree, json,
      tokens]
    have showsTree : Presentation.tree ≠ .tokens := nofun
    have showsJson : Presentation.json ≠ .tokens := nofun
    obtain ⟨statuses, errors⟩ := Request.answer_alike (files path)
      (LogFilter.ofSetting? setting) showsTree showsJson path
    exact ⟨statuses, errors, fun failed => ⟨Request.answer_of_failed_tokens failed .tree,
      Request.answer_of_failed_tokens failed .json⟩⟩

/-- Where a source has no tokens, asking for tokens last, in any order, and asking for a
program fail alike. -/
theorem run_all_or_nothing_without_tokens :
    let files : String → Except SystemError ByteArray := fun _ => .ok "x = @".toUTF8
    Names ["--json", "a", "--tokens"] "a" ∧
      (run ["--json", "a", "--tokens"] files none).status ≠ 0 ∧
      run ["a", "--json", "--tokens"] files none = run ["--json", "a", "--tokens"] files none ∧
      run ["a"] files none = run ["--json", "a", "--tokens"] files none ∧
      run ["a", "--json"] files none = run ["--json", "a", "--tokens"] files none := by
  intro files
  obtain ⟨-, answers, reorders, agrees, -⟩ := run_all_or_nothing files
  have named : Names ["--json", "a", "--tokens"] "a" := ⟨by decide, rfl⟩
  have forTree : Names ["a"] "a" := ⟨by decide, rfl⟩
  have forJson : Names ["a", "--json"] "a" := ⟨by decide, rfl⟩
  have unread : ¬ ∃ tokens, (tokenize "x = @").outcome = .ok tokens := by
    rintro ⟨tokens, read⟩
    have refused : (tokenize "x = @").outcome.toOption = none := by decide +kernel
    rw [read] at refused
    cases refused
  have failed : (run ["--json", "a", "--tokens"] files none).status ≠ 0 := by
    rw [Ne, (answers _ "a" none named).2.1]
    rintro ⟨source, held, shown⟩
    have same : "x = @".toUTF8 = source.toUTF8 := Except.ok.inj held
    obtain rfl := String.toByteArray_inj.mp same
    exact unread shown
  have alike := agrees ["a"] ["a", "--json"] ["--json", "a", "--tokens"] "a" none forTree rfl
    forJson rfl named rfl
  have order : ["a", "--json", "--tokens"].Perm ["--json", "a", "--tokens"] := .swap ..
  exact ⟨named, failed, reorders _ _ none order rfl, alike.2.2 failed⟩

end ScriptFront.CommandLine
