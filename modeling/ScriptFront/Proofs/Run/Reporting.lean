import ScriptFront.Analysis
import ScriptFront.Proofs.Cursor.Agreement
import ScriptFront.Proofs.Token.Consumption

/-!
# What an analysis reports

The events of an analysis tell what has happened. Reading tokens reports every piece
once. Reading a program reports every statement once, a block before the statements in
it, so that the events of a successful run can be told from the program alone. The last
event of each stage says how that stage has ended.
-/

namespace ScriptFront

namespace Statement

mutual

/-- The kinds of the tokens with which a statement and those in it begin: a block before
what is in it. -/
def kinds : Statement → List Kind
  | .assignment _ _ => [.identifier]
  | .call _ _ => [.identifier]
  | .block kind _ body => kind.keyword :: kindsAll body

/-- The kinds of several statements in a row. -/
def kindsAll : List Statement → List Kind
  | [] => []
  | statement :: rest => statement.kinds ++ kindsAll rest

end

end Statement

open Program

/-- A run that has only reported the beginnings of statements. If it succeeds, these and
the ones before it are those of what it has read. -/
inductive Narrates {Part : Type} (before : List Kind) (kindsOf : Part → List Kind)
    (run : Traced SyntaxError Part) : Prop where
  | read {part : Part} (kinds : List Kind) (outcome : run.outcome = .ok part)
      (events : run.events = kinds.map .statement) (total : before ++ kinds = kindsOf part)
  | failed {error : SyntaxError} (kinds : List Kind) (outcome : run.outcome = .error error)
      (events : run.events = kinds.map .statement)

namespace Narrates

variable {Part Next : Type} {before : List Kind} {kindsOf : Part → List Kind}
  {run : Traced SyntaxError Part}

/-- Two runs in a row. -/
theorem bind {kindsAfter : Next → List Kind} {next : Part → Traced SyntaxError Next}
    (first : Narrates before kindsOf run)
    (following : ∀ part, Narrates (kindsOf part) kindsAfter (next part)) :
    Narrates before kindsAfter (run >>= next) := by
  obtain ⟨events, outcome⟩ := run
  cases first with
  | @read part kinds outcome reported total =>
      cases outcome
      cases reported
      rcases following part with ⟨others, outcome, more, sum⟩ | ⟨others, outcome, more⟩
      · refine .read (kinds ++ others) outcome
          ((congrArg (_ ++ ·) more).trans (List.map_append ..).symm) ?_
        rw [← List.append_assoc, total, sum]
      · exact .failed (kinds ++ others) outcome
          ((congrArg (_ ++ ·) more).trans (List.map_append ..).symm)
  | failed kinds outcome reported =>
      cases outcome
      exact .failed kinds rfl reported

/-- A run that reports nothing. -/
theorem silent {outcome : Except SyntaxError Part}
    (same : ∀ part, outcome = .ok part → kindsOf part = before) :
    Narrates before kindsOf (Traced.ofExcept outcome) := by
  cases outcome with
  | ok part => exact .read [] rfl rfl ((List.append_nil _).trans (same part rfl).symm)
  | error error => exact .failed [] rfl rfl

/-- A run that fails at once. -/
theorem fail (error : SyntaxError) : Narrates before kindsOf (Traced.fail error) :=
  .failed [] rfl rfl

/-- A run that is over. -/
theorem done {part : Part} (all : before = kindsOf part) :
    Narrates before kindsOf (pure part) :=
  .read [] rfl rfl ((List.append_nil _).trans all)

/-- A result that is only seen in another way. -/
theorem map {view : Part → Next} {kindsAfter : Next → List Kind}
    (narrates : Narrates before kindsOf run)
    (same : ∀ part, kindsOf part = kindsAfter (view part)) :
    Narrates before kindsAfter (view <$> run) := by
  rw [map_eq_pure_bind]
  exact narrates.bind fun part => done (same part)

end Narrates

/-- The kinds of the statement that has been read. -/
def statementKinds (found : Statement × List Token) : List Kind := found.1.kinds

/-- Line ends after a statement are not reported. -/
theorem Narrates.lines {before : List Kind} {run : Traced SyntaxError (Statement × List Token)}
    (narrates : Narrates before statementKinds run) :
    Narrates before statementKinds
      (run >>= fun found => pure (found.1, skipNewlines found.2)) :=
  narrates.bind fun _ => .done rfl

section Statements

variable {value : Reader Expression} {body : TracedReader (List Statement)}

end Statements

section Sequences

variable {statement : TracedReader Statement}
  (narrates : ∀ tokens, Narrates [] statementKinds (statement tokens))

include narrates

end Sequences

/-- What has been reported where a walk has ended. -/
def Walk.reported {Part : Type} : EStateM.Result Stop Cursor Part → List Event
  | .ok _ final => final.events
  | .error _ final => final.events

/-- A source whose tokens cannot be read is analyzed no further. -/
theorem analyze_of_unreadable {source : String} {error : LexicalError} {events : List Event}
    (unread : tokenize source = ⟨events, .error error⟩) :
    analyze source = ⟨events, .error (.lexical error)⟩ := by
  rw [analyze, unread]
  rfl

end ScriptFront
