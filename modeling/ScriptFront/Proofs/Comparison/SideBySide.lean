import ScriptFront.Proofs.Comparison.Exchange
import ScriptFront.Proofs.Program.Loops

/-!
# Two runs side by side

Two runs over tokens that correspond take the same turns: they yield corresponding
parts with corresponding tokens left, or the same error. `TwoRuns` says which tokens
correspond, and what is needed of them: they end together, what stands in front is a
pair, and they still correspond after the line ends in front are passed over. Line ends
need not match one by one, because no reader takes a single one.

The second run may have a higher limit. Then the first one may end with the error for
deep nesting wherever the second one goes on.
-/

namespace ScriptFront

open Program

/-- What stands in front in two runs, given which tokens correspond: nothing in both, or
a pair with tokens after it. What follows a line end is left open. -/
inductive Exchange.Fronts (exchange : Exchange) (Tokens : List Token → List Token → Prop) :
    List Token → List Token → Prop where
  | ended : Fronts exchange Tokens [] []
  | pair {first second : Token} {left right : List Token}
      (pair : exchange.Pairs first second)
      (following : first.kind ≠ .newline → Tokens left right) :
      Fronts exchange Tokens (first :: left) (second :: right)

/-- Which tokens of two runs correspond, what becomes of the names, strings and numbers
among them, and under which limits the two runs read. -/
structure TwoRuns where
  /-- These are left to the first run and to the second. -/
  Tokens : List Token → List Token → Prop
  exchange : Exchange
  /-- The limit of the first run. -/
  limit : Nat
  /-- How much higher the limit of the second run is. -/
  gap : Nat
  fronts : ∀ {left right}, Tokens left right → exchange.Fronts Tokens left right
  lines : ∀ {left right}, Tokens left right → Tokens (skipNewlines left) (skipNewlines right)

namespace TwoRuns

variable (runs : TwoRuns) {Part Next : Type} {view : Part → Part}

/-- How the two runs have fared so far: both have read a part, which the second one sees
in its own way, or both have failed alike, or the first one has met its lower limit. -/
inductive Agree (view : Part → Part) :
    Except SyntaxError (Part × List Token) → Except SyntaxError (Part × List Token) → Prop where
  | read (part : Part) {left right : List Token} (remaining : runs.Tokens left right) :
      Agree view (.ok (part, left)) (.ok (view part, right))
  | failed (error : SyntaxError) : Agree view (.error error) (.error error)
  | curtailed (higher : 0 < runs.gap) (outcome : Except SyntaxError (Part × List Token)) :
      Agree view (.error (.tooDeep runs.limit)) outcome

/-- Two readers that agree on all tokens that correspond. -/
def Alike (view : Part → Part) (first second : Reader Part) : Prop :=
  ∀ ⦃left right : List Token⦄, runs.Tokens left right → runs.Agree view (first left) (second right)

variable {runs}

/-- The first run has spent its limit; so has the second, unless its limit is higher. -/
theorem Agree.spent {outcome : Except SyntaxError (Part × List Token)}
    (spent : runs.gap = 0 → outcome = .error (.tooDeep runs.limit)) :
    runs.Agree view (.error (.tooDeep runs.limit)) outcome := by
  rcases Nat.eq_zero_or_pos runs.gap with equal | higher
  · rw [spent equal]
    exact .failed _
  · exact .curtailed higher outcome

section Steps

variable {nextView : Next → Next} {first second : Except SyntaxError (Part × List Token)}

/-- Two steps in a row agree if both do. -/
theorem Agree.bind {next other : Part × List Token → Except SyntaxError (Next × List Token)}
    (agree : runs.Agree view first second)
    (following : ∀ part left right, first = .ok (part, left) → runs.Tokens left right →
      runs.Agree nextView (next (part, left)) (other (view part, right))) :
    runs.Agree nextView (first >>= next) (second >>= other) := by
  cases agree with
  | read part remaining => exact following part _ _ rfl remaining
  | failed error => exact .failed error
  | curtailed higher outcome => exact .curtailed higher _

/-- Parts that correspond still do when both are made into something else. -/
theorem Agree.map {build other : Part → Next} (agree : runs.Agree view first second)
    (commutes : ∀ part, nextView (build part) = other (view part)) :
    runs.Agree nextView (first >>= fun found => .ok (build found.1, found.2))
      (second >>= fun found => .ok (other found.1, found.2)) := by
  refine agree.bind fun part left right _ remaining => ?_
  rw [← commutes]
  exact .read (build part) remaining

/-- Line ends after a part are passed over in both runs. -/
theorem Agree.skip (agree : runs.Agree view first second) (build other : Part → Next)
    (commutes : ∀ part, nextView (build part) = other (view part)) :
    runs.Agree nextView (first >>= fun found => .ok (build found.1, skipNewlines found.2))
      (second >>= fun found => .ok (other found.1, skipNewlines found.2)) := by
  refine agree.bind fun part left right _ remaining => ?_
  rw [← commutes]
  exact .read (build part) (runs.lines remaining)

/-- The parts that the two runs have read, or why there are none. -/
theorem Agree.parts (agree : runs.Agree view first second) :
    second.map Prod.fst = (first.map Prod.fst).map view ∨
      0 < runs.gap ∧ first.map Prod.fst = .error (.tooDeep runs.limit) := by
  cases agree with
  | read part remaining => exact .inl rfl
  | failed error => exact .inl rfl
  | curtailed higher outcome => exact .inr ⟨higher, rfl⟩

end Steps

section Expressions

variable {nested right nestedOther rightOther : Reader Expression}

/-- What follows an argument agrees as the arguments after a comma do. -/
theorem afterArgument_agree {value : Expression} {left right : List Token}
    (tokens : runs.Tokens left right)
    (others : ∀ ⦃comma rest commaOther restOther⦄, left = comma :: rest →
      right = commaOther :: restOther → runs.Tokens rest restOther →
        runs.Agree (Expression.exchangedAll runs.exchange) (argumentList nested rest)
          (argumentList nestedOther restOther)) :
    runs.Agree (Expression.exchangedAll runs.exchange) (afterArgument nested value left)
      (afterArgument nestedOther (value.exchanged runs.exchange) right) := by
  cases runs.fronts tokens with
  | ended => exact .failed _
  | @pair token other rest restOther pair remaining =>
      simp only [afterArgument, pair.kind]
      by_cases comma : token.kind = .comma
      · simp only [if_pos comma]
        exact (others rfl rfl (remaining (by simp [comma]))).map fun _ => rfl
      · simp only [if_neg comma]
        split
        · next closing => exact .read [value] (remaining (by simp [closing]))
        · exact .failed _

variable (consumes : Consumes nested) (consumesOther : Consumes nestedOther)
  (alike : runs.Alike (Expression.exchanged runs.exchange) nested nestedOther)

include consumes consumesOther alike

/-- Arguments agree if the expressions among them do. -/
theorem argumentList_alike :
    runs.Alike (Expression.exchangedAll runs.exchange) (argumentList nested)
      (argumentList nestedOther) := by
  intro left
  -- The induction is on how many tokens are left to the first run after each comma.
  induction length : left.length using Nat.strongRecOn generalizing left with
  | ind count inductionHypothesis =>
      intro right tokens
      rw [argumentList_eq consumes, argumentList_eq consumesOther]
      refine (alike tokens).bind fun value after afterOther read remaining => ?_
      apply afterArgument_agree remaining
      rintro comma rest commaOther restOther rfl rfl following
      have shorter := consumes read
      rw [List.length_cons] at shorter
      exact inductionHypothesis rest.length (by omega) rfl following

/-- The rest of a call after its opening parenthesis agrees if its arguments do. -/
theorem arguments_alike :
    runs.Alike (Expression.exchangedAll runs.exchange) (arguments nested)
      (arguments nestedOther) := by
  intro left right tokens
  have filled := argumentList_alike consumes consumesOther alike tokens
  cases runs.fronts tokens with
  | ended => exact filled
  | @pair token other rest restOther pair remaining =>
      rw [arguments_cons, arguments_cons, pair.kind]
      split
      · next closing => exact .read [] (remaining (by simp [closing]))
      · exact filled

/-- What follows a name agrees if arguments and right sides do. -/
theorem afterName_alike
    (rightAlike : runs.Alike (Expression.exchanged runs.exchange) right rightOther)
    (name : String) :
    runs.Alike (Expression.exchanged runs.exchange) (afterName nested right name)
      (afterName nestedOther rightOther (runs.exchange.name name)) := by
  intro left tokensOther tokens
  cases runs.fronts tokens with
  | ended => exact .read (Expression.identifier name) tokens
  | @pair token other rest restOther pair remaining =>
      simp only [afterName, pair.kind]
      by_cases opening : token.kind = .parenthesisOpen
      · simp only [if_pos opening]
        have call := arguments_alike consumes consumesOther alike (remaining (by simp [opening]))
        exact call.map fun _ => rfl
      · simp only [if_neg opening]
        cases found : Connective.ofKind? token.kind with
        | some connective =>
            have kind := Connective.ofKind?_eq_some_iff.mp found
            exact (rightAlike (remaining (kind ▸ connective.kind_ne_newline))).map fun _ => rfl
        | none => exact .read (Expression.identifier name) tokens

/-- An operand agrees if what follows its first token does. -/
theorem operand_alike
    (rightAlike : runs.Alike (Expression.exchanged runs.exchange) right rightOther) :
    runs.Alike (Expression.exchanged runs.exchange) (operand nested right)
      (operand nestedOther rightOther) := by
  intro left tokensOther tokens
  cases runs.fronts tokens with
  | ended => exact .failed _
  | @pair token other rest restOther pair remaining =>
      rw [operand_cons, operand_cons, pair.kind]
      split
      · next identifier =>
        rw [pair.name identifier]
        cases nameOf token with
        | error error => exact .failed error
        | ok name =>
            exact afterName_alike consumes consumesOther alike rightAlike name
              (remaining (by simp [identifier]))
      · rw [pair.atom]
        cases single : atom token with
        | error error => exact .failed error
        | ok value =>
            refine .read value (remaining ?_)
            intro newline
            simp only [atom, newline] at single
            cases single

end Expressions

/-- Whether an operation is in front is the same in both runs. -/
theorem startsOperation_eq {left right : List Token} (tokens : runs.Tokens left right) :
    startsOperation right = startsOperation left := by
  cases runs.fronts tokens with
  | ended => rfl
  | @pair first other rest restOther pair remaining =>
      by_cases identifier : first.kind = .identifier
      · have following := remaining (by simp [identifier])
        cases runs.fronts following with
        | ended => rfl
        | @pair second otherSecond tail tailOther secondPair =>
            simp only [startsOperation, pair.kind, secondPair.kind]
      · cases rest <;> cases restOther <;> simp [startsOperation, pair.kind, identifier]

/-- The right side of a connective agrees if expressions with fewer levels do. -/
theorem rightReader_alike {allowance : Nat}
    (alike : ∀ smaller ≤ allowance, runs.Alike (Expression.exchanged runs.exchange)
      (expression runs.limit smaller) (expression (runs.limit + runs.gap) (smaller + runs.gap))) :
    runs.Alike (Expression.exchanged runs.exchange) (rightReader runs.limit allowance)
      (rightReader (runs.limit + runs.gap) (allowance + runs.gap)) := by
  intro left right tokens
  cases allowance with
  | zero => exact .spent fun equal => by rw [equal]; rfl
  | succ allowance =>
      have higher := alike (allowance + 1) (Nat.le_refl _) tokens
      rw [Nat.add_right_comm] at higher ⊢
      simp only [rightReader, rightSide, startsOperation_eq tokens]
      split
      · exact higher
      · exact alike allowance (Nat.le_succ _) tokens

/-- Expressions agree, by induction on the levels the first run has left. -/
theorem expression_alike (runs : TwoRuns) (allowance : Nat) :
    runs.Alike (Expression.exchanged runs.exchange) (expression runs.limit allowance)
      (expression (runs.limit + runs.gap) (allowance + runs.gap)) := by
  induction allowance using Nat.strongRecOn with
  | ind allowance inductionHypothesis =>
      cases allowance with
      | zero =>
          intro left right tokens
          exact .spent fun equal => by rw [equal]; rfl
      | succ allowance =>
          rw [Nat.add_right_comm, expression_succ, expression_succ]
          exact operand_alike (expression_consumes _ _) (expression_consumes _ _)
            (inductionHypothesis allowance (Nat.lt_succ_self _))
            (rightReader_alike fun smaller bounded =>
              inductionHypothesis smaller (Nat.lt_succ_of_le bounded))

section Statements

variable {value valueOther : Reader Expression} {body bodyOther : TracedReader (List Statement)}

/-- A call or an assignment agrees if its arguments or its value do. -/
theorem simpleStatement_alike (consumes : Consumes value) (consumesOther : Consumes valueOther)
    (alike : runs.Alike (Expression.exchanged runs.exchange) value valueOther)
    {first other : Token} (pair : runs.exchange.Pairs first other)
    (identifier : first.kind = .identifier) :
    runs.Alike (Statement.exchanged runs.exchange) (simpleStatement value first)
      (simpleStatement valueOther other) := by
  intro left right tokens
  simp only [simpleStatement, pair.name identifier]
  cases nameOf first with
  | error error => exact .failed error
  | ok name =>
      cases runs.fronts tokens with
      | ended => exact .failed _
      | @pair second secondOther rest restOther secondPair remaining =>
          simp only [Except.map, ok_bind, secondPair.kind]
          by_cases opening : second.kind = .parenthesisOpen
          · simp only [if_pos opening]
            have call := arguments_alike consumes consumesOther alike
              (remaining (by simp [opening]))
            exact call.map fun _ => rfl
          · simp only [if_neg opening, expect, secondPair.kind]
            split
            · next equal =>
              exact (alike (remaining (by simp [equal]))).map fun _ => rfl
            · exact .failed _

/-- A statement agrees if its expressions and its body do. -/
theorem statementWith_alike (consumes : Consumes value) (consumesOther : Consumes valueOther)
    (alike : runs.Alike (Expression.exchanged runs.exchange) value valueOther)
    (bodyAlike : runs.Alike (Statement.exchangedAll runs.exchange)
      (fun tokens => (body tokens).outcome) (fun tokens => (bodyOther tokens).outcome)) :
    runs.Alike (Statement.exchanged runs.exchange)
      (fun tokens => (statementWith value body tokens).outcome)
      (fun tokens => (statementWith valueOther bodyOther tokens).outcome) := by
  intro left right tokens
  cases runs.fronts tokens with
  | ended => exact .failed _
  | @pair token other rest restOther pair remaining =>
      have kindOther := pair.kind
      rcases kind_cases token.kind with ⟨kind, opening⟩ | simple | ⟨block, simple⟩
      · have kept : token.kind ≠ .newline := opening ▸ kind.keyword_ne_newline
        dsimp only
        rw [outcome_statementWith_block _ _ opening,
          outcome_statementWith_block _ _ (kindOther.trans opening)]
        refine (alike (remaining kept)).bind fun condition after afterOther _ following => ?_
        exact (bodyAlike following).skip (Statement.block kind condition)
          (Statement.block kind _) fun _ => rfl
      · dsimp only
        rw [outcome_statementWith_identifier _ _ simple,
          outcome_statementWith_identifier _ _ (kindOther.trans simple)]
        exact (simpleStatement_alike consumes consumesOther alike pair simple
          (remaining (by simp [simple]))).skip id id fun _ => rfl
      · dsimp only
        rw [outcome_statementWith_invalid _ _ block simple,
          outcome_statementWith_invalid _ _ (kindOther ▸ block) (kindOther ▸ simple), kindOther]
        exact .failed _

variable {statement statementOther : TracedReader Statement}
  (consumes : Consumes fun tokens => (statement tokens).outcome)
  (consumesOther : Consumes fun tokens => (statementOther tokens).outcome)
  (alike : runs.Alike (Statement.exchanged runs.exchange)
    (fun tokens => (statement tokens).outcome) (fun tokens => (statementOther tokens).outcome))

include consumes consumesOther alike

/-- A body agrees if the statements in it do. -/
theorem bodyList_alike :
    runs.Alike (Statement.exchangedAll runs.exchange) (bodyList statement)
      (bodyList statementOther) := by
  intro left
  induction length : left.length using Nat.strongRecOn generalizing left with
  | ind count inductionHypothesis =>
      intro right tokens
      cases runs.fronts tokens with
      | ended => exact .failed _
      | @pair token other rest restOther pair remaining =>
          have first := alike tokens
          rw [bodyList_cons consumes, bodyList_cons consumesOther, pair.kind]
          split
          · next closing => exact .read [] (remaining (by simp [closing]))
          · refine first.bind fun value after afterOther read following => ?_
            exact (inductionHypothesis after.length (length ▸ consumes read) rfl
              following).map fun _ => rfl

/-- A program agrees if its statements do. -/
theorem programList_alike :
    runs.Alike (Statement.exchangedAll runs.exchange) (programList statement)
      (programList statementOther) := by
  intro left
  induction length : left.length using Nat.strongRecOn generalizing left with
  | ind count inductionHypothesis =>
      intro right tokens
      cases runs.fronts tokens with
      | ended => exact .read [] tokens
      | @pair token other rest restOther pair =>
          have first := alike tokens
          rw [programList_cons consumes, programList_cons consumesOther]
          refine first.bind fun value after afterOther read following => ?_
          exact (inductionHypothesis after.length (length ▸ consumes read) rfl
            following).map fun _ => rfl

end Statements

/-- Statements agree, by induction on the levels the first run has left. -/
theorem statement_alike (runs : TwoRuns) (allowance : Nat) :
    runs.Alike (Statement.exchanged runs.exchange)
      (fun tokens => (statement runs.limit allowance tokens).outcome)
      (fun tokens =>
        (statement (runs.limit + runs.gap) (allowance + runs.gap) tokens).outcome) := by
  induction allowance with
  | zero =>
      simp only [statement_eq]
      refine statementWith_alike (expression_consumes _ _) (expression_consumes _ _)
        (runs.expression_alike 0) fun left right tokens => ?_
      exact .spent fun equal => by rw [equal]; rfl
  | succ allowance inductionHypothesis =>
      simp only [statement_eq]
      refine statementWith_alike (expression_consumes _ _) (expression_consumes _ _)
        (runs.expression_alike _) fun left right tokens => ?_
      rw [Nat.add_right_comm]
      exact bodyList_alike (statement_consumes _ _) (statement_consumes _ _) inductionHypothesis
        (runs.lines tokens)

/-- Two runs over tokens that correspond end alike: with corresponding programs or with
the same error, unless the first one has the lower limit and meets it. -/
theorem outcome_parseWithin (runs : TwoRuns) {left right : List Token}
    (tokens : runs.Tokens left right) :
    (parseWithin (runs.limit + runs.gap) right).outcome =
        (parseWithin runs.limit left).outcome.map (Statement.exchangedAll runs.exchange) ∨
      0 < runs.gap ∧ (parseWithin runs.limit left).outcome = .error (.tooDeep runs.limit) := by
  rw [ScriptFront.outcome_parseWithin, ScriptFront.outcome_parseWithin]
  exact (programList_alike (statement_consumes _ _) (statement_consumes _ _)
    (runs.statement_alike runs.limit) tokens).parts

/-- If nothing is exchanged between the two runs, they have the same outcome, unless the
first one has the lower limit and meets it. -/
theorem outcome_parseWithin_keep (runs : TwoRuns) (keep : runs.exchange = .keep)
    {left right : List Token} (tokens : runs.Tokens left right) :
    (parseWithin runs.limit left).outcome = (parseWithin (runs.limit + runs.gap) right).outcome ∨
      0 < runs.gap ∧ (parseWithin runs.limit left).outcome = .error (.tooDeep runs.limit) := by
  have unchanged : Statement.exchangedAll .keep = id := funext Statement.exchangedAll_keep
  have ended := runs.outcome_parseWithin tokens
  rw [keep, unchanged] at ended
  refine ended.imp_left fun agreed => ?_
  rw [agreed]
  cases (parseWithin runs.limit left).outcome <;> rfl

end TwoRuns

end ScriptFront
