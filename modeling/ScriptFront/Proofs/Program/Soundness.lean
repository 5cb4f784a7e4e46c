import ScriptFront.Proofs.Program.Readers

/-!
# What is read follows the grammar

Every reader that succeeds has taken a phrase of the grammar from the front of its
tokens, and the tree it yields keeps to the allowance it was given. The readers of
expressions share one statement, `Sound`, whose last part is what is known of the
level: an expression counts from its own level on, and the right side of a connective
from the level of the connective on.
-/

namespace ScriptFront

namespace Program

open Grammar

/-- What the reader yields is an expression that stands in front and has a property. -/
def Sound (reader : Reader Expression) (Holds : Expression → Prop) : Prop :=
  ∀ ⦃tokens rest : List Token⦄ ⦃value : Expression⦄, reader tokens = .ok (value, rest) →
    ∃ used, tokens = used ++ rest ∧ Derives (.expression value) used ∧ Holds value

/-- A token is a name exactly if it is an identifier with text. -/
theorem eq_of_nameOf {token : Token} {name : String} (kind : token.kind = .identifier)
    (named : nameOf token = .ok name) : token = ⟨.identifier, .text name⟩ := by
  obtain ⟨tokenKind, value⟩ := token
  cases value with
  | text content =>
      cases named
      cases kind
      rfl
  | number amount => cases named

/-- A token that stands for itself derives the expression it stands for. -/
theorem atom_sound {token : Token} {value : Expression} (read : atom token = .ok value) :
    Derives (.expression value) [token] ∧ value.level = 1 ∧ value.isOperation = false := by
  obtain ⟨kind, content⟩ := token
  cases kind <;> cases content <;> cases read <;>
    simp only [Expression.level, Expression.isOperation, and_true]
  · exact .string
  · exact .number
  · exact .trueWord rfl
  · exact .trueWord rfl
  · exact .falseWord rfl
  · exact .falseWord rfl

/-- The token an expectation has passed. -/
theorem expect_sound {expected : Kind} {tokens rest : List Token}
    (read : expect expected tokens = .ok rest) :
    ∃ token, tokens = token :: rest ∧ token.kind = expected := by
  cases tokens with
  | nil => cases read
  | cons token tail =>
      simp only [expect] at read
      split at read
      · next kind =>
        cases read
        exact ⟨token, rfl, kind⟩
      · cases read

section Arguments

variable {nested : Reader Expression} {bound : Nat}

/-- Arguments read within a budget stand in front, before a closing parenthesis. -/
theorem argumentsWithin_sound (sound : Sound nested (·.level ≤ bound)) {most : Nat}
    {tokens rest : List Token} {values : List Expression}
    (read : argumentsWithin nested most tokens = .ok (values, rest)) :
    ∃ used closing, tokens = used ++ closing :: rest ∧
      closing.kind = .parenthesisClose ∧ Derives (.arguments values) used ∧
        Expression.levelAll values ≤ bound := by
  induction most generalizing tokens values with
  | zero => cases read
  | succ most inductionHypothesis =>
      simp only [argumentsWithin] at read
      obtain ⟨⟨first, afterFirst⟩, readFirst, readOthers⟩ := bind_eq_ok_iff.mp read
      obtain ⟨firstUsed, rfl, firstDerives, firstLevel⟩ := sound readFirst
      cases afterFirst with
      | nil => cases readOthers
      | cons token following =>
          by_cases comma : token.kind = .comma
          · simp only [comma, if_true] at readOthers
            obtain ⟨⟨others, afterOthers⟩, readRest, finished⟩ := bind_eq_ok_iff.mp readOthers
            cases finished
            obtain ⟨used, closing, rfl, closingKind, derives, level⟩ :=
              inductionHypothesis readRest
            refine ⟨firstUsed ++ token :: used, closing, by simp, closingKind,
              .moreArguments firstDerives comma derives, ?_⟩
            exact Nat.max_le.mpr ⟨firstLevel, level⟩
          · simp only [comma, if_false] at readOthers
            obtain ⟨afterClose, readClose, finished⟩ := bind_eq_ok_iff.mp readOthers
            cases finished
            obtain ⟨closing, same, closingKind⟩ := expect_sound readClose
            refine ⟨firstUsed, closing, by rw [same], closingKind,
              .lastArgument firstDerives, ?_⟩
            exact Nat.max_le.mpr ⟨firstLevel, Nat.zero_le bound⟩

/-- A name, an opening parenthesis and what is read as arguments are a call. -/
theorem arguments_sound (sound : Sound nested (·.level ≤ bound)) (name : String)
    {opening : Token} (openingKind : opening.kind = .parenthesisOpen)
    {tokens rest : List Token} {values : List Expression}
    (read : arguments nested tokens = .ok (values, rest)) :
    ∃ used, tokens = used ++ rest ∧
      Derives (.call name values) (⟨.identifier, .text name⟩ :: opening :: used) ∧
        Expression.levelAll values ≤ bound := by
  have filled : ∀ {most : Nat}, argumentsWithin nested most tokens = .ok (values, rest) →
      ∃ used, tokens = used ++ rest ∧
        Derives (.call name values) (⟨.identifier, .text name⟩ :: opening :: used) ∧
          Expression.levelAll values ≤ bound := by
    intro most readWithin
    obtain ⟨used, closing, rfl, closingKind, derives, level⟩ :=
      argumentsWithin_sound sound readWithin
    exact ⟨used ++ [closing], by simp, .filledCall openingKind derives closingKind, level⟩
  cases tokens with
  | nil => exact filled read
  | cons token tail =>
      simp only [arguments] at read
      split at read
      · next closingKind =>
        cases read
        exact ⟨[token], rfl, .emptyCall openingKind closingKind, Nat.zero_le bound⟩
      · exact filled read

end Arguments

section Operands

variable {nested right : Reader Expression} {bound : Nat}

/-- What goes on after a name makes up an expression together with it. -/
theorem afterName_sound (nestedSound : Sound nested (·.level ≤ bound))
    (rightSound : Sound right fun value =>
      (if value.isOperation then 1 else 2) + value.level ≤ bound + 1)
    {name : String} {tokens rest : List Token} {value : Expression}
    (read : afterName nested right name tokens = .ok (value, rest)) :
    ∃ used, tokens = used ++ rest ∧
      Derives (.expression value) (⟨.identifier, .text name⟩ :: used) ∧
        value.level ≤ bound + 1 := by
  cases tokens with
  | nil =>
      cases read
      exact ⟨[], rfl, .identifier, Nat.le_add_left 1 bound⟩
  | cons token tail =>
      simp only [afterName] at read
      split at read
      · next openingKind =>
        obtain ⟨⟨values, afterCall⟩, readArguments, finished⟩ := bind_eq_ok_iff.mp read
        cases finished
        obtain ⟨used, rfl, derives, level⟩ :=
          arguments_sound nestedSound name openingKind readArguments
        refine ⟨token :: used, rfl, .callExpression derives, ?_⟩
        simp only [Expression.level]
        omega
      · split at read
        · next connective found =>
          obtain ⟨⟨second, afterSecond⟩, readSecond, finished⟩ := bind_eq_ok_iff.mp read
          cases finished
          obtain ⟨used, rfl, derives, level⟩ := rightSound readSecond
          have kind := Connective.ofKind?_eq_some_iff.mp found
          exact ⟨token :: used, rfl, .operation kind derives, level⟩
        · cases read
          exact ⟨[], rfl, .identifier, Nat.le_add_left 1 bound⟩

/-- An operand is an expression of one level more than its arguments may have. -/
theorem operand_sound (nestedSound : Sound nested (·.level ≤ bound))
    (rightSound : Sound right fun value =>
      (if value.isOperation then 1 else 2) + value.level ≤ bound + 1) :
    Sound (operand nested right) (·.level ≤ bound + 1) := by
  intro tokens rest value read
  cases tokens with
  | nil => cases read
  | cons token tail =>
      rw [operand_cons] at read
      split at read
      · next kind =>
        obtain ⟨name, named, readAfter⟩ := bind_eq_ok_iff.mp read
        obtain ⟨used, rfl, derives, level⟩ :=
          afterName_sound nestedSound rightSound readAfter
        exact ⟨token :: used, rfl, eq_of_nameOf kind named ▸ derives, level⟩
      · obtain ⟨single, readAtom, finished⟩ := bind_eq_ok_iff.mp read
        cases finished
        obtain ⟨derives, level, -⟩ := atom_sound readAtom
        exact ⟨[token], rfl, derives, by omega⟩

/-- Whether an operation is read can be told from the two tokens in front. -/
theorem isOperation_of_operand {tokens rest : List Token} {value : Expression}
    (read : operand nested right tokens = .ok (value, rest)) :
    value.isOperation = startsOperation tokens := by
  cases tokens with
  | nil => cases read
  | cons token tail =>
      rw [operand_cons] at read
      split at read
      · next kind =>
        obtain ⟨name, -, readAfter⟩ := bind_eq_ok_iff.mp read
        cases tail with
        | nil =>
            cases readAfter
            rfl
        | cons second following =>
            simp only [afterName] at readAfter
            split at readAfter
            · next openingKind =>
              obtain ⟨_, -, finished⟩ := bind_eq_ok_iff.mp readAfter
              cases finished
              simp [Expression.isOperation, startsOperation, openingKind, Connective.ofKind?]
            · split at readAfter
              · next connective found =>
                obtain ⟨_, -, finished⟩ := bind_eq_ok_iff.mp readAfter
                cases finished
                simp [Expression.isOperation, startsOperation, kind, found]
              · next found =>
                cases readAfter
                simp [Expression.isOperation, startsOperation, found]
      · next kind =>
        obtain ⟨single, readAtom, finished⟩ := bind_eq_ok_iff.mp read
        cases finished
        rw [(atom_sound readAtom).2.2]
        cases rest <;> simp [startsOperation, kind]

end Operands

theorem isOperation_of_expression {limit allowance : Nat} {tokens rest : List Token}
    {value : Expression} (read : expression limit allowance tokens = .ok (value, rest)) :
    value.isOperation = startsOperation tokens := by
  cases allowance with
  | zero => cases read
  | succ allowance =>
      rw [expression_succ] at read
      exact isOperation_of_operand read

/-- The right side of a connective keeps to what the connective has left of its level. -/
theorem rightReader_sound {limit allowance : Nat}
    (sound : ∀ smaller ≤ allowance, Sound (expression limit smaller) (·.level ≤ smaller)) :
    Sound (rightReader limit allowance) fun value =>
      (if value.isOperation then 1 else 2) + value.level ≤ allowance + 1 := by
  intro tokens rest value read
  cases allowance with
  | zero => cases read
  | succ allowance =>
      simp only [rightReader, rightSide] at read
      split at read
      · next starts =>
        obtain ⟨used, shape, derives, level⟩ := sound (allowance + 1) (Nat.le_refl _) read
        have operation := isOperation_of_expression read
        refine ⟨used, shape, derives, ?_⟩
        simp only [operation, starts, if_true]
        omega
      · next starts =>
        obtain ⟨used, shape, derives, level⟩ := sound allowance (Nat.le_succ _) read
        have operation := isOperation_of_expression read
        refine ⟨used, shape, derives, ?_⟩
        simp only [operation, if_neg starts]
        omega

/-- An expression that is read stands in front and keeps to its allowance. -/
theorem expression_sound (limit allowance : Nat) :
    Sound (expression limit allowance) (·.level ≤ allowance) := by
  induction allowance using Nat.strongRecOn with
  | ind allowance inductionHypothesis =>
      cases allowance with
      | zero =>
          intro tokens rest value read
          cases read
      | succ allowance =>
          have smaller : ∀ other ≤ allowance,
              Sound (expression limit other) (·.level ≤ other) :=
            fun other bounded => inductionHypothesis other (Nat.lt_succ_of_le bounded)
          rw [expression_succ]
          exact operand_sound (smaller allowance (Nat.le_refl _)) (rightReader_sound smaller)

/-- Line ends that are passed over are only line ends. -/
theorem skipNewlines_sound (tokens : List Token) :
    ∃ before, tokens = before ++ skipNewlines tokens ∧ Newlines before := by
  refine ⟨tokens.takeWhile fun token => token.kind = .newline,
    List.takeWhile_append_dropWhile.symm, ?_⟩
  intro token member
  simpa using List.all_eq_true.mp List.all_takeWhile token member

section Statements

variable {value : Reader Expression} {bound : Nat}

/-- A call or an assignment that is read stands in front; it may have any line ends
after it. -/
theorem simpleStatement_sound (sound : Sound value (·.level ≤ bound)) {token : Token}
    (kind : token.kind = .identifier) {tokens rest : List Token} {statement : Statement}
    (read : simpleStatement value token tokens = .ok (statement, rest)) :
    ∃ used, tokens = used ++ rest ∧ statement.level ≤ bound ∧
      ∀ after, Newlines after → Derives (.statement statement) (token :: (used ++ after)) := by
  simp only [simpleStatement] at read
  obtain ⟨name, named, readAfter⟩ := bind_eq_ok_iff.mp read
  obtain rfl := eq_of_nameOf kind named
  cases tokens with
  | nil => cases readAfter
  | cons second tail =>
      by_cases openingKind : second.kind = .parenthesisOpen
      · simp only [openingKind, if_true] at readAfter
        obtain ⟨⟨values, afterCall⟩, readArguments, finished⟩ := bind_eq_ok_iff.mp readAfter
        cases finished
        obtain ⟨used, rfl, derives, level⟩ :=
          arguments_sound sound name openingKind readArguments
        refine ⟨second :: used, rfl, level, ?_⟩
        intro after ending
        exact .callStatement derives ending
      · simp only [openingKind, if_false] at readAfter
        obtain ⟨afterEqual, readEqual, readValue⟩ := bind_eq_ok_iff.mp readAfter
        obtain ⟨equal, same, equalKind⟩ := expect_sound readEqual
        cases same
        obtain ⟨⟨assigned, afterValue⟩, readAssigned, finished⟩ := bind_eq_ok_iff.mp readValue
        cases finished
        obtain ⟨used, rfl, derives, level⟩ := sound readAssigned
        refine ⟨second :: used, rfl, level, ?_⟩
        intro after ending
        exact .assignment equalKind derives ending

/-- What the reader yields is a statement that stands in front and keeps to a bound. -/
def StatementSound (reader : TracedReader Statement) (bound : Nat) : Prop :=
  ∀ ⦃tokens rest : List Token⦄ ⦃value : Statement⦄,
    (reader tokens).outcome = .ok (value, rest) →
      ∃ used, tokens = used ++ rest ∧ Derives (.statement value) used ∧ value.level ≤ bound

/-- A body that is read within a budget stands in front, before its closing word. -/
theorem bodyWithin_sound {statement : TracedReader Statement}
    (sound : StatementSound statement bound) {most : Nat} {tokens rest : List Token}
    {statements : List Statement}
    (read : (bodyWithin statement most tokens).outcome = .ok (statements, rest)) :
    ∃ used closing, tokens = used ++ closing :: rest ∧ closing.kind = .endWord ∧
      Derives (.statements statements) used ∧ Statement.levelAll statements ≤ bound := by
  induction most generalizing tokens statements with
  | zero => cases read
  | succ most inductionHypothesis =>
      cases tokens with
      | nil => cases read
      | cons token tail =>
          rw [outcome_bodyWithin_succ] at read
          split at read
          · next closingKind =>
            cases read
            exact ⟨[], token, rfl, closingKind, .noStatement, Nat.zero_le bound⟩
          · obtain ⟨⟨first, afterFirst⟩, readFirst, readOthers⟩ := bind_eq_ok_iff.mp read
            obtain ⟨⟨others, afterOthers⟩, readRest, finished⟩ := bind_eq_ok_iff.mp readOthers
            cases finished
            obtain ⟨firstUsed, shape, firstDerives, firstLevel⟩ := sound readFirst
            obtain ⟨used, closing, rfl, closingKind, derives, level⟩ :=
              inductionHypothesis readRest
            refine ⟨firstUsed ++ used, closing, by simp [shape], closingKind,
              .moreStatements firstDerives derives, ?_⟩
            exact Nat.max_le.mpr ⟨firstLevel, level⟩

/-- Statements read within a budget are all the tokens there are. -/
theorem statementsWithin_sound {statement : TracedReader Statement}
    (sound : StatementSound statement bound) {most : Nat} {tokens : List Token}
    {statements : List Statement}
    (read : (statementsWithin statement most tokens).outcome = .ok statements) :
    Derives (.statements statements) tokens ∧ Statement.levelAll statements ≤ bound := by
  induction most generalizing tokens statements with
  | zero =>
      cases tokens with
      | nil =>
          cases read
          exact ⟨.noStatement, Nat.zero_le bound⟩
      | cons token tail => cases read
  | succ most inductionHypothesis =>
      cases tokens with
      | nil =>
          cases read
          exact ⟨.noStatement, Nat.zero_le bound⟩
      | cons token tail =>
          rw [outcome_statementsWithin_succ] at read
          obtain ⟨⟨first, afterFirst⟩, readFirst, readOthers⟩ := bind_eq_ok_iff.mp read
          obtain ⟨others, readRest, finished⟩ := bind_eq_ok_iff.mp readOthers
          cases finished
          obtain ⟨firstUsed, shape, firstDerives, firstLevel⟩ := sound readFirst
          obtain ⟨derives, level⟩ := inductionHypothesis readRest
          rw [shape]
          exact ⟨.moreStatements firstDerives derives, Nat.max_le.mpr ⟨firstLevel, level⟩⟩

end Statements

/-- A body with the line ends before it stands in front and leaves one level to the
block it belongs to. -/
theorem bodyReader_sound {limit allowance : Nat}
    (sound : ∀ smaller < allowance, StatementSound (statement limit smaller) smaller)
    {tokens rest : List Token} {statements : List Statement}
    (read : (bodyReader limit allowance tokens).outcome = .ok (statements, rest)) :
    ∃ before used closing, tokens = before ++ used ++ closing :: rest ∧ Newlines before ∧
      closing.kind = .endWord ∧ Derives (.statements statements) used ∧
        1 + Statement.levelAll statements ≤ allowance := by
  cases allowance with
  | zero => cases read
  | succ allowance =>
      obtain ⟨before, shape, start⟩ := skipNewlines_sound tokens
      obtain ⟨used, closing, remaining, closingKind, derives, level⟩ :=
        bodyWithin_sound (sound allowance (Nat.lt_succ_self _)) read
      refine ⟨before, used, closing, ?_, start, closingKind, derives, by omega⟩
      rw [List.append_assoc, ← remaining]
      exact shape

/-- A statement that is read stands in front and keeps to its allowance. -/
theorem statement_sound (limit allowance : Nat) :
    StatementSound (statement limit allowance) allowance := by
  induction allowance using Nat.strongRecOn with
  | ind allowance inductionHypothesis =>
      intro tokens rest value read
      rw [statement_eq] at read
      cases tokens with
      | nil => cases read
      | cons token tail =>
          rcases kind_cases token.kind with ⟨block, opening⟩ | simple | ⟨block, simple⟩
          · rw [outcome_statementWith_block _ _ opening] at read
            obtain ⟨⟨condition, afterCondition⟩, readCondition, readInner⟩ :=
              bind_eq_ok_iff.mp read
            obtain ⟨⟨inner, afterInner⟩, readBody, finished⟩ := bind_eq_ok_iff.mp readInner
            cases finished
            obtain ⟨conditionUsed, rfl, test, conditionLevel⟩ :=
              expression_sound limit allowance readCondition
            obtain ⟨before, used, closing, shape, start, closingKind, derives, level⟩ :=
              bodyReader_sound inductionHypothesis readBody
            obtain ⟨after, skipped, ending⟩ := skipNewlines_sound afterInner
            refine ⟨_, ?_, .block opening test start derives closingKind ending,
              Nat.max_le.mpr ⟨conditionLevel, level⟩⟩
            generalize skipNewlines afterInner = remaining at skipped ⊢
            subst skipped
            simpa using shape
          · rw [outcome_statementWith_identifier _ _ simple] at read
            obtain ⟨⟨single, afterSingle⟩, readSingle, finished⟩ := bind_eq_ok_iff.mp read
            cases finished
            obtain ⟨used, rfl, level, derives⟩ :=
              simpleStatement_sound (expression_sound limit allowance) simple readSingle
            obtain ⟨after, skipped, ending⟩ := skipNewlines_sound afterSingle
            refine ⟨_, ?_, derives after ending, level⟩
            rw [List.cons_append, List.append_assoc, ← skipped]
          · rw [outcome_statementWith_invalid _ _ block simple] at read
            cases read

end Program

end ScriptFront
