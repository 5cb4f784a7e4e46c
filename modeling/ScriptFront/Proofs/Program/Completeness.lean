import ScriptFront.Proofs.Program.Soundness

/-!
# What follows the grammar is read

Tokens that make up a phrase are read back as that phrase whenever nothing after them
could prolong it, and the allowance alone decides how reading ends: with the tree if
its level is covered, and otherwise with the error for deep nesting and no other. Both
directions together make the reader of programs exact.
-/

namespace ScriptFront

namespace Program

open Grammar

/-- An expression cannot go on with what stands in front. -/
def EndsExpression : List Token → Prop
  | [] => True
  | token :: _ => token.kind ≠ .parenthesisOpen ∧ Connective.ofKind? token.kind = none

/-- A statement cannot go on with what stands in front, and no line end is there. -/
def EndsStatement : List Token → Prop
  | [] => True
  | token :: rest => EndsExpression (token :: rest) ∧ token.kind ≠ .newline

theorem EndsStatement.endsExpression {rest : List Token} (ends : EndsStatement rest) :
    EndsExpression rest := by
  cases rest with
  | nil => trivial
  | cons token tail => exact ends.1

/-- The outcome of reading something of a given level with a given allowance. -/
def within {Result : Type} (limit allowance level : Nat) (result : Result) :
    Except SyntaxError Result :=
  if level ≤ allowance then .ok result else .error (.tooDeep limit)

/-- An outcome within an allowance, followed by a step that costs nothing. -/
theorem within_bind_ok {Result Next : Type} (limit allowance level : Nat) (result : Result)
    (next : Result → Next) :
    (within limit allowance level result >>= fun found => .ok (next found)) =
      within limit allowance level (next result) := by
  unfold within
  split <;> rfl

/-- Two steps within the same allowance cost as much as the deeper one. -/
theorem within_bind {Result Next : Type} {limit allowance first second : Nat}
    {result : Result} {final : Next} {next : Result → Except SyntaxError Next}
    (following : next result = within limit allowance second final) :
    (within limit allowance first result >>= next) =
      within limit allowance (max first second) final := by
  by_cases covered : first ≤ allowance
  · rw [within, if_pos covered, ok_bind, following]
    simp only [within, Nat.max_le, covered, true_and]
  · rw [within, if_neg covered, error_bind]
    simp only [within, Nat.max_le, covered, false_and, if_false]

/-- A level taken from both the allowance and the need changes nothing. -/
theorem within_succ {Result : Type} (limit allowance level : Nat) (result : Result) :
    within limit (allowance + 1) (1 + level) result = within limit allowance level result := by
  simp only [within, Nat.add_comm 1 level, Nat.add_le_add_iff_right]

/-- Without an allowance nothing that takes a level is read. -/
theorem within_zero {Result : Type} (limit : Nat) {level : Nat} (positive : 0 < level)
    (result : Result) : within limit 0 level result = .error (.tooDeep limit) :=
  if_neg (Nat.not_le_of_gt positive)

section Shapes

/-- A call begins with its name and an opening parenthesis. -/
theorem call_shape {name : String} {values : List Expression} {tokens : List Token}
    (derives : Derives (.call name values) tokens) :
    ∃ opening tail, tokens = ⟨.identifier, .text name⟩ :: opening :: tail ∧
      opening.kind = .parenthesisOpen := by
  cases derives with
  | emptyCall openingKind closingKind => exact ⟨_, _, rfl, openingKind⟩
  | filledCall openingKind values closingKind => exact ⟨_, _, rfl, openingKind⟩

/-- An expression has a first token, and none that closes a parenthesis. -/
theorem expression_shape {value : Expression} {tokens : List Token}
    (derives : Derives (.expression value) tokens) :
    ∃ first tail, tokens = first :: tail ∧ first.kind ≠ .parenthesisClose := by
  cases derives with
  | callExpression call =>
      obtain ⟨opening, tail, rfl, -⟩ := call_shape call
      exact ⟨_, _, rfl, Kind.noConfusion⟩
  | trueWord kind => exact ⟨_, _, rfl, by rw [kind]; exact Kind.noConfusion⟩
  | falseWord kind => exact ⟨_, _, rfl, by rw [kind]; exact Kind.noConfusion⟩
  | _ => exact ⟨_, _, rfl, Kind.noConfusion⟩

/-- Arguments have a first token, and none that closes a parenthesis. -/
theorem arguments_shape {values : List Expression} {tokens : List Token}
    (derives : Derives (.arguments values) tokens) :
    ∃ first tail, tokens = first :: tail ∧ first.kind ≠ .parenthesisClose := by
  cases derives with
  | lastArgument only => exact expression_shape only
  | moreArguments first kind following =>
      obtain ⟨token, tail, rfl, different⟩ := expression_shape first
      exact ⟨token, _, rfl, different⟩

/-- A statement begins with an identifier or a word that opens a block. -/
theorem statement_shape {value : Statement} {tokens : List Token}
    (derives : Derives (.statement value) tokens) :
    ∃ first tail, tokens = first :: tail ∧
      (first.kind = .identifier ∨ ∃ block : BlockKind, first.kind = block.keyword) := by
  cases derives with
  | assignment kind assigned ending => exact ⟨_, _, rfl, Or.inl rfl⟩
  | callStatement call ending =>
      obtain ⟨opening, tail, rfl, -⟩ := call_shape call
      exact ⟨_, _, rfl, Or.inl rfl⟩
  | block openingKind => exact ⟨_, _, rfl, Or.inr ⟨_, openingKind⟩⟩

/-- The two tokens in front tell whether the phrase is an operation. -/
theorem startsOperation_append {value : Expression} {tokens rest : List Token}
    (derives : Derives (.expression value) tokens) (ends : EndsExpression rest) :
    startsOperation (tokens ++ rest) = value.isOperation := by
  cases derives with
  | callExpression call =>
      obtain ⟨opening, tail, rfl, openingKind⟩ := call_shape call
      simp [startsOperation, openingKind, Connective.ofKind?, Expression.isOperation]
  | operation kind second =>
      simp [startsOperation, Connective.ofKind?_eq_some_iff.mpr kind, Expression.isOperation]
  | identifier =>
      cases rest with
      | nil => rfl
      | cons token tail => simp [startsOperation, ends.2, Expression.isOperation]
  | trueWord kind => cases rest <;> simp [startsOperation, kind, Expression.isOperation]
  | falseWord kind => cases rest <;> simp [startsOperation, kind, Expression.isOperation]
  | _ => cases rest <;> simp [startsOperation, Expression.isOperation]

/-- A word that opens a block is neither a mark within statements nor a line end. -/
theorem endsStatement_of_keyword {token : Token} {rest : List Token} {block : BlockKind}
    (opening : token.kind = block.keyword) : EndsStatement (token :: rest) := by
  cases block <;> simp [EndsStatement, EndsExpression, opening, BlockKind.keyword,
    Connective.ofKind?]

/-- A closing word does not prolong what stands before it. -/
theorem endsStatement_of_end {closing : Token} {rest : List Token}
    (closingKind : closing.kind = .endWord) : EndsStatement (closing :: rest) := by
  simp [EndsStatement, EndsExpression, closingKind, Connective.ofKind?]

/-- Statements do not prolong what stands before them, if what follows them does not. -/
theorem endsStatement_append {values : List Statement} {tokens rest : List Token}
    (derives : Derives (.statements values) tokens) (ends : EndsStatement rest) :
    EndsStatement (tokens ++ rest) := by
  cases derives with
  | noStatement => exact ends
  | moreStatements first following =>
      obtain ⟨token, tail, rfl, name | ⟨block, opening⟩⟩ := statement_shape first
      · simp [EndsStatement, EndsExpression, name, Connective.ofKind?]
      · exact endsStatement_of_keyword opening

end Shapes

/-- Line ends do not prolong an expression. -/
theorem endsExpression_append {before rest : List Token} (newlines : Newlines before)
    (ends : EndsExpression rest) : EndsExpression (before ++ rest) := by
  cases before with
  | nil => exact ends
  | cons token tail =>
      have kind := newlines token List.mem_cons_self
      simp [EndsExpression, kind, Connective.ofKind?]

/-- Line ends in front are passed over. -/
theorem skipNewlines_append {before rest : List Token} (newlines : Newlines before) :
    skipNewlines (before ++ rest) = skipNewlines rest := by
  unfold skipNewlines
  rw [List.dropWhile_append_of_pos]
  intro token member
  simpa using newlines token member

/-- Without a line end in front nothing is passed over. -/
theorem skipNewlines_of_ends {rest : List Token} (ends : EndsStatement rest) :
    skipNewlines rest = rest := by
  cases rest with
  | nil => rfl
  | cons token tail => simp [skipNewlines, ends.2]

section Expressions

variable {limit allowance : Nat} {rest : List Token}

/-- A token that stands for itself takes one level. -/
theorem expression_atom {token : Token} {value : Expression}
    (kind : token.kind ≠ .identifier) (single : atom token = .ok value) :
    expression limit allowance (token :: rest) = within limit allowance 1 (value, rest) := by
  cases allowance with
  | zero => rfl
  | succ allowance =>
      rw [expression_succ, operand_cons, if_neg kind, single]
      rfl

/-- A name takes one level if no call and no operation begins with it. -/
theorem expression_identifier {name : String} (ends : EndsExpression rest) :
    expression limit allowance (⟨.identifier, .text name⟩ :: rest) =
      within limit allowance 1 (.identifier name, rest) := by
  cases allowance with
  | zero => rfl
  | succ allowance =>
      rw [expression_succ, operand_cons]
      cases rest with
      | nil => rfl
      | cons token tail =>
          simp only [if_true, nameOf, ok_bind, afterName, if_neg ends.1, ends.2]
          rfl

/-- A call takes one level more than its arguments. -/
theorem expression_call {name : String} {opening : Token} {tokens : List Token}
    {values : List Expression} (openingKind : opening.kind = .parenthesisOpen)
    (argumentsRead : ∀ smaller, arguments (expression limit smaller) tokens =
      within limit smaller (Expression.levelAll values) (values, rest)) :
    expression limit allowance (⟨.identifier, .text name⟩ :: opening :: tokens) =
      within limit allowance (Expression.call name values).level
        (.call name values, rest) := by
  cases allowance with
  | zero => exact (within_zero limit (Expression.level_pos _) _).symm
  | succ allowance =>
      rw [expression_succ, operand_cons]
      simp only [if_true, nameOf, ok_bind, afterName, if_pos openingKind, argumentsRead]
      rw [Expression.level, within_succ]
      exact within_bind_ok ..

/-- The right side of a connective takes a level together with the connective, and one
more unless it is an operation again. -/
theorem rightReader_read {right : Expression} {tokens : List Token}
    (starts : startsOperation tokens = right.isOperation)
    (rightRead : ∀ smaller, expression limit smaller tokens =
      within limit smaller right.level (right, rest)) :
    rightReader limit allowance tokens =
      within limit (allowance + 1) ((if right.isOperation then 1 else 2) + right.level)
        (right, rest) := by
  have positive := right.level_pos
  cases allowance with
  | zero =>
      refine (if_neg ?_).symm
      split <;> omega
  | succ allowance =>
      simp only [rightReader, rightSide, starts]
      split
      · rw [rightRead, within_succ]
      · rw [rightRead, Nat.add_assoc 1 1, within_succ, within_succ]

/-- An operation takes what its connective and its right side take. -/
theorem expression_operation {name : String} {token : Token} {connective : Connective}
    {right : Expression} {tokens : List Token} (kind : token.kind = connective.kind)
    (starts : startsOperation tokens = right.isOperation)
    (rightRead : ∀ smaller, expression limit smaller tokens =
      within limit smaller right.level (right, rest)) :
    expression limit allowance (⟨.identifier, .text name⟩ :: token :: tokens) =
      within limit allowance (Expression.operation connective (.identifier name) right).level
        (.operation connective (.identifier name) right, rest) := by
  have noCall : token.kind ≠ .parenthesisOpen := by
    rw [kind]
    cases connective <;> exact Kind.noConfusion
  cases allowance with
  | zero => exact (within_zero limit (Expression.level_pos _) _).symm
  | succ allowance =>
      rw [expression_succ, operand_cons]
      simp only [if_true, nameOf, ok_bind, afterName, if_neg noCall,
        Connective.ofKind?_eq_some_iff.mpr kind, rightReader_read starts rightRead]
      exact within_bind_ok ..

end Expressions

section Arguments

variable {limit allowance most : Nat} {value : Expression} {tokens rest : List Token}

/-- The last argument stands before the closing parenthesis. -/
theorem argumentsWithin_last {closing : Token} (closingKind : closing.kind = .parenthesisClose)
    (read : expression limit allowance tokens =
      within limit allowance value.level (value, closing :: rest)) :
    argumentsWithin (expression limit allowance) (most + 1) tokens =
      within limit allowance (Expression.levelAll [value]) ([value], rest) := by
  have noComma : closing.kind ≠ .comma := by
    rw [closingKind]
    exact Kind.noConfusion
  rw [argumentsWithin, read]
  apply within_bind
  simp only [if_neg noComma, expect, if_pos closingKind]
  exact (if_pos (Nat.zero_le allowance)).symm

/-- An argument before a comma takes its level, and those after the comma theirs. -/
theorem argumentsWithin_more {comma : Token} {others : List Expression}
    {otherTokens : List Token} (kind : comma.kind = .comma)
    (read : expression limit allowance tokens =
      within limit allowance value.level (value, comma :: otherTokens))
    (following : argumentsWithin (expression limit allowance) most otherTokens =
      within limit allowance (Expression.levelAll others) (others, rest)) :
    argumentsWithin (expression limit allowance) (most + 1) tokens =
      within limit allowance (Expression.levelAll (value :: others))
        (value :: others, rest) := by
  rw [argumentsWithin, read]
  apply within_bind
  simp only [if_pos kind, following]
  exact within_bind_ok ..

end Arguments

section Statements

variable {limit allowance most : Nat} {rest : List Token}

/-- The closing word ends a body. -/
theorem bodyWithin_end {closing : Token} (closingKind : closing.kind = .endWord) :
    (bodyWithin (statement limit allowance) (most + 1) (closing :: rest)).outcome =
      within limit allowance (Statement.levelAll []) ([], rest) := by
  rw [outcome_bodyWithin_succ, if_pos closingKind]
  exact (if_pos (Nat.zero_le allowance)).symm

/-- A statement in a body takes its level, and those after it theirs. -/
theorem bodyWithin_more {value : Statement} {others : List Statement} {token : Token}
    {tokens otherTokens : List Token} (opens : token.kind ≠ .endWord)
    (read : (statement limit allowance (token :: tokens)).outcome =
      within limit allowance value.level (value, otherTokens))
    (following : (bodyWithin (statement limit allowance) most otherTokens).outcome =
      within limit allowance (Statement.levelAll others) (others, rest)) :
    (bodyWithin (statement limit allowance) (most + 1) (token :: tokens)).outcome =
      within limit allowance (Statement.levelAll (value :: others))
        (value :: others, rest) := by
  rw [outcome_bodyWithin_succ, if_neg opens, read]
  apply within_bind
  simp only [following]
  exact within_bind_ok ..

/-- A body takes one level more than the statements in it. -/
theorem bodyReader_read {values : List Statement} {tokens : List Token}
    (bodyRead : ∀ smaller,
      (bodyWithin (statement limit smaller) (skipNewlines tokens).length
        (skipNewlines tokens)).outcome =
      within limit smaller (Statement.levelAll values) (values, rest)) :
    (bodyReader limit allowance tokens).outcome =
      within limit allowance (1 + Statement.levelAll values) (values, rest) := by
  cases allowance with
  | zero => exact (within_zero limit (Nat.lt_add_right _ Nat.zero_lt_one) _).symm
  | succ allowance =>
      rw [within_succ]
      exact bodyRead allowance

/-- A block takes the levels of its condition or of its body. -/
theorem statement_block {kind : BlockKind} {opening : Token} {condition : Expression}
    {values : List Statement} {tokens bodyTokens : List Token}
    (openingKind : opening.kind = kind.keyword)
    (test : expression limit allowance tokens =
      within limit allowance condition.level (condition, bodyTokens))
    (bodyRead : (bodyReader limit allowance bodyTokens).outcome =
      within limit allowance (1 + Statement.levelAll values) (values, rest)) :
    (statement limit allowance (opening :: tokens)).outcome =
      within limit allowance (Statement.block kind condition values).level
        (.block kind condition values, skipNewlines rest) := by
  rw [statement_eq, outcome_statementWith_block _ _ openingKind, test, Statement.level]
  apply within_bind
  simp only [bodyRead]
  exact within_bind_ok ..

/-- A call as a statement takes the levels of its arguments only. -/
theorem statement_call (name : String) {opening : Token} {tokens : List Token}
    {values : List Expression} (openingKind : opening.kind = .parenthesisOpen)
    (argumentsRead : arguments (expression limit allowance) tokens =
      within limit allowance (Expression.levelAll values) (values, rest)) :
    (statement limit allowance (⟨.identifier, .text name⟩ :: opening :: tokens)).outcome =
      within limit allowance (Statement.call name values).level
        (.call name values, skipNewlines rest) := by
  rw [statement_eq, outcome_statementWith_identifier _ _ rfl]
  simp only [simpleStatement, nameOf, ok_bind, if_pos openingKind, argumentsRead]
  rw [bind_assoc]
  exact within_bind_ok ..

/-- An assignment takes the levels of its value. -/
theorem statement_assignment (target : String) {equal : Token} {value : Expression}
    {tokens : List Token} (kind : equal.kind = .equal)
    (assigned : expression limit allowance tokens =
      within limit allowance value.level (value, rest)) :
    (statement limit allowance (⟨.identifier, .text target⟩ :: equal :: tokens)).outcome =
      within limit allowance (Statement.assignment target value).level
        (.assignment target value, skipNewlines rest) := by
  have noCall : equal.kind ≠ .parenthesisOpen := by
    rw [kind]
    exact Kind.noConfusion
  rw [statement_eq, outcome_statementWith_identifier _ _ rfl]
  simp only [simpleStatement, nameOf, ok_bind, if_neg noCall, expect, if_pos kind, assigned]
  rw [bind_assoc]
  exact within_bind_ok ..

end Statements

/-- Tokens of a phrase are read as that phrase in every place where the grammar puts
one, and the allowance alone decides whether they are. -/
def ReadBack (limit : Nat) : Phrase → List Token → Prop
  | .expression value, tokens => ∀ allowance rest, EndsExpression rest →
      expression limit allowance (tokens ++ rest) =
        within limit allowance value.level (value, rest)
  | .call name values, tokens => ∃ opening tail,
      tokens = ⟨.identifier, .text name⟩ :: opening :: tail ∧
        opening.kind = .parenthesisOpen ∧
          ∀ allowance rest, arguments (expression limit allowance) (tail ++ rest) =
            within limit allowance (Expression.levelAll values) (values, rest)
  | .arguments values, tokens => ∀ allowance most closing rest,
      closing.kind = .parenthesisClose → tokens.length < most →
        argumentsWithin (expression limit allowance) most (tokens ++ closing :: rest) =
          within limit allowance (Expression.levelAll values) (values, rest)
  | .statement value, tokens => ∀ allowance rest, EndsStatement rest →
      (statement limit allowance (tokens ++ rest)).outcome =
        within limit allowance value.level (value, rest)
  | .statements values, tokens => ∀ allowance most closing rest,
      closing.kind = .endWord → tokens.length < most →
        (bodyWithin (statement limit allowance) most (tokens ++ closing :: rest)).outcome =
          within limit allowance (Statement.levelAll values) (values, rest)

/-- Every phrase is read back, by induction on its derivation. -/
theorem readBack_of_derives (limit : Nat) {phrase : Phrase} {tokens : List Token}
    (derives : Derives phrase tokens) : ReadBack limit phrase tokens := by
  induction derives with
  | identifier => exact fun _ _ ends => expression_identifier ends
  | string => exact fun _ _ _ => expression_atom Kind.noConfusion rfl
  | number => exact fun _ _ _ => expression_atom Kind.noConfusion rfl
  | trueWord kind =>
      intro allowance rest ends
      refine expression_atom (by rw [kind]; exact Kind.noConfusion) ?_
      simp only [atom, kind]
  | falseWord kind =>
      intro allowance rest ends
      refine expression_atom (by rw [kind]; exact Kind.noConfusion) ?_
      simp only [atom, kind]
  | callExpression call inductionHypothesis =>
      obtain ⟨opening, tail, rfl, openingKind, read⟩ := inductionHypothesis
      intro allowance rest ends
      exact expression_call openingKind fun smaller => read smaller rest
  | operation kind second inductionHypothesis =>
      intro allowance rest ends
      exact expression_operation kind (startsOperation_append second ends)
        fun smaller => inductionHypothesis smaller rest ends
  | @emptyCall name opening closing openingKind closingKind =>
      refine ⟨opening, [closing], rfl, openingKind, ?_⟩
      intro allowance rest
      simp only [List.singleton_append, arguments, if_pos closingKind]
      exact (if_pos (Nat.zero_le allowance)).symm
  | @filledCall name opening closing values tokens openingKind filled closingKind
      inductionHypothesis =>
      refine ⟨opening, tokens ++ [closing], rfl, openingKind, ?_⟩
      intro allowance rest
      obtain ⟨first, tail, rfl, different⟩ := arguments_shape filled
      rw [List.append_assoc, List.singleton_append, List.cons_append, arguments,
        if_neg different]
      exact inductionHypothesis allowance _ closing rest closingKind
        (by simp only [List.length_append, List.length_cons]; omega)
  | lastArgument only inductionHypothesis =>
      intro allowance most closing rest closingKind enough
      obtain ⟨most, rfl⟩ := Nat.exists_eq_add_one_of_ne_zero (Nat.ne_zero_of_lt enough)
      refine argumentsWithin_last closingKind (inductionHypothesis allowance _ ?_)
      simp [EndsExpression, closingKind, Connective.ofKind?]
  | moreArguments first kind following firstRead othersRead =>
      intro allowance most closing rest closingKind enough
      simp only [List.length_append, List.length_cons] at enough
      obtain ⟨most, rfl⟩ := Nat.exists_eq_add_one_of_ne_zero (Nat.ne_zero_of_lt enough)
      rw [List.append_assoc, List.cons_append]
      refine argumentsWithin_more kind (firstRead allowance _ ?_)
        (othersRead allowance most closing rest closingKind (by omega))
      simp [EndsExpression, kind, Connective.ofKind?]
  | @assignment target equal value valueTokens after kind assigned ending
      inductionHypothesis =>
      intro allowance rest ends
      have read := statement_assignment target kind
        (inductionHypothesis allowance (after ++ rest)
          (endsExpression_append ending ends.endsExpression))
      rwa [skipNewlines_append ending, skipNewlines_of_ends ends, ← List.append_assoc] at read
  | @callStatement name values callTokens after call ending inductionHypothesis =>
      obtain ⟨opening, tail, rfl, openingKind, argumentsRead⟩ := inductionHypothesis
      intro allowance rest ends
      have read := statement_call name openingKind
        (argumentsRead allowance (after ++ rest))
      rwa [skipNewlines_append ending, skipNewlines_of_ends ends, ← List.append_assoc] at read
  | @block kind opening closing condition body conditionTokens before bodyTokens after
      openingKind test start inner closingKind ending testRead innerRead =>
      intro allowance rest ends
      have following : EndsStatement (bodyTokens ++ closing :: (after ++ rest)) :=
        endsStatement_append inner (endsStatement_of_end closingKind)
      have skipped : skipNewlines (before ++ (bodyTokens ++ closing :: (after ++ rest))) =
          bodyTokens ++ closing :: (after ++ rest) := by
        rw [skipNewlines_append start, skipNewlines_of_ends following]
      have bodyRead : (bodyReader limit allowance
            (before ++ (bodyTokens ++ closing :: (after ++ rest)))).outcome =
          within limit allowance (1 + Statement.levelAll body) (body, after ++ rest) := by
        apply bodyReader_read
        intro smaller
        rw [skipped]
        exact innerRead smaller _ closing _ closingKind (by simp)
      have read := statement_block openingKind
        (testRead allowance _ (endsExpression_append start following.endsExpression)) bodyRead
      rw [skipNewlines_append ending, skipNewlines_of_ends ends] at read
      simpa only [List.append_assoc, List.cons_append] using read
  | noStatement =>
      intro allowance most closing rest closingKind enough
      obtain ⟨most, rfl⟩ := Nat.exists_eq_add_one_of_ne_zero (Nat.ne_zero_of_lt enough)
      exact bodyWithin_end closingKind
  | moreStatements first following firstRead othersRead =>
      intro allowance most closing rest closingKind enough
      obtain ⟨token, tail, rfl, starts⟩ := statement_shape first
      simp only [List.cons_append, List.length_cons, List.length_append] at enough
      obtain ⟨most, rfl⟩ := Nat.exists_eq_add_one_of_ne_zero (Nat.ne_zero_of_lt enough)
      rw [List.append_assoc, List.cons_append]
      have ends : EndsStatement (_ ++ closing :: rest) :=
        endsStatement_append following (endsStatement_of_end closingKind)
      refine bodyWithin_more ?_ (firstRead allowance _ ends)
        (othersRead allowance most closing rest closingKind (by omega))
      rcases starts with name | ⟨block, opening⟩
      · rw [name]
        exact Kind.noConfusion
      · rw [opening]
        cases block <;> exact Kind.noConfusion

/-- Statements that are all the tokens there are take the level of the deepest. -/
theorem statementsWithin_read {limit allowance most : Nat} {values : List Statement}
    {tokens : List Token} (derives : Derives (.statements values) tokens)
    (enough : tokens.length ≤ most) :
    (statementsWithin (statement limit allowance) most tokens).outcome =
      within limit allowance (Statement.levelAll values) values := by
  induction values generalizing most tokens with
  | nil =>
      cases derives
      cases most <;> exact (if_pos (Nat.zero_le allowance)).symm
  | cons value others inductionHypothesis =>
      cases derives with
      | @moreStatements _ _ firstTokens otherTokens first following =>
          have ends : EndsStatement (otherTokens ++ []) :=
            endsStatement_append following trivial
          rw [List.append_nil] at ends
          have read := readBack_of_derives limit first allowance otherTokens ends
          obtain ⟨token, tail, rfl, -⟩ := statement_shape first
          simp only [List.cons_append, List.length_cons, List.length_append] at enough
          obtain ⟨most, rfl⟩ := Nat.exists_eq_add_one_of_ne_zero (Nat.ne_zero_of_lt enough)
          rw [List.cons_append, outcome_statementsWithin_succ, ← List.cons_append, read]
          have othersRead := inductionHypothesis following (show otherTokens.length ≤ most by omega)
          apply within_bind
          simp only [othersRead]
          exact within_bind_ok ..

end Program

open Grammar

/-- Tokens of a program are read as that program, or refused for its nesting alone. -/
theorem outcome_parseWithin_of_derives (limit : Nat) {tokens : List Token}
    {program : List Statement} (derives : Derives (.statements program) tokens) :
    (parseWithin limit tokens).outcome =
      Program.within limit limit (Statement.levelAll program) program :=
  Program.statementsWithin_read derives (Nat.le_refl _)

/-- The reader of programs accepts the grammar and nothing else, up to its limit. -/
theorem outcome_parseWithin_eq_ok_iff {limit : Nat} {tokens : List Token}
    {program : List Statement} :
    (parseWithin limit tokens).outcome = .ok program ↔
      Derives (.statements program) tokens ∧ Statement.levelAll program ≤ limit := by
  constructor
  · intro read
    exact Program.statementsWithin_sound (Program.statement_sound limit limit) read
  · rintro ⟨derives, level⟩
    rw [outcome_parseWithin_of_derives limit derives, Program.within, if_pos level]

/-- A list of tokens is a program exactly if the grammar derives it and no statement
takes more than 128 levels. A program that takes more is refused for that reason. -/
theorem parse_exact (tokens : List Token) (program : List Statement) :
    ((parse tokens).outcome = .ok program ↔
      Derives (.statements program) tokens ∧ ∀ statement ∈ program, statement.level ≤ 128) ∧
    (Derives (.statements program) tokens →
      (∃ statement ∈ program, 128 < statement.level) →
        (parse tokens).outcome = .error (.tooDeep 128)) := by
  constructor
  · rw [← Statement.levelAll_le_iff]
    exact outcome_parseWithin_eq_ok_iff
  · rintro derives ⟨statement, member, deep⟩
    have tooDeep : ¬ Statement.levelAll program ≤ 128 := by
      intro level
      have bounded := Statement.levelAll_le_iff.mp level statement member
      omega
    exact (outcome_parseWithin_of_derives 128 derives).trans (if_neg tooDeep)

/-- An assignment of `a and a and … and a` with the given number of connectives. -/
def chainAssignment (count : Nat) : List Token :=
  ⟨.identifier, .text "x"⟩ :: ⟨.equal, .text "="⟩ ::
    ((List.replicate count [⟨.identifier, .text "a"⟩, ⟨.andWord, .text "and"⟩]).flatten ++
      [⟨.identifier, .text "a"⟩])

theorem derives_chainAssignment (count : Nat) :
    Derives (.statements [.assignment "x"
      (Expression.chain (List.replicate count ("a", .and)) (.identifier "a"))])
      (chainAssignment count) := by
  have chained : Derives (.expression
      (Expression.chain (List.replicate count ("a", .and)) (.identifier "a")))
      ((List.replicate count [⟨.identifier, .text "a"⟩, ⟨.andWord, .text "and"⟩]).flatten ++
        [⟨.identifier, .text "a"⟩]) := by
    induction count with
    | zero => exact .identifier
    | succ count inductionHypothesis => exact .operation rfl inductionHypothesis
  have equalKind : (⟨.equal, .text "="⟩ : Token).kind = .equal := rfl
  have assigned : Derives (.statement (.assignment "x" _)) (_ :: _ :: (_ ++ [])) :=
    .assignment equalKind chained (List.forall_mem_nil _)
  simpa [chainAssignment] using Derives.moreStatements assigned .noStatement

/-- The value of such an assignment takes two levels beside those of its connectives. -/
theorem level_chainAssignment {count : Nat} (positive : 0 < count) :
    (Expression.chain (List.replicate count ("a", .and)) (.identifier "a")).level =
      1 + count + 1 := by
  have linked : List.replicate count ("a", Connective.and) ≠ [] := by
    simp only [ne_eq, List.replicate_eq_nil_iff]
    omega
  rw [Expression.level_chain linked rfl, List.length_replicate]
  rfl

/-- Whether such an assignment is read depends on the number of connectives alone. -/
theorem outcome_parse_chainAssignment {count : Nat} (positive : 0 < count) :
    (parse (chainAssignment count)).outcome = Program.within 128 128 (1 + count + 1)
      [.assignment "x"
        (Expression.chain (List.replicate count ("a", .and)) (.identifier "a"))] := by
  have read := outcome_parseWithin_of_derives 128 (derives_chainAssignment count)
  rwa [Statement.levelAll, Statement.levelAll, Statement.level, level_chainAssignment positive,
    Nat.max_zero] at read

/-- A chain of 126 connectives is read, and with one more it nests too deep. -/
theorem parse_exact_long_chain :
    (parse (chainAssignment 126)).outcome = .ok [.assignment "x"
      (Expression.chain (List.replicate 126 ("a", .and)) (.identifier "a"))] ∧
    (parse (chainAssignment 127)).outcome = .error (.tooDeep 128) := by
  refine ⟨(parse_exact _ _).1.mpr ⟨derives_chainAssignment 126, ?_⟩,
    (parse_exact _ _).2 (derives_chainAssignment 127) ⟨_, List.mem_singleton_self _, ?_⟩⟩
  · simp only [List.forall_mem_singleton, Statement.level,
      level_chainAssignment (show 0 < 126 by decide)]
    decide
  · simp only [Statement.level, level_chainAssignment (show 0 < 127 by decide)]
    decide

end ScriptFront
