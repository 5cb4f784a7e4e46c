import ScriptFront.Proofs.Program.Steadiness

/-!
# Completing tokens that end too early

Whenever a reader runs into the end of its tokens, they can be continued so that they
make up a phrase of the grammar within the same allowance. What is missing is always
short: `true` where an expression must stand, a closing parenthesis, a pair of
parentheses after a lone name, a closing word for every open block.
-/

namespace ScriptFront

namespace Program

open Grammar

/-- If the reader runs into the end of the tokens, they can be continued to a part. -/
def Completable {Part : Type} (reader : Reader Part) (Makes : Part → List Token → Prop)
    (tokens : List Token) : Prop :=
  ∀ ⦃error⦄, reader tokens = .error error → error.fault = .ending →
    ∃ part more, Makes part (tokens ++ more)

/-- The tokens are an expression that keeps to a bound. -/
def MakesExpression (bound : Nat) (value : Expression) (tokens : List Token) : Prop :=
  Derives (.expression value) tokens ∧ value.level ≤ bound

/-- An identifier without a name is refused as a token. -/
theorem fault_of_nameOf {token : Token} {error : SyntaxError}
    (failed : nameOf token = .error error) : error.fault = .token := by
  obtain ⟨kind, value⟩ := token
  cases value <;> cases failed
  rfl

/-- A token that stands for no expression is refused as a token. -/
theorem fault_of_atom {token : Token} {error : SyntaxError}
    (failed : atom token = .error error) : error.fault = .token := by
  obtain ⟨kind, value⟩ := token
  cases kind <;> cases value <;> cases failed <;> rfl

section Expressions

variable {nested right : Reader Expression} {bound : Nat}

/-- Arguments that end too early can be completed: the last of them is cut short, or the
tokens end right after it. -/
theorem argumentList_completable (consumes : Consumes nested)
    (sound : Sound nested (·.level ≤ bound))
    (completable : ∀ tokens, Completable nested (MakesExpression bound) tokens)
    (tokens : List Token) :
    Completable (argumentList nested)
      (fun values tokens =>
        Derives (.arguments values) tokens ∧ Expression.levelAll values ≤ bound) tokens := by
  induction length : tokens.length using Nat.strongRecOn generalizing tokens with
  | ind count inductionHypothesis =>
      intro error failed fault
      rw [argumentList_eq consumes] at failed
      rcases bind_eq_error_iff.mp failed with failed | ⟨⟨first, afterFirst⟩, read, failedAfter⟩
      · obtain ⟨value, more, derives, level⟩ := completable tokens failed fault
        exact ⟨[value], more, .lastArgument derives, Nat.max_le.mpr ⟨level, Nat.zero_le _⟩⟩
      · have shorter := consumes read
        obtain ⟨used, rfl, derives, level⟩ := sound read
        cases afterFirst with
        | nil =>
            refine ⟨[first], [], ?_, Nat.max_le.mpr ⟨level, Nat.zero_le _⟩⟩
            simpa using Derives.lastArgument derives
        | cons token rest =>
            simp only [afterArgument] at failedAfter
            split at failedAfter
            · next comma =>
              rcases bind_eq_error_iff.mp failedAfter with failedOthers | ⟨_, _, finished⟩
              · rw [List.length_cons] at shorter
                obtain ⟨others, more, following, othersLevel⟩ :=
                  inductionHypothesis rest.length (by omega) rest rfl failedOthers fault
                refine ⟨first :: others, more, ?_, Nat.max_le.mpr ⟨level, othersLevel⟩⟩
                simpa using Derives.moreArguments derives comma following
              · cases finished
            · split at failedAfter
              · cases failedAfter
              · cases failedAfter
                cases fault

/-- A call that ends too early can be closed. -/
theorem call_completable (consumes : Consumes nested)
    (sound : Sound nested (·.level ≤ bound))
    (completable : ∀ tokens, Completable nested (MakesExpression bound) tokens)
    (name : String) {opening : Token} (openingKind : opening.kind = .parenthesisOpen)
    (tokens : List Token) :
    Completable (arguments nested)
      (fun values tokens =>
        Derives (.call name values) (⟨.identifier, .text name⟩ :: opening :: tokens) ∧
          Expression.levelAll values ≤ bound) tokens := by
  have closingKind : (Token.fixed .parenthesisClose).kind = .parenthesisClose := rfl
  intro error failed fault
  cases tokens with
  | nil =>
      exact ⟨[], [Token.fixed .parenthesisClose], .emptyCall openingKind closingKind,
        Nat.zero_le bound⟩
  | cons token rest =>
      rw [arguments_cons] at failed
      split at failed
      · cases failed
      · obtain ⟨values, more, derives, level⟩ :=
          argumentList_completable consumes sound completable (token :: rest) failed fault
        refine ⟨values, more ++ [Token.fixed .parenthesisClose], ?_, level⟩
        rw [← List.append_assoc]
        exact .filledCall openingKind derives closingKind

/-- An operand that ends too early can be completed as its parts can. -/
theorem operand_completable (consumes : Consumes nested)
    (sound : Sound nested (·.level ≤ bound))
    (nestedCompletable : ∀ tokens, Completable nested (MakesExpression bound) tokens)
    (rightCompletable : ∀ tokens, Completable right (fun value tokens =>
      Derives (.expression value) tokens ∧
        (if value.isOperation then 1 else 2) + value.level ≤ bound + 1) tokens)
    (tokens : List Token) :
    Completable (operand nested right) (MakesExpression (bound + 1)) tokens := by
  intro error failed fault
  cases tokens with
  | nil => exact ⟨.boolean true, [Token.fixed .trueWord], .trueWord rfl, Nat.le_add_left 1 bound⟩
  | cons token rest =>
      rw [operand_cons] at failed
      split at failed
      · next kind =>
        rcases bind_eq_error_iff.mp failed with unnamed | ⟨name, named, failedAfter⟩
        · cases (fault_of_nameOf unnamed).symm.trans fault
        · obtain rfl := eq_of_nameOf kind named
          cases rest with
          | nil => cases failedAfter
          | cons second tail =>
              simp only [afterName] at failedAfter
              split at failedAfter
              · next openingKind =>
                rcases bind_eq_error_iff.mp failedAfter with failedCall | ⟨_, _, finished⟩
                · obtain ⟨values, more, derives, level⟩ := call_completable consumes sound
                    nestedCompletable name openingKind tail failedCall fault
                  refine ⟨.call name values, more, .callExpression derives, ?_⟩
                  simp only [Expression.level]
                  omega
                · cases finished
              · split at failedAfter
                · next connective found =>
                  rcases bind_eq_error_iff.mp failedAfter with failedRight | ⟨_, _, finished⟩
                  · obtain ⟨value, more, derives, level⟩ :=
                      rightCompletable tail failedRight fault
                    have connectiveKind := Connective.ofKind?_eq_some_iff.mp found
                    exact ⟨.operation connective (.identifier name) value, more,
                      .operation connectiveKind derives, level⟩
                  · cases finished
                · cases failedAfter
      · rcases bind_eq_error_iff.mp failed with refused | ⟨_, _, finished⟩
        · cases (fault_of_atom refused).symm.trans fault
        · cases finished

end Expressions

/-- The two tokens in front remain when more tokens follow. -/
theorem startsOperation_of_append {tokens more : List Token}
    (starts : startsOperation tokens = true) : startsOperation (tokens ++ more) = true := by
  match tokens with
  | [] => cases starts
  | [token] => cases starts
  | first :: second :: rest => exact starts

/-- The right side of a connective that ends too early can be completed. If it begins
with an operation it becomes one, and so takes no level of its own. -/
theorem rightReader_completable {limit allowance : Nat}
    (completable : ∀ smaller ≤ allowance, ∀ tokens,
      Completable (expression limit smaller) (MakesExpression smaller) tokens)
    (tokens : List Token) :
    Completable (rightReader limit allowance) (fun value tokens =>
      Derives (.expression value) tokens ∧
        (if value.isOperation then 1 else 2) + value.level ≤ allowance + 1) tokens := by
  intro error failed fault
  cases allowance with
  | zero =>
      cases failed
      cases fault
  | succ allowance =>
      simp only [rightReader, rightSide] at failed
      split at failed
      · next starts =>
        obtain ⟨value, more, derives, level⟩ :=
          completable (allowance + 1) (Nat.le_refl _) tokens failed fault
        refine ⟨value, more, derives, ?_⟩
        have told : startsOperation (tokens ++ more ++ []) = value.isOperation :=
          startsOperation_append derives trivial
        rw [List.append_nil, startsOperation_of_append starts] at told
        simp only [← told, if_true]
        omega
      · obtain ⟨value, more, derives, level⟩ :=
          completable allowance (Nat.le_succ _) tokens failed fault
        refine ⟨value, more, derives, ?_⟩
        split <;> omega

/-- An expression that ends too early can be completed within its allowance. -/
theorem expression_completable (limit allowance : Nat) (tokens : List Token) :
    Completable (expression limit allowance) (MakesExpression allowance) tokens := by
  induction allowance using Nat.strongRecOn generalizing tokens with
  | ind allowance inductionHypothesis =>
      cases allowance with
      | zero =>
          intro error failed fault
          cases failed
          cases fault
      | succ allowance =>
          have smaller : ∀ other ≤ allowance, ∀ tokens,
              Completable (expression limit other) (MakesExpression other) tokens :=
            fun other bounded => inductionHypothesis other (Nat.lt_succ_of_le bounded)
          rw [expression_succ]
          exact operand_completable (expression_consumes limit allowance)
            (expression_sound limit allowance) (smaller allowance (Nat.le_refl _))
            (rightReader_completable smaller) tokens

section Statements

variable {value : Reader Expression} {bound : Nat}

/-- The tokens are a statement that keeps to a bound. -/
def MakesStatement (bound : Nat) (value : Statement) (tokens : List Token) : Prop :=
  Derives (.statement value) tokens ∧ value.level ≤ bound

/-- The tokens are statements that keep to a bound. -/
def MakesStatements (bound : Nat) (values : List Statement) (tokens : List Token) : Prop :=
  Derives (.statements values) tokens ∧ Statement.levelAll values ≤ bound

/-- A call or an assignment that ends too early can be completed. A lone name becomes a
call without arguments, which takes no level. -/
theorem simpleStatement_completable (consumes : Consumes value)
    (sound : Sound value (·.level ≤ bound))
    (completable : ∀ tokens, Completable value (MakesExpression bound) tokens)
    {token : Token} (kind : token.kind = .identifier) (tokens : List Token) :
    Completable (simpleStatement value token)
      (fun statement tokens => MakesStatement bound statement (token :: tokens)) tokens := by
  have noLine : Newlines [] := List.forall_mem_nil _
  intro error failed fault
  simp only [simpleStatement] at failed
  rcases bind_eq_error_iff.mp failed with unnamed | ⟨name, named, failedAfter⟩
  · cases (fault_of_nameOf unnamed).symm.trans fault
  · obtain rfl := eq_of_nameOf kind named
    cases tokens with
    | nil =>
        have call : Derives (.call name []) [⟨.identifier, .text name⟩,
            Token.fixed .parenthesisOpen, Token.fixed .parenthesisClose] :=
          .emptyCall rfl rfl
        exact ⟨.call name [], [Token.fixed .parenthesisOpen, Token.fixed .parenthesisClose],
          .callStatement call noLine, Nat.zero_le bound⟩
    | cons second tail =>
        by_cases openingKind : second.kind = .parenthesisOpen
        · simp only [if_pos openingKind] at failedAfter
          rcases bind_eq_error_iff.mp failedAfter with failedCall | ⟨_, _, finished⟩
          · obtain ⟨values, more, derives, level⟩ :=
              call_completable consumes sound completable name openingKind tail failedCall fault
            refine ⟨.call name values, more, ?_, level⟩
            simpa using Derives.callStatement derives noLine
          · cases finished
        · simp only [if_neg openingKind, expect] at failedAfter
          by_cases equalKind : second.kind = .equal
          · simp only [if_pos equalKind, ok_bind] at failedAfter
            rcases bind_eq_error_iff.mp failedAfter with failedValue | ⟨_, _, finished⟩
            · obtain ⟨assigned, more, derives, level⟩ := completable tail failedValue fault
              refine ⟨.assignment name assigned, more, ?_, level⟩
              simpa using Derives.assignment equalKind derives noLine
            · cases finished
          · simp only [if_neg equalKind, error_bind] at failedAfter
            cases failedAfter
            cases fault

variable {statement : TracedReader Statement} {reader : Reader (List Statement)}
  {tokens : List Token}

/-- A loop that reads a statement and goes on can be completed where its statements can. -/
theorem sequence_completable (sound : StatementSound statement bound)
    (step : reader tokens = (statement tokens).outcome >>= fun first =>
      reader first.2 >>= fun others => .ok (first.1 :: others.1, others.2))
    (first : Completable (fun tokens => (statement tokens).outcome)
      (MakesStatement bound) tokens)
    (others : ∀ value rest, (statement tokens).outcome = .ok (value, rest) →
      Completable reader (MakesStatements bound) rest) :
    Completable reader (MakesStatements bound) tokens := by
  intro error failed fault
  rw [step] at failed
  rcases bind_eq_error_iff.mp failed with failedFirst | ⟨⟨value, rest⟩, read, failedAfter⟩
  · obtain ⟨value, more, derives, level⟩ := first failedFirst fault
    refine ⟨[value], more, ?_, Nat.max_le.mpr ⟨level, Nat.zero_le _⟩⟩
    simpa using Derives.moreStatements derives .noStatement
  · rcases bind_eq_error_iff.mp failedAfter with failedOthers | ⟨_, _, finished⟩
    · obtain ⟨values, more, following, othersLevel⟩ := others value rest read failedOthers fault
      obtain ⟨used, rfl, derives, level⟩ := sound read
      refine ⟨value :: values, more, ?_, Nat.max_le.mpr ⟨level, othersLevel⟩⟩
      simpa using Derives.moreStatements derives following
    · cases finished

variable (consumes : Consumes fun tokens => (statement tokens).outcome)
  (sound : StatementSound statement bound)
  (completable : ∀ token rest, Completable (fun tokens => (statement tokens).outcome)
    (MakesStatement bound) (token :: rest))

include consumes sound completable

/-- A body that ends too early can be completed up to its closing word. -/
theorem bodyList_completable (tokens : List Token) :
    Completable (bodyList statement) (MakesStatements bound) tokens := by
  induction length : tokens.length using Nat.strongRecOn generalizing tokens with
  | ind count inductionHypothesis =>
      cases tokens with
      | nil => exact fun _ _ _ => ⟨[], [], .noStatement, Nat.zero_le bound⟩
      | cons token rest =>
          by_cases closing : token.kind = .endWord
          · intro error failed fault
            rw [bodyList_cons consumes, if_pos closing] at failed
            cases failed
          · refine sequence_completable sound ?_ (completable token rest) ?_
            · rw [bodyList_cons consumes, if_neg closing]
            · intro value after read
              exact inductionHypothesis after.length (length ▸ consumes read) after rfl

/-- A program that ends too early can be completed. -/
theorem programList_completable (tokens : List Token) :
    Completable (programList statement) (MakesStatements bound) tokens := by
  induction length : tokens.length using Nat.strongRecOn generalizing tokens with
  | ind count inductionHypothesis =>
      cases tokens with
      | nil => exact fun _ failed _ => nomatch failed
      | cons token rest =>
          refine sequence_completable sound (programList_cons consumes token rest)
            (completable token rest) ?_
          intro value after read
          exact inductionHypothesis after.length (length ▸ consumes read) after rfl

end Statements

/-- A body that ends too early can be completed up to its closing word, and leaves one
level to the block it belongs to. -/
theorem bodyReader_completable {limit allowance : Nat}
    (completable : ∀ smaller < allowance, ∀ token rest,
      Completable (fun tokens => (statement limit smaller tokens).outcome)
        (MakesStatement smaller) (token :: rest))
    (tokens : List Token) :
    Completable (fun tokens => (bodyReader limit allowance tokens).outcome)
      (fun values tokens => ∃ before inner, tokens = before ++ inner ∧ Newlines before ∧
        Derives (.statements values) inner ∧ 1 + Statement.levelAll values ≤ allowance)
      tokens := by
  intro error failed fault
  cases allowance with
  | zero =>
      cases failed
      cases fault
  | succ allowance =>
      obtain ⟨before, shape, start⟩ := skipNewlines_sound tokens
      obtain ⟨values, more, derives, level⟩ :=
        bodyList_completable (statement_consumes limit allowance)
          (statement_sound limit allowance) (completable allowance (Nat.lt_succ_self _))
          (skipNewlines tokens) failed fault
      refine ⟨values, more, before, skipNewlines tokens ++ more, ?_, start, derives, by omega⟩
      rw [← List.append_assoc, ← shape]

/-- A statement that ends too early can be completed within its allowance. -/
theorem statement_completable (limit allowance : Nat) (token : Token) (rest : List Token) :
    Completable (fun tokens => (statement limit allowance tokens).outcome)
      (MakesStatement allowance) (token :: rest) := by
  have noLine : Newlines [] := List.forall_mem_nil _
  have closing : (Token.fixed .endWord).kind = .endWord := rfl
  induction allowance using Nat.strongRecOn generalizing token rest with
  | ind allowance inductionHypothesis =>
      intro error failed fault
      simp only [statement_eq] at failed
      rcases kind_cases token.kind with ⟨kind, opening⟩ | simple | ⟨block, simple⟩
      · rw [outcome_statementWith_block _ _ opening] at failed
        rcases bind_eq_error_iff.mp failed with
          failedCondition | ⟨⟨condition, afterCondition⟩, read, failedAfter⟩
        · obtain ⟨condition, more, test, level⟩ :=
            expression_completable limit allowance rest failedCondition fault
          have positive := condition.level_pos
          refine ⟨.block kind condition [], more ++ [Token.fixed .endWord], ?_, ?_⟩
          · simpa using Derives.block opening test noLine .noStatement closing noLine
          · simp only [Statement.level, Statement.levelAll]
            omega
        · rcases bind_eq_error_iff.mp failedAfter with failedBody | ⟨_, _, finished⟩
          · obtain ⟨values, more, before, inner, shape, start, derives, level⟩ :=
              bodyReader_completable inductionHypothesis afterCondition failedBody fault
            obtain ⟨used, rfl, test, conditionLevel⟩ := expression_sound limit allowance read
            refine ⟨.block kind condition values, more ++ [Token.fixed .endWord], ?_,
              Nat.max_le.mpr ⟨conditionLevel, level⟩⟩
            have completed := Derives.block opening test start derives closing noLine
            rw [List.append_assoc used, ← shape] at completed
            simpa using completed
          · cases finished
      · rw [outcome_statementWith_identifier _ _ simple] at failed
        rcases bind_eq_error_iff.mp failed with failedSimple | ⟨_, _, finished⟩
        · exact simpleStatement_completable (expression_consumes limit allowance)
            (expression_sound limit allowance) (expression_completable limit allowance)
            simple rest failedSimple fault
        · cases finished
      · rw [outcome_statementWith_invalid _ _ block simple] at failed
        cases failed
        cases fault

/-- A program that ends too early can be completed within the limit. -/
theorem program_completable (limit : Nat) (tokens : List Token) :
    Completable (programList (statement limit limit)) (MakesStatements limit) tokens :=
  programList_completable (statement_consumes limit limit) (statement_sound limit limit)
    (statement_completable limit limit) tokens

end Program

end ScriptFront
