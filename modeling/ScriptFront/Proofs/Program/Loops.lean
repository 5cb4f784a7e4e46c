import ScriptFront.Proofs.Program.Completeness

/-!
# Loops without a budget

The loops over arguments and statements carry a budget that their tokens cannot use
up, because every turn takes at least one of them. Here each loop is run with a budget
that suffices, and what it does is given as an equation in which no budget occurs.
-/

namespace ScriptFront

namespace Program

open Grammar

/-- The reader takes at least one token whenever it succeeds. -/
def Consumes {Part : Type} (reader : Reader Part) : Prop :=
  ∀ ⦃tokens rest : List Token⦄ ⦃part : Part⦄, reader tokens = .ok (part, rest) →
    rest.length < tokens.length

/-- An expression that is read takes a token. -/
theorem expression_consumes (limit allowance : Nat) :
    Consumes (expression limit allowance) := by
  intro tokens rest value read
  obtain ⟨used, rfl, derives, -⟩ := expression_sound limit allowance read
  obtain ⟨first, tail, rfl, -⟩ := expression_shape derives
  simp only [List.length_append, List.length_cons]
  omega

/-- A statement that is read takes a token. -/
theorem statement_consumes (limit allowance : Nat) :
    Consumes fun tokens => (statement limit allowance tokens).outcome := by
  intro tokens rest value read
  obtain ⟨used, rfl, derives, -⟩ := statement_sound limit allowance read
  obtain ⟨first, tail, rfl, -⟩ := statement_shape derives
  simp only [List.length_append, List.length_cons]
  omega

section Arguments

variable {nested : Reader Expression}

/-- Arguments up to the closing parenthesis. -/
def argumentList (nested : Reader Expression) : Reader (List Expression) :=
  fun tokens => argumentsWithin nested (tokens.length + 1) tokens

/-- What follows an argument: a comma and more of them, or the closing parenthesis. -/
def afterArgument (nested : Reader Expression) (first : Expression) :
    Reader (List Expression)
  | [] => .error (.missingToken .parenthesisClose)
  | token :: rest =>
    if token.kind = .comma then
      argumentList nested rest >>= fun others => .ok (first :: others.1, others.2)
    else if token.kind = .parenthesisClose then .ok ([first], rest)
    else .error (.unexpectedToken .parenthesisClose token.kind)

/-- Any two budgets that suffice give the same arguments. -/
theorem argumentsWithin_budget (consumes : Consumes nested) {most other : Nat}
    {tokens : List Token} (enough : tokens.length < most)
    (otherEnough : tokens.length < other) :
    argumentsWithin nested most tokens = argumentsWithin nested other tokens := by
  induction most generalizing tokens other with
  | zero => exact absurd enough (Nat.not_lt_zero _)
  | succ most inductionHypothesis =>
      cases other with
      | zero => exact absurd otherEnough (Nat.not_lt_zero _)
      | succ other =>
          simp only [argumentsWithin]
          cases read : nested tokens with
          | error error => rfl
          | ok found =>
              obtain ⟨first, afterFirst⟩ := found
              have shorter := consumes read
              cases afterFirst with
              | nil => rfl
              | cons token rest =>
                  rw [List.length_cons] at shorter
                  have same : argumentsWithin nested most rest =
                      argumentsWithin nested other rest :=
                    inductionHypothesis (by omega) (by omega)
                  simp only [ok_bind, same]

/-- Arguments are one expression and what follows it. -/
theorem argumentList_eq (consumes : Consumes nested) (tokens : List Token) :
    argumentList nested tokens =
      nested tokens >>= fun found => afterArgument nested found.1 found.2 := by
  simp only [argumentList, argumentsWithin]
  cases read : nested tokens with
  | error error => rfl
  | ok found =>
      obtain ⟨first, afterFirst⟩ := found
      have shorter := consumes read
      cases afterFirst with
      | nil => rfl
      | cons token rest =>
          rw [List.length_cons] at shorter
          have same : argumentsWithin nested tokens.length rest = argumentList nested rest :=
            argumentsWithin_budget consumes (by omega) (by omega)
          simp only [ok_bind, afterArgument, expect, same]
          by_cases comma : token.kind = .comma
          · simp only [if_pos comma]
            rfl
          · by_cases closing : token.kind = .parenthesisClose
            · simp only [if_neg comma, if_pos closing]
              rfl
            · simp only [if_neg comma, if_neg closing]
              rfl

/-- A call without arguments is closed at once, and any other has some. -/
theorem arguments_cons (token : Token) (rest : List Token) :
    arguments nested (token :: rest) =
      if token.kind = .parenthesisClose then .ok ([], rest)
      else argumentList nested (token :: rest) :=
  rfl

end Arguments

section Statements

variable {statement : TracedReader Statement}

/-- The statements of a body up to its closing word. -/
def bodyList (statement : TracedReader Statement) : Reader (List Statement) :=
  fun tokens => (bodyWithin statement tokens.length tokens).outcome

/-- All statements up to the end of the tokens; none of these is left. -/
def programList (statement : TracedReader Statement) : Reader (List Statement) :=
  fun tokens => (statementsWithin statement tokens.length tokens).outcome >>= fun program =>
    .ok (program, [])

/-- Any two budgets that suffice give the same body. -/
theorem bodyWithin_budget (consumes : Consumes fun tokens => (statement tokens).outcome)
    {most other : Nat} {tokens : List Token} (enough : tokens.length ≤ most)
    (otherEnough : tokens.length ≤ other) :
    (bodyWithin statement most tokens).outcome =
      (bodyWithin statement other tokens).outcome := by
  induction most generalizing tokens other with
  | zero =>
      obtain rfl := List.length_eq_zero_iff.mp (Nat.le_zero.mp enough)
      cases other <;> rfl
  | succ most inductionHypothesis =>
      cases tokens with
      | nil => cases other <;> rfl
      | cons token tail =>
          cases other with
          | zero => exact absurd otherEnough (Nat.not_succ_le_zero _)
          | succ other =>
              rw [outcome_bodyWithin_succ, outcome_bodyWithin_succ]
              split
              · rfl
              · cases read : (statement (token :: tail)).outcome with
                | error error => rfl
                | ok found =>
                    have shorter := consumes read
                    have same : (bodyWithin statement most found.2).outcome =
                        (bodyWithin statement other found.2).outcome :=
                      inductionHypothesis (by omega) (by omega)
                    rw [ok_bind, ok_bind, same]

/-- A body is closed, or goes on with a statement and the rest of the body. -/
theorem bodyList_cons (consumes : Consumes fun tokens => (statement tokens).outcome)
    (token : Token) (rest : List Token) :
    bodyList statement (token :: rest) =
      if token.kind = .endWord then .ok ([], rest)
      else (statement (token :: rest)).outcome >>= fun first =>
        bodyList statement first.2 >>= fun others => .ok (first.1 :: others.1, others.2) := by
  unfold bodyList
  rw [List.length_cons, outcome_bodyWithin_succ]
  split
  · rfl
  · cases read : (statement (token :: rest)).outcome with
    | error error => rfl
    | ok found =>
        have shorter := consumes read
        rw [List.length_cons] at shorter
        rw [ok_bind, ok_bind, bodyWithin_budget consumes (Nat.le_of_lt_succ shorter)
          (Nat.le_refl _)]

/-- Any two budgets that suffice give the same statements. -/
theorem statementsWithin_budget
    (consumes : Consumes fun tokens => (statement tokens).outcome)
    {most other : Nat} {tokens : List Token} (enough : tokens.length ≤ most)
    (otherEnough : tokens.length ≤ other) :
    (statementsWithin statement most tokens).outcome =
      (statementsWithin statement other tokens).outcome := by
  induction most generalizing tokens other with
  | zero =>
      obtain rfl := List.length_eq_zero_iff.mp (Nat.le_zero.mp enough)
      cases other <;> rfl
  | succ most inductionHypothesis =>
      cases tokens with
      | nil => cases other <;> rfl
      | cons token tail =>
          cases other with
          | zero => exact absurd otherEnough (Nat.not_succ_le_zero _)
          | succ other =>
              rw [outcome_statementsWithin_succ, outcome_statementsWithin_succ]
              cases read : (statement (token :: tail)).outcome with
              | error error => rfl
              | ok found =>
                  have shorter := consumes read
                  have same : (statementsWithin statement most found.2).outcome =
                      (statementsWithin statement other found.2).outcome :=
                    inductionHypothesis (by omega) (by omega)
                  rw [ok_bind, ok_bind, same]

/-- A program goes on with a statement and the rest of the program. -/
theorem programList_cons (consumes : Consumes fun tokens => (statement tokens).outcome)
    (token : Token) (rest : List Token) :
    programList statement (token :: rest) =
      (statement (token :: rest)).outcome >>= fun first =>
        programList statement first.2 >>= fun others =>
          .ok (first.1 :: others.1, others.2) := by
  unfold programList
  rw [List.length_cons, outcome_statementsWithin_succ]
  cases read : (statement (token :: rest)).outcome with
  | error error => rfl
  | ok found =>
      have shorter := consumes read
      rw [List.length_cons] at shorter
      rw [ok_bind, ok_bind, statementsWithin_budget consumes (Nat.le_of_lt_succ shorter)
        (Nat.le_refl _)]
      cases (statementsWithin statement found.2.length found.2).outcome <;> rfl

end Statements

end Program

section Limit

variable {limit : Nat} {tokens : List Token} {error : SyntaxError}

open Program

/-- Reading all statements is reading them as a part with nothing after it. -/
theorem programList_eq (limit : Nat) (tokens : List Token) :
    programList (statement limit limit) tokens =
      (parseWithin limit tokens).outcome >>= fun program => .ok (program, []) :=
  rfl

/-- The outcome for all tokens is that of reading all statements. -/
theorem outcome_parseWithin (limit : Nat) (tokens : List Token) :
    (parseWithin limit tokens).outcome =
      (programList (statement limit limit) tokens).map Prod.fst := by
  rw [programList_eq]
  cases (parseWithin limit tokens).outcome <;> rfl

/-- Tokens are refused for what is wrong with their statements. -/
theorem programList_eq_error_iff :
    programList (statement limit limit) tokens = .error error ↔
      (parseWithin limit tokens).outcome = .error error := by
  rw [programList_eq]
  cases (parseWithin limit tokens).outcome <;> simp

end Limit

end ScriptFront
