import ScriptFront.Program.Grammar
import ScriptFront.Program.Reading
import ScriptFront.Proofs.Run.Outcome

/-!
# Readers, one step at a time

What each reader does with the token in front, as equations. Later arguments use
these and do not open the readers again. The two levels at which a reader recurses
get names of their own, `rightReader` and `bodyReader`, so that an allowance is
either spent or has one more level.
-/

namespace ScriptFront

namespace Program

/-- The expression that a token other than an identifier is. -/
def atom (token : Token) : Except SyntaxError Expression :=
  match token.kind with
  | .string => (contentOf token).map .string
  | .number => (numberOf token).map .number
  | .trueWord => .ok (.boolean true)
  | .falseWord => .ok (.boolean false)
  | kind => .error (.invalidToken kind)

/-- An operand is a token that stands for itself, or goes on after a name. -/
theorem operand_cons (nested right : Reader Expression) (token : Token) (rest : List Token) :
    operand nested right (token :: rest) =
      if token.kind = .identifier then
        nameOf token >>= fun name => afterName nested right name rest
      else atom token >>= fun value => .ok (value, rest) := by
  obtain ⟨kind, value⟩ := token
  cases kind <;> cases value <;> rfl

/-- How the right side of a connective is read with the given number of levels left
for the connective and what follows it. -/
def rightReader (limit : Nat) : (allowance : Nat) → Reader Expression
  | 0 => fun _ => .error (.tooDeep limit)
  | allowance + 1 => rightSide (expression limit (allowance + 1)) (expression limit allowance)

/-- An expression takes one level from the allowance. -/
theorem expression_succ (limit allowance : Nat) :
    expression limit (allowance + 1) =
      operand (expression limit allowance) (rightReader limit allowance) := by
  cases allowance <;> rfl

/-- How a body is read with the given number of levels left for it. -/
def bodyReader (limit : Nat) : (allowance : Nat) → TracedReader (List Statement)
  | 0 => fun _ => Traced.fail (.tooDeep limit)
  | allowance + 1 => body (statement limit allowance)

/-- A statement spends the same allowance on its expressions and on its body. -/
theorem statement_eq (limit allowance : Nat) :
    statement limit allowance =
      statementWith (expression limit allowance) (bodyReader limit allowance) := by
  cases allowance <;> rfl

section Statements

variable (value : Reader Expression) (body : TracedReader (List Statement))

/-- A word that opens a block is followed by a condition and a body. -/
theorem outcome_statementWith_block {kind : BlockKind} {token : Token}
    (opening : token.kind = kind.keyword) (rest : List Token) :
    (statementWith value body (token :: rest)).outcome =
      value rest >>= fun condition =>
        (body condition.2).outcome >>= fun inner =>
          .ok (.block kind condition.1 inner.1, skipNewlines inner.2) := by
  cases kind <;> simp only [BlockKind.keyword] at opening <;>
    simp only [statementWith, opening, blockStatement, Traced.outcome_bind] <;>
    cases read : value rest <;> simp [Traced.emit, Traced.ofExcept]

/-- An identifier is followed by the rest of a call or of an assignment. -/
theorem outcome_statementWith_identifier {token : Token}
    (kind : token.kind = .identifier) (rest : List Token) :
    (statementWith value body (token :: rest)).outcome =
      simpleStatement value token rest >>= fun simple =>
        .ok (simple.1, skipNewlines simple.2) := by
  simp only [statementWith, kind, Traced.outcome_bind]
  cases simpleStatement value token rest <;> simp [Traced.emit, Traced.ofExcept]

/-- No statement begins with any other token. -/
theorem outcome_statementWith_invalid {token : Token}
    (block : ∀ kind : BlockKind, token.kind ≠ kind.keyword)
    (simple : token.kind ≠ .identifier) (rest : List Token) :
    (statementWith value body (token :: rest)).outcome =
      .error (.invalidToken token.kind) := by
  have conditional := block .conditional
  have loop := block .loop
  obtain ⟨kind, content⟩ := token
  cases kind <;> first | rfl | contradiction

end Statements

section Sequences

variable (statement : TracedReader Statement)

/-- A body ends at its closing word, or goes on with a statement. -/
theorem outcome_bodyWithin_succ (most : Nat) (token : Token) (rest : List Token) :
    (bodyWithin statement (most + 1) (token :: rest)).outcome =
      if token.kind = .endWord then .ok ([], rest)
      else (statement (token :: rest)).outcome >>= fun first =>
        (bodyWithin statement most first.2).outcome >>= fun others =>
          .ok (first.1 :: others.1, others.2) := by
  by_cases closing : token.kind = .endWord
  · simp [bodyWithin, closing]
  · simp only [bodyWithin, closing, if_false, Traced.outcome_bind]
    rfl

/-- While tokens are left, another statement follows. -/
theorem outcome_statementsWithin_succ (most : Nat) (token : Token) (rest : List Token) :
    (statementsWithin statement (most + 1) (token :: rest)).outcome =
      (statement (token :: rest)).outcome >>= fun first =>
        (statementsWithin statement most first.2).outcome >>= fun others =>
          .ok (first.1 :: others) := by
  simp only [statementsWithin, Traced.outcome_bind]
  rfl

end Sequences

/-- A token opens a block, is an identifier, or begins no statement. -/
theorem kind_cases (kind : Kind) :
    (∃ block : BlockKind, kind = block.keyword) ∨ kind = .identifier ∨
      (∀ block : BlockKind, kind ≠ block.keyword) ∧ kind ≠ .identifier := by
  by_cases opens : ∃ block : BlockKind, kind = block.keyword
  · exact Or.inl opens
  · by_cases name : kind = .identifier
    · exact Or.inr (Or.inl name)
    · exact Or.inr (Or.inr ⟨fun block equal => opens ⟨block, equal⟩, name⟩)

end Program

end ScriptFront
