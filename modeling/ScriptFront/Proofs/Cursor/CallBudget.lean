import ScriptFront.Proofs.Cursor.Agreement

/-!
# How many calls are open at once

Reading recurses into expressions and blocks only. However long the tokens are and
however they nest, one call more than there are levels is enough: those that have taken
a level, and one that finds none left. With one less, calls nested in one another use
the budget up before a level is refused.
-/

namespace ScriptFront

open Program

/-- How a walk has ended, unless it has used up a budget or closed a level that was not
open. -/
def Walk.ending? {Part : Type} :
    EStateM.Result Stop Cursor Part → Option (Except SyntaxError Part)
  | .ok part _ => some (.ok part)
  | .error (.refused _ error) _ => some (.error error)
  | .error .exhausted _ => none
  | .error .underflow _ => none

/-- Under every limit, one call more than there are levels is enough. -/
theorem ending?_program (limit : Nat) (tokens : List Token) :
    Walk.ending? ((Walk.program limit (limit + 1)).run (Cursor.start tokens)) =
      some (parseWithin limit tokens).outcome := by
  have ends := program_ends limit tokens
  generalize (Walk.program limit (limit + 1)).run (Cursor.start tokens) = result at ends ⊢
  cases ends with
  | read outcome => exact congrArg some outcome.symm
  | refused outcome => exact congrArg some outcome.symm

/-- Calls one within another, all of them open. -/
def openCalls (count : Nat) : List Token :=
  (List.replicate count [⟨.identifier, .text "f"⟩, ⟨.parenthesisOpen, .text "("⟩]).flatten

/-- A call stops where its first argument stops. -/
theorem operand_stops {limit : Nat} {nested : Walk Expression} {start final : Cursor}
    {reason : Stop} {name : String} {opening : Token} {tokens : List Token}
    (shape : start.rest = ⟨.identifier, .text name⟩ :: opening :: tokens)
    (openingKind : opening.kind = .parenthesisOpen)
    (unclosed : ∀ token ∈ tokens.head?, token.kind ≠ .parenthesisClose)
    (stopped : nested.run (start.after 2 []) = .error reason final) :
    (Walk.operand limit nested).run start = .error reason final := by
  have second := Cursor.rest_after_one shape []
  have third : (start.after 2 []).rest = tokens := Cursor.rest_after_two shape []
  have called : ((opening :: tokens).head?.any fun token => token.kind = .parenthesisOpen) =
      true := by
    simp [openingKind]
  have named : nameOf ⟨.identifier, .text name⟩ = .ok name := rfl
  have passed : (Walk.expect .parenthesisOpen).run (start.after 1 []) =
      .ok opening (start.after 2 []) :=
    (Walk.run_expect_same second openingKind).trans
      (congrArg (EStateM.Result.ok opening) (Cursor.after_after ..))
  have unclosedYet : (Walk.take .parenthesisClose).run (start.after 2 []) =
      .ok false (start.after 2 []) := by
    cases tokens with
    | nil => exact Walk.run_take_nil third _
    | cons token tokens => exact Walk.run_take_other third (unclosed token rfl)
  rw [run_operand_identifier shape rfl, if_pos called]
  apply Walk.run_bind_error
  rw [Walk.call, Walk.run_bind_ok (Walk.run_literal_ok shape rfl named)]
  apply Walk.run_bind_error
  rw [Walk.arguments, Walk.run_bind_ok passed, Walk.run_bind_ok unclosedYet]
  simp only [Bool.false_eq_true, if_false]
  rw [Walk.run_bind_ok (Walk.run_remaining _)]
  apply Walk.run_bind_error
  exact Walk.run_bind_error stopped _

/-- As long as levels are left, every open call takes one of the calls allowed. -/
theorem expression_exhausted {limit calls count : Nat} {start : Cursor}
    (room : start.depth + calls ≤ limit) (enough : calls ≤ count)
    (opened : start.rest = openCalls count) :
    ∃ final, (Walk.expression limit calls).run start = .error .exhausted final := by
  induction calls generalizing count start with
  | zero => exact ⟨start, rfl⟩
  | succ calls inductionHypothesis =>
      obtain ⟨count, rfl⟩ := Nat.exists_eq_add_one_of_ne_zero (Nat.ne_zero_of_lt enough)
      have deeper : start.depth < limit := by omega
      have inside : (start.atDepth (start.depth + 1)).rest =
          ⟨.identifier, .text "f"⟩ :: ⟨.parenthesisOpen, .text "("⟩ :: openCalls count :=
        opened
      have reached : ((start.atDepth (start.depth + 1)).after 2 []).rest = openCalls count :=
        Cursor.rest_after_two inside []
      have inner : start.depth + 1 + calls ≤ limit := by omega
      obtain ⟨final, stopped⟩ := inductionHypothesis inner (Nat.le_of_succ_le_succ enough) reached
      have unclosed : ∀ token ∈ (openCalls count).head?, token.kind ≠ .parenthesisClose := by
        cases count with
        | zero => nofun
        | succ count =>
            rintro token ⟨⟩
            exact nofun
      refine ⟨final, ?_⟩
      rw [Walk.expression, Walk.level, Walk.run_bind_ok (Walk.run_descend deeper)]
      exact Walk.run_bind_error (operand_stops inside rfl unclosed stopped) _

/-- An assignment of calls one within another, all of them open. -/
def openAssignment (count : Nat) : List Token :=
  ⟨.identifier, .text "x"⟩ :: ⟨.equal, .text "="⟩ :: openCalls count

/-- An assignment stops where its value stops. -/
theorem assignment_stops {value : Walk Expression} {block : Walk (List Statement)}
    {start final : Cursor} {reason : Stop} {name : String} {equal : Token} {tokens : List Token}
    (shape : start.rest = ⟨.identifier, .text name⟩ :: equal :: tokens)
    (equalKind : equal.kind = .equal)
    (stopped : value.run (start.after 2 [.statement .identifier]) = .error reason final) :
    (Walk.statementWith value block).run start = .error reason final := by
  have reported : (start.after 0 [.statement .identifier]).rest =
      ⟨.identifier, .text name⟩ :: equal :: tokens :=
    shape
  have second := Cursor.rest_after_one reported []
  have uncalled : ¬((equal :: tokens).head?.any fun token => token.kind = .parenthesisOpen) =
      true := by
    simp [equalKind]
  have named : nameOf ⟨.identifier, .text name⟩ = .ok name := rfl
  have told : (Walk.report (.statement .identifier)).run start =
      .ok () (start.after 0 [.statement .identifier]) :=
    rfl
  rw [Walk.statementWith, Walk.run_bind_ok (Walk.run_ahead ..), shape]
  refine (Walk.run_bind_ok told _).trans (Walk.run_bind_error ?_ _)
  rw [Walk.simpleStatement, Walk.run_bind_ok (Walk.run_sees ..), reported]
  refine (congrArg (EStateM.run · _) (if_neg uncalled)).trans ?_
  rw [Walk.run_bind_ok (Walk.run_literal_ok reported rfl named),
    Walk.run_bind_ok (Walk.run_expect_same second equalKind), Cursor.after_after,
    Cursor.after_after]
  exact Walk.run_bind_error stopped _

/-- With only as many calls as there are levels, some tokens use them up. -/
theorem program_exhausted (limit : Nat) :
    ∃ final, (Walk.program limit limit).run (Cursor.start (openAssignment limit)) =
      .error .exhausted final := by
  have reached : ((Cursor.start (openAssignment limit)).after 2 [.statement .identifier]).rest =
      openCalls limit :=
    rfl
  have room : ((Cursor.start (openAssignment limit)).after 2 [.statement .identifier]).depth +
      limit ≤ limit := Nat.le_of_eq (Nat.zero_add limit)
  obtain ⟨final, stopped⟩ := expression_exhausted room (Nat.le_refl limit) reached
  refine ⟨final, ?_⟩
  rw [Walk.program, Walk.run_bind_ok (Walk.run_remaining _), Cursor.rest_start]
  apply Walk.run_bind_error
  rw [openAssignment, List.length_cons, Walk.programLoop, Walk.run_bind_ok (Walk.run_remaining _)]
  apply Walk.run_bind_error
  cases limit with
  | zero => exact assignment_stops rfl rfl stopped
  | succ limit => exact assignment_stops rfl rfl stopped

/-- Expressions and blocks never stand more than 129 deep in one another while tokens are
read: with a budget of that many nested calls every walk ends, and as reading does. With
128 some walk does not. -/
theorem parse_call_budget :
    (∀ tokens : List Token,
      Walk.ending? ((Walk.program nestingLimit 129).run (Cursor.start tokens)) =
        some (parse tokens).outcome) ∧
    ∃ tokens : List Token,
      Walk.ending? ((Walk.program nestingLimit 128).run (Cursor.start tokens)) = none := by
  constructor
  · exact ending?_program nestingLimit
  · obtain ⟨final, exhausted⟩ := program_exhausted nestingLimit
    exact ⟨_, congrArg Walk.ending? exhausted⟩

end ScriptFront
