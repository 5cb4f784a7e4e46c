import ScriptFront.Proofs.Program.Loops

/-!
# Programs one after another

The tokens of a program can stand before any others that do not prolong its last
statement, and are read as before. What follows is read as if it stood alone: nothing
of the nesting before it is left, and if it is refused, then for its own reason.
-/

namespace ScriptFront

namespace Program

open Grammar

/-- Reading goes on after the statements of a program as if they were not there. -/
theorem programList_append {limit : Nat} {values : List Statement} {tokens rest : List Token}
    (derives : Derives (.statements values) tokens)
    (levels : Statement.levelAll values ≤ limit) (ends : EndsStatement rest) :
    programList (statement limit limit) (tokens ++ rest) =
      programList (statement limit limit) rest >>= fun others =>
        .ok (values ++ others.1, others.2) := by
  induction values generalizing tokens with
  | nil =>
      cases derives
      rw [List.nil_append]
      cases programList (statement limit limit) rest <;> rfl
  | cons value others inductionHypothesis =>
      cases derives with
      | @moreStatements _ _ firstTokens otherTokens first following =>
          obtain ⟨level, otherLevels⟩ := Nat.max_le.mp levels
          have read := readBack_of_derives limit first limit (otherTokens ++ rest)
            (endsStatement_append following ends)
          rw [within, if_pos level] at read
          obtain ⟨token, tail, rfl, -⟩ := statement_shape first
          rw [List.append_assoc, List.cons_append,
            programList_cons (statement_consumes limit limit), ← List.cons_append, read, ok_bind,
            inductionHypothesis following otherLevels]
          cases programList (statement limit limit) rest <;> rfl

end Program

open Grammar Program

/-- The tokens do not begin with a mark, a connective or a line end that would go on
with a statement before them. -/
theorem endsStatement_of_head? {tokens : List Token}
    (junction : ∀ token ∈ tokens.head?,
      token.kind ∉ [Kind.parenthesisOpen, .andWord, .orWord, .newline]) :
    EndsStatement tokens := by
  cases tokens with
  | nil => trivial
  | cons token rest =>
      have excluded := junction token rfl
      simp only [List.mem_cons, List.not_mem_nil, or_false, not_or] at excluded
      obtain ⟨noCall, noAnd, noOr, noLine⟩ := excluded
      refine ⟨⟨noCall, Option.eq_none_iff_forall_ne_some.mpr ?_⟩, noLine⟩
      intro connective found
      have kind := Connective.ofKind?_eq_some_iff.mp found
      cases connective with
      | and => exact noAnd kind
      | or => exact noOr kind

/-- A program is followed by the outcome of what stands after it, within any limit. -/
theorem outcome_parseWithin_append_of_ends {limit : Nat} {tokens rest : List Token}
    {program : List Statement} (read : (parseWithin limit tokens).outcome = .ok program)
    (ends : EndsStatement rest) :
    (parseWithin limit (tokens ++ rest)).outcome =
      (parseWithin limit rest).outcome.map (program ++ ·) := by
  obtain ⟨derives, levels⟩ := outcome_parseWithin_eq_ok_iff.mp read
  rw [outcome_parseWithin, outcome_parseWithin, programList_append derives levels ends]
  cases programList (statement limit limit) rest <;> rfl

/-- After the tokens of a program, tokens that do not go on with its last statement are
read as they are alone: as further statements, or with the same error. -/
theorem parse_append (tokens rest : List Token) (program : List Statement)
    (read : (parse tokens).outcome = .ok program)
    (junction : ∀ token ∈ rest.head?,
      token.kind ∉ [Kind.parenthesisOpen, .andWord, .orWord, .newline]) :
    (∀ others, (parse rest).outcome = .ok others →
      (parse (tokens ++ rest)).outcome = .ok (program ++ others)) ∧
    (∀ error, (parse rest).outcome = .error error →
      (parse (tokens ++ rest)).outcome = .error error) := by
  have joined := outcome_parseWithin_append_of_ends read (endsStatement_of_head? junction)
  constructor
  · intro others readRest
    exact joined.trans (congrArg (Except.map (program ++ ·)) readRest)
  · intro error failed
    exact joined.trans (congrArg (Except.map (program ++ ·)) failed)

/-- A chain of 126 connectives uses up the whole limit and leaves all of it to another
one after it; one with 127 is refused after it as it is alone. -/
theorem parse_append_long_chains :
    (parse (chainAssignment 126 ++ chainAssignment 126)).outcome =
      .ok (List.replicate 2 (.assignment "x"
        (Expression.chain (List.replicate 126 ("a", .and)) (.identifier "a")))) ∧
    (parse (chainAssignment 126 ++ chainAssignment 127)).outcome = .error (.tooDeep 128) := by
  have read := outcome_parse_chainAssignment (show 0 < 126 by decide)
  have failed := outcome_parse_chainAssignment (show 0 < 127 by decide)
  exact ⟨(parse_append _ _ _ read (by decide)).1 _ read,
    (parse_append _ _ _ read (by decide)).2 _ failed⟩

end ScriptFront
