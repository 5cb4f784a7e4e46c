import ScriptFront.Analysis
import ScriptFront.Proofs.Cursor.Agreement
import ScriptFront.Proofs.Token.Spelling

/-!
# What tokens are refused for

Few of the errors that could be written down are ever found. Each of those that are says
something true of the tokens, and it is found where reading has not checked before: a
word that opens a block, a name that is called or the level of a body is never refused.
The tokens of a source all carry what their kinds carry, so no source is refused for a
malformed literal.
-/

namespace ScriptFront

/-- Whether a token carries what its kind cannot: a name or a string that is a number, or
a number that is a text. -/
def Token.malformed (token : Token) : Bool :=
  match token.kind, token.value with
  | .identifier, .number _ => true
  | .string, .number _ => true
  | .number, .text _ => true
  | _, _ => false

/-- What an error says of the tokens that are refused with it. Only an equals sign and a
closing parenthesis are ever expected in place of another token. -/
def SyntaxError.Explained (limit : Nat) (tokens : List Token) : SyntaxError → Prop
  | .unexpectedToken expected found =>
    (expected = .equal ∧ found ≠ .equal ∧ found ≠ .parenthesisOpen ∨
      expected = .parenthesisClose ∧ found ≠ .parenthesisClose ∧ found ≠ .comma) ∧
    ∃ token ∈ tokens, token.kind = found
  | .invalidToken found => found ≠ .identifier ∧ ∃ token ∈ tokens, token.kind = found
  | .missingToken expected =>
    expected = .equal ∨ expected = .parenthesisClose ∨ expected = .endWord
  | .unexpectedEnd => True
  | .tooDeep depth => depth = limit
  | .malformedLiteral kind =>
    (kind = .identifier ∨ kind = .string ∨ kind = .number) ∧
    ∃ token ∈ tokens, token.kind = kind ∧ token.malformed = true

/-- An error explained by some tokens is explained by all. -/
theorem SyntaxError.Explained.mono {limit : Nat} {tokens others : List Token}
    {error : SyntaxError} (explained : error.Explained limit tokens)
    (subset : tokens ⊆ others) : error.Explained limit others := by
  cases error with
  | unexpectedToken expected found =>
      obtain ⟨allowed, token, member, kind⟩ := explained
      exact ⟨allowed, token, subset member, kind⟩
  | invalidToken found =>
      obtain ⟨other, token, member, kind⟩ := explained
      exact ⟨other, token, subset member, kind⟩
  | malformedLiteral kind =>
      obtain ⟨sort, token, member, rest⟩ := explained
      exact ⟨sort, token, subset member, rest⟩
  | missingToken expected => exact explained
  | unexpectedEnd => exact explained
  | tooDeep depth => exact explained

namespace Program

/-- Every error of the reader is explained by the tokens it has been given. -/
def Explains {Part : Type} (limit : Nat) (reader : Reader Part) : Prop :=
  ∀ ⦃tokens : List Token⦄ ⦃error : SyntaxError⦄, reader tokens = .error error →
    error.Explained limit tokens

/-- What the reader leaves is some of the tokens it has been given. -/
def Leaves {Part : Type} (reader : Reader Part) : Prop :=
  ∀ ⦃tokens rest : List Token⦄ ⦃part : Part⦄, reader tokens = .ok (part, rest) → rest ⊆ tokens

theorem expression_leaves (limit allowance : Nat) : Leaves (expression limit allowance) := by
  intro tokens rest value read
  obtain ⟨used, rfl, -⟩ := expression_sound limit allowance read
  exact List.subset_append_right used rest

theorem statement_leaves (limit allowance : Nat) :
    Leaves fun tokens => (statement limit allowance tokens).outcome := by
  intro tokens rest value read
  obtain ⟨used, rfl, -⟩ := statement_sound limit allowance read
  exact List.subset_append_right used rest

section Tokens

variable {limit : Nat} {token : Token} {tokens : List Token} {error : SyntaxError}

/-- A name that carries no text is malformed. -/
theorem explained_nameOf (kind : token.kind = .identifier) (member : token ∈ tokens)
    (failed : nameOf token = .error error) : error.Explained limit tokens := by
  obtain ⟨_, value⟩ := token
  subst kind
  cases value with
  | text name => cases failed
  | number amount =>
      cases failed
      exact ⟨.inl rfl, _, member, rfl, rfl⟩

/-- A token that stands for no expression is malformed or begins none. -/
theorem explained_atom (other : token.kind ≠ .identifier) (member : token ∈ tokens)
    (failed : atom token = .error error) : error.Explained limit tokens := by
  obtain ⟨kind, value⟩ := token
  cases kind
  case string =>
    cases value with
    | text content => cases failed
    | number amount =>
        cases failed
        exact ⟨.inr (.inl rfl), _, member, rfl, rfl⟩
  case number =>
    cases value with
    | number amount => cases failed
    | text content =>
        cases failed
        exact ⟨.inr (.inr rfl), _, member, rfl, rfl⟩
  case trueWord => cases failed
  case falseWord => cases failed
  all_goals
    cases failed
    exact ⟨other, _, member, rfl⟩

end Tokens

section Expressions

variable {limit : Nat} {nested right : Reader Expression} (leaves : Leaves nested)
  (explains : Explains limit nested)

include leaves explains

/-- Arguments are refused for one of them or for what follows one. -/
theorem argumentsWithin_explains (most : Nat) :
    Explains limit (argumentsWithin nested most) := by
  -- A budget that is used up counts as the end of the tokens, so none has to be enough.
  induction most with
  | zero =>
      intro tokens error failed
      cases failed
      trivial
  | succ most inductionHypothesis =>
      intro tokens error failed
      simp only [argumentsWithin] at failed
      rcases bind_eq_error_iff.mp failed with failedFirst | ⟨⟨first, afterFirst⟩, read, failedAfter⟩
      · exact explains failedFirst
      · have kept := leaves read
        cases afterFirst with
        | nil =>
            cases failedAfter
            exact .inr (.inl rfl)
        | cons token rest =>
            by_cases comma : token.kind = .comma
            · simp only [if_pos comma] at failedAfter
              rcases bind_eq_error_iff.mp failedAfter with failedOthers | ⟨_, _, finished⟩
              · exact (inductionHypothesis failedOthers).mono fun _ member =>
                  kept (List.mem_cons_of_mem _ member)
              · cases finished
            · by_cases closing : token.kind = .parenthesisClose
              · simp only [if_neg comma, expect, if_pos closing] at failedAfter
                cases failedAfter
              · simp only [if_neg comma, expect, if_neg closing] at failedAfter
                cases failedAfter
                exact ⟨.inr ⟨rfl, closing, comma⟩, token, kept List.mem_cons_self, rfl⟩

/-- A call is refused for its arguments. -/
theorem arguments_explains : Explains limit (arguments nested) := by
  intro tokens error failed
  cases tokens with
  | nil => exact argumentsWithin_explains leaves explains _ failed
  | cons token rest =>
      rw [arguments] at failed
      split at failed
      · cases failed
      · exact argumentsWithin_explains leaves explains _ failed

/-- What follows a name is refused for the arguments or for the right side. -/
theorem afterName_explains (rightExplains : Explains limit right) (name : String) :
    Explains limit (afterName nested right name) := by
  intro tokens error failed
  cases tokens with
  | nil => cases failed
  | cons token rest =>
      apply SyntaxError.Explained.mono _ (List.subset_cons_self token rest)
      simp only [afterName] at failed
      split at failed
      · rcases bind_eq_error_iff.mp failed with failedCall | ⟨_, _, finished⟩
        · exact arguments_explains leaves explains failedCall
        · cases finished
      · split at failed
        · rcases bind_eq_error_iff.mp failed with failedRight | ⟨_, _, finished⟩
          · exact rightExplains failedRight
          · cases finished
        · cases failed

/-- An operand is refused for its first token or for what follows a name. -/
theorem operand_explains (rightExplains : Explains limit right) :
    Explains limit (operand nested right) := by
  intro tokens error failed
  cases tokens with
  | nil =>
      cases failed
      trivial
  | cons token rest =>
      rw [operand_cons] at failed
      split at failed
      · next identifier =>
        rcases bind_eq_error_iff.mp failed with unnamed | ⟨name, -, failedAfter⟩
        · exact explained_nameOf identifier List.mem_cons_self unnamed
        · exact (afterName_explains leaves explains rightExplains name failedAfter).mono
            (List.subset_cons_self token rest)
      · next other =>
        rcases bind_eq_error_iff.mp failed with unread | ⟨_, _, finished⟩
        · exact explained_atom other List.mem_cons_self unread
        · cases finished

end Expressions

/-- An expression is refused for its tokens or at the limit. -/
theorem expression_explains (limit allowance : Nat) :
    Explains limit (expression limit allowance) := by
  induction allowance using Nat.strongRecOn with
  | ind allowance inductionHypothesis =>
      cases allowance with
      | zero =>
          intro tokens error failed
          cases failed
          rfl
      | succ allowance =>
          rw [expression_succ]
          refine operand_explains (expression_leaves limit allowance)
            (inductionHypothesis allowance (Nat.lt_succ_self _)) ?_
          cases allowance with
          | zero =>
              intro tokens error failed
              cases failed
              rfl
          | succ allowance =>
              -- The right side goes on at the level of its connective, or takes one more.
              intro tokens error failed
              rw [rightReader, rightSide] at failed
              split at failed
              · exact inductionHypothesis _ (Nat.lt_succ_self _) failed
              · exact inductionHypothesis _ (by omega) failed

section Statements

variable {limit : Nat} {value : Reader Expression} (leaves : Leaves value)
  (explains : Explains limit value)

include leaves explains

/-- A call or an assignment is refused for its name, for what follows it or for its
expressions. -/
theorem simpleStatement_explained {first : Token} (identifier : first.kind = .identifier)
    {tokens : List Token} {error : SyntaxError}
    (failed : simpleStatement value first tokens = .error error) :
    error.Explained limit (first :: tokens) := by
  rcases bind_eq_error_iff.mp failed with unnamed | ⟨name, -, failedAfter⟩
  · exact explained_nameOf identifier List.mem_cons_self unnamed
  · cases tokens with
    | nil =>
        cases failedAfter
        exact .inl rfl
    | cons token rest =>
        have later : rest ⊆ first :: token :: rest :=
          List.subset_cons_of_subset first (List.subset_cons_self token rest)
        by_cases opening : token.kind = .parenthesisOpen
        · simp only [if_pos opening] at failedAfter
          rcases bind_eq_error_iff.mp failedAfter with failedCall | ⟨_, _, finished⟩
          · exact (arguments_explains leaves explains failedCall).mono later
          · cases finished
        · by_cases equal : token.kind = .equal
          · simp only [if_neg opening, expect, if_pos equal, ok_bind] at failedAfter
            rcases bind_eq_error_iff.mp failedAfter with failedValue | ⟨_, _, finished⟩
            · exact (explains failedValue).mono later
            · cases finished
          · simp only [if_neg opening, expect, if_neg equal] at failedAfter
            cases failedAfter
            exact ⟨.inl ⟨rfl, equal, opening⟩, token,
              List.mem_cons_of_mem _ List.mem_cons_self, rfl⟩

/-- A statement is refused for its first token or for its parts. -/
theorem statementWith_explains {body : TracedReader (List Statement)}
    (inner : Explains limit fun tokens => (body tokens).outcome) :
    Explains limit fun tokens => (statementWith value body tokens).outcome := by
  intro tokens error failed
  cases tokens with
  | nil =>
      cases failed
      trivial
  | cons token rest =>
      have later := List.subset_cons_self token rest
      rcases kind_cases token.kind with ⟨kind, opening⟩ | simple | ⟨block, simple⟩
      · simp only [outcome_statementWith_block value body opening] at failed
        rcases bind_eq_error_iff.mp failed with failedValue | ⟨⟨condition, after⟩, read, failedBody⟩
        · exact (explains failedValue).mono later
        · rcases bind_eq_error_iff.mp failedBody with failedBody | ⟨_, _, finished⟩
          · exact (inner failedBody).mono (List.Subset.trans (leaves read) later)
          · cases finished
      · simp only [outcome_statementWith_identifier value body simple] at failed
        rcases bind_eq_error_iff.mp failed with failedSimple | ⟨_, _, finished⟩
        · exact simpleStatement_explained leaves explains simple failedSimple
        · cases finished
      · simp only [outcome_statementWith_invalid value body block simple] at failed
        cases failed
        exact ⟨simple, token, List.mem_cons_self, rfl⟩

end Statements

section Sequences

variable {limit : Nat} {statement : TracedReader Statement}
  (leaves : Leaves fun tokens => (statement tokens).outcome)
  (explains : Explains limit fun tokens => (statement tokens).outcome)

include leaves explains

/-- A body is refused for one of its statements or because it is not closed. -/
theorem bodyWithin_explains (most : Nat) :
    Explains limit fun tokens => (bodyWithin statement most tokens).outcome := by
  induction most with
  | zero =>
      intro tokens error failed
      cases failed
      exact .inr (.inr rfl)
  | succ most inductionHypothesis =>
      intro tokens error failed
      cases tokens with
      | nil =>
          cases failed
          exact .inr (.inr rfl)
      | cons token rest =>
          simp only [outcome_bodyWithin_succ] at failed
          split at failed
          · cases failed
          · rcases bind_eq_error_iff.mp failed with failedFirst | ⟨first, read, failedAfter⟩
            · exact explains failedFirst
            · rcases bind_eq_error_iff.mp failedAfter with failedOthers | ⟨_, _, finished⟩
              · exact (inductionHypothesis failedOthers).mono (leaves read)
              · cases finished

/-- A program is refused for one of its statements. -/
theorem statementsWithin_explained {most : Nat} {tokens : List Token} {error : SyntaxError}
    (failed : (statementsWithin statement most tokens).outcome = .error error) :
    error.Explained limit tokens := by
  induction most generalizing tokens with
  | zero =>
      cases tokens <;> cases failed
      trivial
  | succ most inductionHypothesis =>
      cases tokens with
      | nil => cases failed
      | cons token rest =>
          rw [outcome_statementsWithin_succ] at failed
          rcases bind_eq_error_iff.mp failed with failedFirst | ⟨first, read, failedAfter⟩
          · exact explains failedFirst
          · rcases bind_eq_error_iff.mp failedAfter with failedOthers | ⟨_, _, finished⟩
            · exact (inductionHypothesis failedOthers).mono (leaves read)
            · cases finished

end Sequences

/-- A statement is refused for its tokens or at the limit. -/
theorem statement_explains (limit allowance : Nat) :
    Explains limit fun tokens => (statement limit allowance tokens).outcome := by
  induction allowance with
  | zero =>
      refine statementWith_explains (expression_leaves limit 0) (expression_explains limit 0) ?_
      intro tokens error failed
      cases failed
      rfl
  | succ allowance inductionHypothesis =>
      refine statementWith_explains (expression_leaves limit _) (expression_explains limit _) ?_
      intro tokens error failed
      exact (bodyWithin_explains (statement_leaves limit allowance) inductionHypothesis _
        failed).mono (List.dropWhile_sublist _).subset

end Program

open Program

/-- Under every limit, the tokens that are refused explain the error. -/
theorem explained_of_parseWithin {limit : Nat} {tokens : List Token} {error : SyntaxError}
    (failed : (parseWithin limit tokens).outcome = .error error) :
    error.Explained limit tokens :=
  statementsWithin_explained (statement_leaves limit limit) (statement_explains limit limit) failed

/-- Under every limit, tokens are refused by a check that can fail. -/
theorem refused_of_parseWithin {limit : Nat} {tokens : List Token} {error : SyntaxError}
    (failed : (parseWithin limit tokens).outcome = .error error) :
    ∃ check final, (Walk.program limit (limit + 1)).run (Cursor.start tokens) =
      .error (.refused check error) final ∧ check.canFail = true := by
  have ends := program_ends limit tokens
  generalize (Walk.program limit (limit + 1)).run (Cursor.start tokens) = result at ends ⊢
  cases ends with
  | read outcome reported =>
      rw [failed] at outcome
      cases outcome
  | refused outcome reported canFail =>
      rw [failed] at outcome
      cases outcome
      exact ⟨_, _, rfl, canFail⟩

/-- No token of a source is malformed. -/
theorem not_malformed_of_tokenize {source : String} {tokens : List Token}
    (read : (tokenize source).outcome = .ok tokens) :
    ∀ token ∈ tokens, token.malformed = false := by
  have munched := (Lexeme.outcome_tokenizeWith_iff_munched
    Lexeme.isWordCharacter_agreesOnAscii).mp read
  intro token member
  rcases Lexeme.wellFormed_of_munched munched token member with wellFormed | ⟨value, rfl⟩
  · cases wellFormed with
    | @fixed kind spelling spelled =>
        cases kind <;> first | rfl | cases spelled
    | _ => rfl
  · rfl

/-- The errors that tokens are refused with. Each is explained by the tokens, and none is
found where a block begins, where a name is called, after a name that a connective follows,
where a statement begins or where a block takes its level. No source is refused for a
malformed literal. -/
theorem parse_refusals :
    (∀ (tokens : List Token) (error : SyntaxError), (parse tokens).outcome = .error error →
      error.Explained 128 tokens ∧
      ∃ check final, (Walk.program nestingLimit 129).run (Cursor.start tokens) =
          .error (.refused check error) final ∧
        check ∉ [.expected .ifWord, .expected .whileWord, .expected .parenthesisOpen,
          .expected .identifier, .connective, .statementToken, .blockLevel]) ∧
    ∀ (source : String) (kind : Kind),
      (analyze source).outcome ≠ .error (.structural (.malformedLiteral kind)) := by
  constructor
  · intro tokens error failed
    refine ⟨explained_of_parseWithin failed, ?_⟩
    obtain ⟨check, final, refused, canFail⟩ := refused_of_parseWithin failed
    refine ⟨check, final, refused, fun member => ?_⟩
    have never : ∀ check ∈ [Check.expected .ifWord, .expected .whileWord,
        .expected .parenthesisOpen, .expected .identifier, .connective, .statementToken,
        .blockLevel], check.canFail = false := by
      decide
    rw [never check member] at canFail
    cases canFail
  · intro source kind failed
    rw [analyze, Traced.outcome_bind] at failed
    rcases bind_eq_error_iff.mp failed with unread | ⟨tokens, read, unparsed⟩
    · obtain ⟨_, -, other⟩ := mapError_eq_error_iff.mp unread
      cases other
    · obtain ⟨_, refused, ⟨⟩⟩ := mapError_eq_error_iff.mp unparsed
      obtain ⟨-, token, member, -, malformed⟩ := explained_of_parseWithin refused
      rw [not_malformed_of_tokenize (mapError_eq_ok_iff.mp read) token member] at malformed
      cases malformed

/-- A comma where an equals sign must stand is named in the error, and so is a string that
carries a number. -/
theorem parse_refusals_misplaced_comma :
    (SyntaxError.unexpectedToken .equal .comma).Explained 128
      [⟨.identifier, .text "x"⟩, ⟨.comma, .text ","⟩] ∧
    (SyntaxError.malformedLiteral .string).Explained 128
      [⟨.identifier, .text "x"⟩, ⟨.equal, .text "="⟩, ⟨.string, .number (.integer 1)⟩] :=
  ⟨(parse_refusals.1 _ _ rfl).1, (parse_refusals.1 _ _ rfl).1⟩

end ScriptFront
