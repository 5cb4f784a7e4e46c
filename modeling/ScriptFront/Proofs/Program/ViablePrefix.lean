import ScriptFront.Proofs.Program.Completion

/-!
# What an error says about longer inputs

An error about the end of the tokens means that they are the beginning of a program.
An error about a token stays the same however the tokens go on, and is found as soon
as the token is there. Nesting that is too deep cannot be mended either, unless a call
has just been opened.
-/

namespace ScriptFront

open Program Grammar

section Limit

variable {limit : Nat} {tokens : List Token} {error : SyntaxError}

/-- Tokens that end too early are the beginning of a program. -/
theorem exists_outcome_parseWithin_append
    (failed : (parseWithin limit tokens).outcome = .error error)
    (fault : error.fault = .ending) :
    ∃ more program, (parseWithin limit (tokens ++ more)).outcome = .ok program := by
  obtain ⟨program, more, derives, level⟩ :=
    program_completable limit tokens (programList_eq_error_iff.mpr failed) fault
  exact ⟨more, program, outcome_parseWithin_eq_ok_iff.mpr ⟨derives, level⟩⟩

/-- A token that is refused is refused with the same error when more tokens follow. -/
theorem outcome_parseWithin_append
    (failed : (parseWithin limit tokens).outcome = .error error)
    (fault : error.fault = .token) (more : List Token) :
    (parseWithin limit (tokens ++ more)).outcome = .error error := by
  have refused := programList_eq_error_iff.mpr failed
  exact programList_eq_error_iff.mp ((program_steady limit tokens).error_append refused fault more)

/-- Tokens that nest too deep are not the beginning of a program, unless they end with
an opening parenthesis. -/
theorem outcome_parseWithin_append_ne_ok
    (failed : (parseWithin limit tokens).outcome = .error error)
    (fault : error.fault = .nesting) (settled : Settled tokens) (more : List Token)
    (program : List Statement) :
    (parseWithin limit (tokens ++ more)).outcome ≠ .ok program := by
  have deep := programList_eq_error_iff.mpr failed
  intro read
  apply (program_steady limit tokens).not_ok_append deep fault settled more (program, [])
  rw [programList_eq, read, ok_bind]

/-- A refused token is refused as soon as it is there: the tokens before it are not
refused, and after it nothing matters. -/
theorem exists_refused_token
    (failed : (parseWithin limit tokens).outcome = .error error)
    (fault : error.fault = .token) :
    ∃ before token after, tokens = before ++ token :: after ∧
      (∀ more, (parseWithin limit (before ++ token :: more)).outcome = .error error) ∧
        ¬ ∃ other, (parseWithin limit before).outcome = .error other ∧
          other.fault = .token := by
  -- The last token is dropped for as long as the others are still refused.
  induction length : tokens.length generalizing tokens with
  | zero =>
      obtain rfl := List.length_eq_zero_iff.mp length
      cases failed
  | succ count inductionHypothesis =>
      obtain rfl | ⟨shorter, last, rfl⟩ := List.eq_nil_or_concat tokens
      · cases length
      · by_cases refused : ∃ other, (parseWithin limit shorter).outcome = .error other ∧
            other.fault = .token
        · obtain ⟨other, failedShorter, otherFault⟩ := refused
          have same := outcome_parseWithin_append failedShorter otherFault [last]
          rw [List.concat_eq_append] at failed length
          cases same.symm.trans failed
          obtain ⟨before, token, after, rfl, stays, first⟩ :=
            inductionHypothesis failedShorter (by simpa using length)
          exact ⟨before, token, after ++ [last], by simp, stays, first⟩
        · rw [List.concat_eq_append] at failed ⊢
          refine ⟨shorter, last, [], rfl, fun more => ?_, refused⟩
          have stays := outcome_parseWithin_append failed fault more
          simpa using stays

end Limit

/-- What the error of a failed reading says about longer inputs. Tokens that end too
early can be continued to a program, tokens with one that is refused fail with the same
error forever, and tokens that nest too deep never become a program unless they end
with an opening parenthesis. So the end is at fault for every other beginning of a
program, and a token is refused as soon as it is there. -/
theorem parse_error_viability (tokens : List Token) (error : SyntaxError)
    (failed : (parse tokens).outcome = .error error) :
    (error.fault = .ending →
      ∃ more program, (parse (tokens ++ more)).outcome = .ok program) ∧
    (error.fault = .token → ∀ more, (parse (tokens ++ more)).outcome = .error error) ∧
    (error.fault = .nesting → Settled tokens →
      ∀ more program, (parse (tokens ++ more)).outcome ≠ .ok program) ∧
    ((∃ more program, (parse (tokens ++ more)).outcome = .ok program) →
      error.fault = .ending ∨ error.fault = .nesting ∧ ¬ Settled tokens) ∧
    (error.fault = .token →
      ∃ before token after, tokens = before ++ token :: after ∧
        (∀ more, (parse (before ++ token :: more)).outcome = .error error) ∧
          ¬ ∃ other, (parse before).outcome = .error other ∧ other.fault = .token) := by
  refine ⟨exists_outcome_parseWithin_append failed, outcome_parseWithin_append failed,
    outcome_parseWithin_append_ne_ok failed, ?_, exists_refused_token failed⟩
  rintro ⟨more, program, read⟩
  cases fault : error.fault with
  | ending => exact Or.inl rfl
  | token =>
      have stays := outcome_parseWithin_append failed fault more
      cases stays.symm.trans read
  | nesting =>
      refine Or.inr ⟨rfl, fun settled => ?_⟩
      exact outcome_parseWithin_append_ne_ok failed fault settled more program read

/-- A loop whose condition is an open call can be completed, a parenthesis where an
assignment must go on cannot, and neither can a chain of 127 connectives. -/
theorem parse_error_viability_open_call :
    (∃ more program, (parse ([⟨.whileWord, .text "while"⟩, ⟨.identifier, .text "f"⟩,
      ⟨.parenthesisOpen, .text "("⟩] ++ more)).outcome = .ok program) ∧
    (∀ more, (parse ([⟨.identifier, .text "f"⟩, ⟨.parenthesisClose, .text ")"⟩] ++
      more)).outcome = .error (.unexpectedToken .equal .parenthesisClose)) ∧
    (∀ more program, (parse (chainAssignment 127 ++ more)).outcome ≠ .ok program) := by
  have tooDeep : (parse (chainAssignment 127)).outcome = .error (.tooDeep 128) := by
    refine (outcome_parseWithin_of_derives 128 (derives_chainAssignment 127)).trans (if_neg ?_)
    simp only [Statement.levelAll, Statement.level,
      level_chainAssignment (show 0 < 127 by decide)]
    decide
  have settled : Settled (chainAssignment 127) := by
    intro token last
    simp only [chainAssignment, ← List.cons_append, List.getLast?_concat] at last
    cases last
    decide
  exact ⟨(parse_error_viability _ .unexpectedEnd rfl).1 rfl,
    (parse_error_viability _ _ rfl).2.1 rfl,
    (parse_error_viability _ _ tooDeep).2.2.1 rfl settled⟩

end ScriptFront
