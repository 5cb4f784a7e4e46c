import ScriptFront.Proofs.Program.Loops

/-!
# Reading more tokens

What a reader has done stays done when more tokens are put after those it was given,
unless it has run into their end. A part that is read with a token after it is read
again, a token that is refused is refused again, and nesting that is too deep does not
become less. The one exception is an opening parenthesis at the end: a call whose
arguments would nest too deep may still be closed at once.

`Steady` states this for one reader at one list of tokens, so that loops are covered by
induction on the length of the list.
-/

namespace ScriptFront

/-- What an error says about the tokens. -/
inductive Fault where
  /-- They end too early. -/
  | ending
  /-- One of them cannot stand where it does. -/
  | token
  /-- They nest too deep. -/
  | nesting

/-- Which of these an error says. -/
def SyntaxError.fault : SyntaxError → Fault
  | .unexpectedToken _ _ => .token
  | .invalidToken _ => .token
  | .malformedLiteral _ => .token
  | .missingToken _ => .ending
  | .unexpectedEnd => .ending
  | .tooDeep _ => .nesting

namespace Program

open Grammar

/-- The tokens do not end with an opening parenthesis. -/
def Settled (tokens : List Token) : Prop :=
  ∀ token ∈ tokens.getLast?, token.kind ≠ .parenthesisOpen

/-- Tokens at the end of settled ones are settled. -/
theorem Settled.of_suffix {tokens rest : List Token} (settled : Settled tokens)
    (suffix : rest <:+ tokens) : Settled rest := by
  intro token last
  obtain ⟨before, rfl⟩ := suffix
  apply settled token
  rw [List.getLast?_append, last]
  rfl

/-- How a reader can fare with tokens, and what that says of all longer lists. -/
inductive Steady {Part : Type} (reader : Reader Part) (tokens : List Token) : Prop where
  /-- A part ends where the tokens end, and might go on with more of them. -/
  | finished {part : Part} (read : reader tokens = .ok (part, []))
  /-- A part ends before the tokens end. -/
  | kept (part : Part) {rest : List Token} (suffix : rest <:+ tokens)
      (read : ∀ more, reader (tokens ++ more) = .ok (part, rest ++ more))
  /-- There is no part in front, however the tokens go on. -/
  | refused (error : SyntaxError) (read : ∀ more, reader (tokens ++ more) = .error error)
  /-- The tokens end within a part. -/
  | starved {error : SyntaxError} (read : reader tokens = .error error)
      (fault : error.fault = .ending)
  /-- A part nests too deep, and does so for good unless a call has just been opened. -/
  | deep {error : SyntaxError} (read : reader tokens = .error error)
      (fault : error.fault = .nesting)
      (never : Settled tokens → ∀ more result, reader (tokens ++ more) ≠ .ok result)

namespace Steady

variable {Part Next : Type} {reader : Reader Part} {tokens : List Token}

/-- A token that is refused is refused with the same error when more tokens follow. -/
theorem error_append (steady : Steady reader tokens) {error : SyntaxError}
    (read : reader tokens = .error error) (fault : error.fault = .token) (more : List Token) :
    reader (tokens ++ more) = .error error := by
  cases steady with
  | finished finished => cases finished.symm.trans read
  | kept part suffix kept =>
      have here := kept []
      rw [List.append_nil, read] at here
      cases here
  | refused other refused =>
      have here := refused []
      rw [List.append_nil, read] at here
      cases here
      exact refused more
  | starved starved ending =>
      cases starved.symm.trans read
      cases ending.symm.trans fault
  | deep deep nesting never =>
      cases deep.symm.trans read
      cases nesting.symm.trans fault

/-- What nests too deep is not read when more tokens follow, unless a call has just been
opened. -/
theorem not_ok_append (steady : Steady reader tokens) {error : SyntaxError}
    (read : reader tokens = .error error) (fault : error.fault = .nesting)
    (settled : Settled tokens) (more : List Token) (result : Part × List Token) :
    reader (tokens ++ more) ≠ .ok result := by
  cases steady with
  | finished finished => cases finished.symm.trans read
  | kept part suffix kept =>
      have here := kept []
      rw [List.append_nil, read] at here
      cases here
  | refused other refused =>
      rw [refused more]
      exact nofun
  | starved starved ending =>
      cases starved.symm.trans read
      cases ending.symm.trans fault
  | deep deep nesting never => exact never settled more result

/-- A reader that hands over to another one fares as that one does. -/
theorem of_step {other : Reader Part} {rest : List Token} (suffix : rest <:+ tokens)
    (step : ∀ more, reader (tokens ++ more) = other (rest ++ more))
    (steady : Steady other rest) : Steady reader tokens := by
  have here : reader tokens = other rest := by simpa using step []
  cases steady with
  | finished read => exact .finished (here.trans read)
  | kept part restSuffix read =>
      exact .kept part (restSuffix.trans suffix) fun more => (step more).trans (read more)
  | refused error read => exact .refused error fun more => (step more).trans (read more)
  | starved read fault => exact .starved (here.trans read) fault
  | deep read fault never =>
      refine .deep (here.trans read) fault fun settled more result => ?_
      rw [step more]
      exact never (settled.of_suffix suffix) more result

/-- How a second step fares if nothing is left for it. -/
inductive Exhausted (next : Part → Reader Next) (part : Part) : Prop where
  | finished {result : Next} (read : next part [] = .ok (result, []))
  | starved {error : SyntaxError} (read : next part [] = .error error)
      (fault : error.fault = .ending)
  | deep {error : SyntaxError} (read : next part [] = .error error)
      (fault : error.fault = .nesting)
      (never : ∀ other tokens result, next other tokens ≠ .ok result)

/-- Two steps in a row. The second one is looked at where the first one has ended. -/
theorem bind (next : Part → Reader Next) (steady : Steady reader tokens)
    (exhausted : ∀ part, Exhausted next part)
    (following : ∀ part rest, reader tokens = .ok (part, rest) → Steady (next part) rest) :
    Steady (fun tokens => reader tokens >>= fun found => next found.1 found.2) tokens := by
  cases steady with
  | @finished part read =>
      cases exhausted part with
      | finished ended => exact .finished (by rw [read, ok_bind, ended])
      | starved ended fault => exact .starved (by rw [read, ok_bind, ended]) fault
      | deep ended fault never =>
          refine .deep (by rw [read, ok_bind, ended]) fault fun _ more result readMore => ?_
          obtain ⟨found, -, readNext⟩ := bind_eq_ok_iff.mp readMore
          exact never found.1 found.2 result readNext
  | @kept part rest suffix read =>
      have here : reader tokens = .ok (part, rest) := by simpa using read []
      refine of_step suffix ?_ (following part rest here)
      intro more
      rw [read more, ok_bind]
  | refused error read => exact .refused error fun more => by rw [read more, error_bind]
  | starved read fault => exact .starved (by rw [read, error_bind]) fault
  | deep read fault never =>
      refine .deep (by rw [read, error_bind]) fault fun settled more result readMore => ?_
      obtain ⟨found, readFound, -⟩ := bind_eq_ok_iff.mp readMore
      exact never settled more found readFound

/-- A part that is only seen in another way. -/
theorem map (steady : Steady reader tokens) (view : Part → Next) :
    Steady (fun tokens => reader tokens >>= fun found => .ok (view found.1, found.2))
      tokens := by
  refine bind (fun part rest => .ok (view part, rest)) steady ?_ ?_
  · exact fun part => .finished rfl
  · exact fun part rest _ => .kept (view part) List.suffix_rfl fun more => rfl

end Steady

section Expressions

variable {nested right : Reader Expression}

/-- What follows an argument fares as the arguments after the comma do. -/
theorem afterArgument_steady {first : Expression} {tokens : List Token}
    (others : ∀ token rest, tokens = token :: rest → Steady (argumentList nested) rest) :
    Steady (afterArgument nested first) tokens := by
  cases tokens with
  | nil => exact .starved rfl rfl
  | cons token rest =>
      by_cases comma : token.kind = .comma
      · refine .of_step (List.suffix_cons token rest) ?_
          ((others token rest rfl).map fun values => first :: values)
        intro more
        simp only [List.cons_append, afterArgument, if_pos comma]
      · by_cases closing : token.kind = .parenthesisClose
        · refine .kept [first] (List.suffix_cons token rest) fun more => ?_
          simp only [List.cons_append, afterArgument, if_neg comma, if_pos closing]
        · refine .refused (.unexpectedToken .parenthesisClose token.kind) fun more => ?_
          simp only [List.cons_append, afterArgument, if_neg comma, if_neg closing]

/-- Arguments fare as the expressions among them do. -/
theorem argumentList_steady (consumes : Consumes nested)
    (steady : ∀ tokens, Steady nested tokens) (tokens : List Token) :
    Steady (argumentList nested) tokens := by
  -- The induction is on how many tokens are left after each comma.
  induction length : tokens.length using Nat.strongRecOn generalizing tokens with
  | ind count inductionHypothesis =>
      have unfolded : argumentList nested = fun tokens =>
          nested tokens >>= fun found => afterArgument nested found.1 found.2 :=
        funext (argumentList_eq consumes)
      rw [unfolded]
      refine .bind (afterArgument nested) (steady tokens) (fun first => .starved rfl rfl) ?_
      intro first afterFirst read
      apply afterArgument_steady
      rintro token rest rfl
      have shorter := consumes read
      rw [List.length_cons] at shorter
      exact inductionHypothesis rest.length (by omega) rest rfl

/-- The rest of a call after its name. Nothing after the opening parenthesis leaves
open whether the call has arguments at all. -/
theorem call_steady {Part : Type} {reader : Reader Part} {view : List Expression → Part}
    {opening : Token} {tokens : List Token} (consumes : Consumes nested)
    (steady : ∀ tokens, Steady nested tokens)
    (empty : ∃ error, nested [] = .error error ∧ error.fault ≠ .token)
    (openingKind : opening.kind = .parenthesisOpen)
    (step : ∀ more, reader (opening :: tokens ++ more) =
      arguments nested (tokens ++ more) >>= fun found => .ok (view found.1, found.2)) :
    Steady reader (opening :: tokens) := by
  cases tokens with
  | nil =>
      obtain ⟨error, failed, fault⟩ := empty
      have here : reader [opening] = .error error := by
        have start := step []
        simpa [arguments, argumentsWithin, failed] using start
      cases kind : error.fault with
      | ending => exact .starved here kind
      | token => exact absurd kind fault
      | nesting =>
          refine .deep here kind fun settled => ?_
          exact absurd openingKind (settled opening rfl)
  | cons token rest =>
      refine .of_step (List.suffix_cons opening (token :: rest)) step (.map ?_ view)
      by_cases closing : token.kind = .parenthesisClose
      · refine .kept [] (List.suffix_cons token rest) fun more => ?_
        rw [List.cons_append, arguments_cons, if_pos closing]
      · refine .of_step List.suffix_rfl (fun more => ?_)
          (argumentList_steady consumes steady (token :: rest))
        rw [List.cons_append, arguments_cons, if_neg closing]

/-- What follows a name fares as the arguments or the right side there do. -/
theorem afterName_steady (consumes : Consumes nested)
    (nestedSteady : ∀ tokens, Steady nested tokens)
    (empty : ∃ error, nested [] = .error error ∧ error.fault ≠ .token)
    (rightSteady : ∀ tokens, Steady right tokens) (name : String) (tokens : List Token) :
    Steady (afterName nested right name) tokens := by
  cases tokens with
  | nil => exact .finished rfl
  | cons token rest =>
      by_cases opening : token.kind = .parenthesisOpen
      · apply call_steady consumes nestedSteady empty opening
        intro more
        simp only [List.cons_append, afterName, if_pos opening]
        rfl
      · cases found : Connective.ofKind? token.kind with
        | some connective =>
            refine .of_step (List.suffix_cons token rest) ?_
              ((rightSteady rest).map (.operation connective (.identifier name)))
            intro more
            simp only [List.cons_append, afterName, if_neg opening, found]
            rfl
        | none =>
            refine .kept (.identifier name) List.suffix_rfl fun more => ?_
            simp only [List.cons_append, afterName, if_neg opening, found]

/-- An operand fares as what follows its first token does. -/
theorem operand_steady (consumes : Consumes nested)
    (nestedSteady : ∀ tokens, Steady nested tokens)
    (empty : ∃ error, nested [] = .error error ∧ error.fault ≠ .token)
    (rightSteady : ∀ tokens, Steady right tokens) (tokens : List Token) :
    Steady (operand nested right) tokens := by
  cases tokens with
  | nil => exact .starved rfl rfl
  | cons token rest =>
      by_cases kind : token.kind = .identifier
      · cases named : nameOf token with
        | error error =>
            refine .refused error fun more => ?_
            rw [List.cons_append, operand_cons, if_pos kind, named, error_bind]
        | ok name =>
            refine .of_step (List.suffix_cons token rest) ?_
              (afterName_steady consumes nestedSteady empty rightSteady name rest)
            intro more
            rw [List.cons_append, operand_cons, if_pos kind, named, ok_bind]
      · cases single : atom token with
        | error error =>
            refine .refused error fun more => ?_
            rw [List.cons_append, operand_cons, if_neg kind, single, error_bind]
        | ok value =>
            refine .kept value (List.suffix_cons token rest) fun more => ?_
            rw [List.cons_append, operand_cons, if_neg kind, single, ok_bind]

end Expressions

/-- A connective and its right side take three levels at least, so nothing is read to
the right of a connective if only one is left after the first. -/
theorem rightReader_ne_ok {limit allowance : Nat} (short : allowance ≤ 1)
    (tokens : List Token) (result : Expression × List Token) :
    rightReader limit allowance tokens ≠ .ok result := by
  intro read
  obtain ⟨used, -, -, level⟩ :=
    rightReader_sound (fun smaller _ => expression_sound limit smaller) read
  have positive := result.1.level_pos
  split at level
  · next operation =>
    have nested := Expression.one_lt_level_of_isOperation operation
    omega
  · omega

/-- With a level left, the end of the tokens is met before anything else. -/
theorem expression_succ_nil (limit allowance : Nat) :
    expression limit (allowance + 1) [] = .error .unexpectedEnd := by
  rw [expression_succ]
  rfl

/-- An expression that begins with an identifier is read on after its name. -/
theorem expression_succ_identifier (limit allowance : Nat) {token : Token}
    (kind : token.kind = .identifier) (rest : List Token) :
    expression limit (allowance + 1) (token :: rest) =
      nameOf token >>= fun name =>
        afterName (expression limit allowance) (rightReader limit allowance) name rest := by
  rw [expression_succ, operand_cons, if_pos kind]

/-- One token does not tell whether an operation begins with it, if it is an identifier.
Both ways of reading on agree about the token itself. -/
theorem rightReader_steady {limit allowance : Nat}
    (steady : ∀ smaller ≤ allowance, ∀ tokens, Steady (expression limit smaller) tokens)
    (tokens : List Token) : Steady (rightReader limit allowance) tokens := by
  cases allowance with
  | zero => exact .refused (.tooDeep limit) fun _ => rfl
  | succ allowance =>
      match tokens with
      | first :: second :: rest =>
          by_cases starts : startsOperation (first :: second :: rest) = true
          · refine .of_step List.suffix_rfl (fun more => ?_)
              (steady (allowance + 1) (Nat.le_refl _) (first :: second :: rest))
            exact if_pos starts
          · refine .of_step List.suffix_rfl (fun more => ?_)
              (steady allowance (Nat.le_succ _) (first :: second :: rest))
            exact if_neg starts
      | [] =>
          cases allowance with
          | zero => exact .deep rfl rfl fun _ _ => rightReader_ne_ok (Nat.le_refl 1) _
          | succ allowance => exact .starved (expression_succ_nil limit allowance) rfl
      | [token] =>
          cases allowance with
          | zero => exact .deep rfl rfl fun _ _ => rightReader_ne_ok (Nat.le_refl 1) _
          | succ allowance =>
              by_cases kind : token.kind = .identifier
              · have identifier := fun smaller rest =>
                  expression_succ_identifier limit smaller kind rest
                cases named : nameOf token with
                | error error =>
                    simp only [named, error_bind] at identifier
                    refine .refused error fun more => ?_
                    simp only [List.cons_append, rightReader, rightSide, identifier, ite_self]
                | ok name =>
                    simp only [named, ok_bind] at identifier
                    exact .finished (identifier allowance [])
              · refine .of_step List.suffix_rfl (fun more => ?_)
                  (steady (allowance + 1) (Nat.le_succ _) [token])
                cases more <;> simp [rightReader, rightSide, startsOperation, kind]

/-- Without tokens no token is refused. -/
theorem expression_nil (limit allowance : Nat) :
    ∃ error, expression limit allowance [] = .error error ∧ error.fault ≠ .token := by
  cases allowance with
  | zero => exact ⟨_, rfl, nofun⟩
  | succ allowance => exact ⟨_, expression_succ_nil limit allowance, nofun⟩

/-- An expression fares as the expressions within it do, and these have a level less. -/
theorem expression_steady (limit allowance : Nat) (tokens : List Token) :
    Steady (expression limit allowance) tokens := by
  induction allowance using Nat.strongRecOn generalizing tokens with
  | ind allowance inductionHypothesis =>
      cases allowance with
      | zero => exact .refused (.tooDeep limit) fun _ => rfl
      | succ allowance =>
          have smaller : ∀ other ≤ allowance, ∀ tokens,
              Steady (expression limit other) tokens :=
            fun other bounded => inductionHypothesis other (Nat.lt_succ_of_le bounded)
          rw [expression_succ]
          exact operand_steady (expression_consumes limit allowance)
            (smaller allowance (Nat.le_refl _)) (expression_nil limit allowance)
            (rightReader_steady smaller) tokens

/-- Line ends that have been passed over stay so, once another token follows them. -/
theorem skipNewlines_append_of_ne {tokens : List Token} (remaining : skipNewlines tokens ≠ [])
    (more : List Token) : skipNewlines (tokens ++ more) = skipNewlines tokens ++ more := by
  unfold skipNewlines at remaining ⊢
  rw [List.dropWhile_append, if_neg]
  simpa using remaining

theorem skipNewlines_suffix (tokens : List Token) : skipNewlines tokens <:+ tokens :=
  List.dropWhile_suffix _

section Statements

variable {value : Reader Expression} {body : TracedReader (List Statement)}

/-- A part with the line ends after it fares as the part does. -/
theorem Steady.skip {Part Next : Type} {reader : Reader Part} {tokens : List Token}
    (steady : Steady reader tokens) (view : Part → Next) :
    Steady (fun tokens => reader tokens >>= fun found =>
      .ok (view found.1, skipNewlines found.2)) tokens := by
  refine .bind (fun part rest => .ok (view part, skipNewlines rest)) steady ?_ ?_
  · exact fun part => .finished rfl
  · intro part rest _
    by_cases remaining : skipNewlines rest = []
    · exact .finished (by rw [remaining])
    · refine .kept (view part) (skipNewlines_suffix rest) fun more => ?_
      rw [skipNewlines_append_of_ne remaining]

/-- A call or an assignment fares as its arguments or its value do. -/
theorem simpleStatement_steady (consumes : Consumes value)
    (steady : ∀ tokens, Steady value tokens)
    (empty : ∃ error, value [] = .error error ∧ error.fault ≠ .token)
    (first : Token) (tokens : List Token) : Steady (simpleStatement value first) tokens := by
  cases named : nameOf first with
  | error error =>
      refine .refused error fun more => ?_
      simp only [simpleStatement, named, error_bind]
  | ok name =>
      cases tokens with
      | nil =>
          have missing : simpleStatement value first [] = .error (.missingToken .equal) := by
            simp only [simpleStatement, named, ok_bind]
          exact .starved missing rfl
      | cons second tail =>
          by_cases opening : second.kind = .parenthesisOpen
          · apply call_steady consumes steady empty opening
            intro more
            simp only [List.cons_append, simpleStatement, named, ok_bind, if_pos opening]
            rfl
          · by_cases equal : second.kind = .equal
            · refine .of_step (List.suffix_cons second tail) (fun more => ?_)
                ((steady tail).map (.assignment name))
              simp only [List.cons_append, simpleStatement, named, ok_bind, if_neg opening,
                expect, if_pos equal]
              rfl
            · refine .refused (.unexpectedToken .equal second.kind) fun more => ?_
              simp only [List.cons_append, simpleStatement, named, ok_bind, if_neg opening,
                expect, if_neg equal, error_bind]

/-- A statement fares as its expressions and its body do. -/
theorem statementWith_steady (consumes : Consumes value)
    (valueSteady : ∀ tokens, Steady value tokens)
    (empty : ∃ error, value [] = .error error ∧ error.fault ≠ .token)
    (bodySteady : ∀ tokens, Steady (fun tokens => (body tokens).outcome) tokens)
    (bodyEmpty : (∃ error, (body []).outcome = .error error ∧ error.fault = .ending) ∨
      ∃ error, error.fault = .nesting ∧ ∀ tokens, (body tokens).outcome = .error error)
    (tokens : List Token) :
    Steady (fun tokens => (statementWith value body tokens).outcome) tokens := by
  cases tokens with
  | nil => exact .starved rfl rfl
  | cons token rest =>
      rcases kind_cases token.kind with ⟨kind, opening⟩ | simple | ⟨block, simple⟩
      · let next (condition : Expression) : Reader Statement := fun tokens =>
          (body tokens).outcome >>= fun inner =>
            .ok (.block kind condition inner.1, skipNewlines inner.2)
        have exhausted : ∀ condition, Steady.Exhausted next condition := by
          intro condition
          rcases bodyEmpty with ⟨error, failed, fault⟩ | ⟨error, fault, failed⟩
          · exact .starved (by simp only [next, failed, error_bind]) fault
          · refine .deep (by simp only [next, failed, error_bind]) fault ?_
            intro other tokens result
            simp only [next, failed, error_bind]
            exact nofun
        refine .of_step (List.suffix_cons token rest) (fun more => ?_)
          (.bind next (valueSteady rest) exhausted ?_)
        · exact outcome_statementWith_block value body opening (rest ++ more)
        · exact fun condition rest _ => (bodySteady rest).skip (Statement.block kind condition)
      · refine .of_step (List.suffix_cons token rest) (fun more => ?_)
          ((simpleStatement_steady consumes valueSteady empty token rest).skip id)
        exact outcome_statementWith_identifier value body simple (rest ++ more)
      · exact .refused (.invalidToken token.kind) fun more =>
          outcome_statementWith_invalid value body block simple (rest ++ more)

end Statements

section Sequences

variable {statement : TracedReader Statement}

/-- A loop that reads a statement and goes on fares as its statements do: `reader` is
such a loop at the given tokens, and `others` says so for what it goes on with. -/
theorem sequence_steady {reader : Reader (List Statement)}
    (empty : (∃ statements, reader [] = .ok (statements, [])) ∨
      ∃ error, reader [] = .error error ∧ error.fault = .ending)
    {tokens : List Token}
    (step : ∀ more, reader (tokens ++ more) =
      (statement (tokens ++ more)).outcome >>= fun first =>
        reader first.2 >>= fun others => .ok (first.1 :: others.1, others.2))
    (first : Steady (fun tokens => (statement tokens).outcome) tokens)
    (others : ∀ value rest, (statement tokens).outcome = .ok (value, rest) →
      Steady reader rest) : Steady reader tokens := by
  let next (value : Statement) : Reader (List Statement) := fun tokens =>
    reader tokens >>= fun others => .ok (value :: others.1, others.2)
  have exhausted : ∀ value, Steady.Exhausted next value := by
    intro value
    rcases empty with ⟨statements, read⟩ | ⟨error, failed, fault⟩
    · have ended : next value [] = .ok (value :: statements, []) := by
        simp only [next, read, ok_bind]
      exact .finished ended
    · exact .starved (by simp only [next, failed, error_bind]) fault
  refine .of_step List.suffix_rfl step (.bind next first exhausted ?_)
  exact fun value rest read => (others value rest read).map (value :: ·)

variable (consumes : Consumes fun tokens => (statement tokens).outcome)
  (steady : ∀ tokens, Steady (fun tokens => (statement tokens).outcome) tokens)

include consumes steady

/-- A body fares as its statements do. -/
theorem bodyList_steady (tokens : List Token) : Steady (bodyList statement) tokens := by
  induction length : tokens.length using Nat.strongRecOn generalizing tokens with
  | ind count inductionHypothesis =>
      cases tokens with
      | nil => exact .starved rfl rfl
      | cons token rest =>
          by_cases closing : token.kind = .endWord
          · refine .kept [] (List.suffix_cons token rest) fun more => ?_
            rw [List.cons_append, bodyList_cons consumes, if_pos closing]
          · refine sequence_steady (.inr ⟨_, rfl, rfl⟩) (fun more => ?_) (steady _) ?_
            · rw [List.cons_append, bodyList_cons consumes, if_neg closing]
            · intro value after read
              exact inductionHypothesis after.length (length ▸ consumes read) after rfl

/-- A program fares as its statements do. -/
theorem programList_steady (tokens : List Token) : Steady (programList statement) tokens := by
  induction length : tokens.length using Nat.strongRecOn generalizing tokens with
  | ind count inductionHypothesis =>
      cases tokens with
      | nil => exact .finished rfl
      | cons token rest =>
          refine sequence_steady (.inl ⟨_, rfl⟩) (fun more => ?_) (steady _) ?_
          · rw [List.cons_append, programList_cons consumes]
          · intro value after read
            exact inductionHypothesis after.length (length ▸ consumes read) after rfl

end Sequences

/-- A statement fares as the statements in its body do, and these have a level less. -/
theorem statement_steady (limit allowance : Nat) (tokens : List Token) :
    Steady (fun tokens => (statement limit allowance tokens).outcome) tokens := by
  induction allowance generalizing tokens with
  | zero =>
      rw [statement_eq]
      refine statementWith_steady (expression_consumes limit 0) (expression_steady limit 0)
        (expression_nil limit 0) ?_ ?_ tokens
      · exact fun tokens => .refused (.tooDeep limit) fun _ => rfl
      · exact .inr ⟨_, rfl, fun _ => rfl⟩
  | succ allowance inductionHypothesis =>
      rw [statement_eq]
      refine statementWith_steady (expression_consumes limit _) (expression_steady limit _)
        (expression_nil limit _) ?_ (.inl ⟨_, rfl, rfl⟩) tokens
      intro tokens
      have inner := bodyList_steady (statement_consumes limit allowance) inductionHypothesis
      by_cases remaining : skipNewlines tokens = []
      · have missing : (bodyReader limit (allowance + 1) tokens).outcome =
            .error (.missingToken .endWord) := by
          simp only [bodyReader, body, remaining]
          rfl
        exact .starved missing rfl
      · refine .of_step (skipNewlines_suffix tokens) (fun more => ?_)
          (inner (skipNewlines tokens))
        simp only [bodyReader, body, skipNewlines_append_of_ne remaining]
        rfl

/-- Programs are read steadily: whatever is wrong with tokens, apart from their end,
stays wrong when more of them follow. -/
theorem program_steady (limit : Nat) (tokens : List Token) :
    Steady (programList (statement limit limit)) tokens :=
  programList_steady (statement_consumes limit limit) (statement_steady limit limit) tokens

end Program

end ScriptFront
