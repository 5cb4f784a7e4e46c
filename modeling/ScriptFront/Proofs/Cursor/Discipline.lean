import ScriptFront.Proofs.Cursor.CallBudget

/-!
# Where walks leave the cursor

While it reads, a walk opens levels and closes them again, those of a whole chain of
connectives at once, and some of its steps pass a token without a check. Wherever it
begins, it closes what it has opened and never leaves the tokens: what it reads moves the
cursor forward and keeps its depth, and where it is refused at most one level more is open
than there are. No walk ends in another way, so no loop and no recursion uses up its
budget, and no level is closed that is not open.
-/

namespace ScriptFront

open Program

/-- How a walk may leave the cursor. A part has been read from at least so many tokens, at
the depth of the start, or a check has refused the tokens. A walk that uses up a budget, or
closes more levels than are open, is not disciplined. -/
inductive Disciplined {Part : Type} (limit least : Nat) (start : Cursor) :
    EStateM.Result Stop Cursor Part → Prop where
  | read {part : Part} {final : Cursor} (tokens : final.tokens = start.tokens)
      (depth : final.depth = start.depth) (forward : start.position + least ≤ final.position)
      (within : final.position ≤ start.tokens.length) :
      Disciplined limit least start (.ok part final)
  | refused {check : Check} {error : SyntaxError} {final : Cursor}
      (tokens : final.tokens = start.tokens) (within : final.position ≤ start.tokens.length)
      (shallow : final.depth ≤ limit + 1) :
      Disciplined limit least start (.error (.refused check error) final)

/-- A cursor does not leave the tokens by passing what is left of them. -/
theorem Cursor.position_add_length_le {start : Cursor} (used : List Token) {tokens : List Token}
    (within : start.position ≤ start.tokens.length) (shape : start.rest = used ++ tokens) :
    start.position + used.length ≤ start.tokens.length := by
  have left := congrArg List.length shape
  rw [Cursor.rest, List.length_drop, List.length_append] at left
  omega

/-- A reader that consumes tokens has used at least one. -/
theorem Program.Consumes.used {Part : Type} {reader : Reader Part} (consumes : Consumes reader)
    {tokens used rest : List Token} {part : Part} (shape : tokens = used ++ rest)
    (read : reader tokens = .ok (part, rest)) : 1 ≤ used.length := by
  have shorter := consumes read
  rw [shape, List.length_append] at shorter
  omega

namespace Disciplined

variable {Part Next : Type} {limit least : Nat} {start : Cursor}
  {result : EStateM.Result Stop Cursor Part}

/-- Tokens in front count as well. -/
theorem pass {count : Nat} {events : List Event}
    (disciplined : Disciplined limit least (start.after count events) result) :
    Disciplined limit (count + least) start result := by
  cases disciplined with
  | read tokens depth forward within =>
      refine .read tokens depth ?_ within
      rw [← Nat.add_assoc]
      exact forward
  | refused tokens within shallow => exact .refused tokens within shallow

/-- A check that refuses the tokens leaves the cursor where it is. -/
theorem refuse {check : Check} {error : SyntaxError}
    (within : start.position ≤ start.tokens.length) (shallow : start.depth ≤ limit) :
    Disciplined limit least start ((Walk.refuse check error : Walk Part).run start) :=
  .refused rfl within (Nat.le_succ_of_le shallow)

/-- A walk that does what a reader does keeps the discipline of what the reader uses. -/
theorem ofFollows {run : Traced SyntaxError (Part × List Token)}
    (within : start.position ≤ start.tokens.length)
    (uses : ∀ ⦃used rest : List Token⦄ ⦃part : Part⦄, start.rest = used ++ rest →
      run.outcome = .ok (part, rest) → least ≤ used.length)
    (follows : Follows limit start run result) : Disciplined limit least start result := by
  cases follows with
  | read outcome shape walked =>
      subst walked
      exact .read rfl rfl (Nat.add_le_add_left (uses shape outcome) _)
        (Cursor.position_add_length_le _ within shape)
  | @refused check error count depth outcome canFail bounded shallow walked =>
      subst walked
      have passed : start.position + (start.rest.take count).length ≤ start.tokens.length :=
        Cursor.position_add_length_le _ within (List.take_append_drop count start.rest).symm
      rw [List.length_take, Nat.min_eq_left bounded] at passed
      exact .refused rfl passed shallow

/-- A walk that does what a consuming reader does passes a token. -/
theorem ofConsumes {reader : Reader Part} {run : Traced SyntaxError (Part × List Token)}
    (within : start.position ≤ start.tokens.length) (consumes : Consumes reader)
    (told : run.outcome = reader start.rest) (follows : Follows limit start run result) :
    Disciplined limit 1 start result :=
  ofFollows within (fun _ _ _ shape read => consumes.used shape (told.symm.trans read)) follows

/-- What follows matters only where the token in front is of the expected kind. -/
theorem expect {kind : Kind} {continuation : Token → Walk Part}
    (within : start.position ≤ start.tokens.length) (shallow : start.depth ≤ limit)
    (following : ∀ token tokens, start.rest = token :: tokens → token.kind = kind →
      Disciplined limit least start ((Walk.expect kind >>= continuation).run start)) :
    Disciplined limit least start ((Walk.expect kind >>= continuation).run start) := by
  cases shape : start.rest with
  | nil =>
      rw [EStateM.run_bind, Walk.run_expect_nil shape]
      exact refuse within shallow
  | cons token tokens =>
      by_cases same : token.kind = kind
      · exact following token tokens shape same
      · rw [EStateM.run_bind, Walk.run_expect_other shape same]
        exact refuse within shallow

/-- A token that carries a value is passed before what follows. -/
theorem literal (least : Nat) {kind : Kind} {valueOf : Token → Except SyntaxError Part}
    {continuation : Part → Walk Next}
    (within : start.position ≤ start.tokens.length) (shallow : start.depth ≤ limit)
    (following : ∀ token tokens value, start.rest = token :: tokens → token.kind = kind →
      start.position + 1 ≤ start.tokens.length →
        Disciplined limit least (start.after 1 []) ((continuation value).run (start.after 1 []))) :
    Disciplined limit (1 + least) start
      ((Walk.literal kind valueOf >>= continuation).run start) := by
  rw [Walk.literal, bind_assoc]
  refine expect within shallow fun token tokens shape same => ?_
  rw [← bind_assoc, ← Walk.literal]
  have passed : start.position + 1 ≤ start.tokens.length :=
    Cursor.position_add_length_le [token] within shape
  cases carried : valueOf token with
  | error error =>
      rw [Walk.run_bind_error (Walk.run_literal_error shape same carried)]
      exact .refused rfl passed (Nat.le_succ_of_le shallow)
  | ok value =>
      rw [Walk.run_bind_ok (Walk.run_literal_ok shape same carried)]
      exact (following token tokens value shape same passed).pass

end Disciplined

section Walks

variable {limit : Nat} {start : Cursor} (within : start.position ≤ start.tokens.length)
  (shallow : start.depth ≤ limit)

include within shallow

/-- An expression takes a level for as long as it is read. -/
theorem expression_disciplined {calls : Nat} (enough : limit < calls + start.depth) :
    Disciplined limit 1 start ((Walk.expression limit calls).run start) :=
  .ofConsumes within (expression_consumes limit _) rfl
    (expression_follows limit enough shallow start rfl)

section Nested

variable {nested : Walk Expression} (follows : ∀ depth, start.depth ≤ depth → depth ≤ limit →
  FollowsReader limit depth nested (expression limit (limit - depth)))

include follows

/-- An operand is read at the level that its expression has taken. -/
theorem operand_disciplined :
    Disciplined limit 1 start ((Walk.operand limit nested).run start) :=
  .ofConsumes within (expression_consumes limit _) rfl (operand_follows shallow follows)

/-- A chain closes as many levels as its connectives have opened. -/
theorem operation_disciplined :
    Disciplined limit 1 start ((Walk.operation limit nested).run start) := by
  by_cases operation : startsOperation start.rest = true
  · exact .ofConsumes within (expression_consumes limit _) rfl
      (operation_follows operation shallow follows)
  · -- The first turn refuses the tokens, at the name or after it.
    rw [Walk.operation, Walk.run_bind_ok (Walk.run_remaining start), Walk.links, bind_assoc]
    refine .literal 0 within shallow ?_
    intro first tokens name shape nameKind passed
    rw [bind_assoc, Walk.run_bind_ok (Walk.run_ahead ..), Cursor.rest_after_one shape]
    cases tokens with
    | nil => exact .refuse passed shallow
    | cons second tokens =>
        have unlinked : Connective.ofKind? second.kind = none := by
          rw [Option.eq_none_iff_forall_ne_some]
          intro connective found
          exact operation (startsOperation_iff.mpr ⟨_, _, _, _, shape, nameKind, found⟩)
        simp only [List.getElem?_cons_zero, unlinked]
        exact .refuse passed shallow

/-- A call is at least a name and a parenthesis, both of which are checked. -/
theorem call_disciplined : Disciplined limit 1 start ((Walk.call nested).run start) := by
  refine .literal 0 within shallow ?_
  intro first tokens name shape nameKind passed
  rw [Walk.arguments, bind_assoc]
  refine .expect passed shallow fun opening others remaining openingKind => ?_
  rw [← bind_assoc, ← Walk.arguments]
  have level : (start.after 1 []).depth = start.depth := rfl
  have arguments := arguments_follows (expression_consumes limit _)
    (follows start.depth (Nat.le_refl _) shallow) shallow level remaining openingKind
  exact .ofFollows passed (fun _ _ _ _ _ => Nat.zero_le _) (arguments.map (name, ·))

end Nested

/-- A statement keeps the depth of the statements before and after it. -/
theorem statement_disciplined {calls : Nat} (enough : limit < calls + start.depth) :
    Disciplined limit 1 start ((Walk.statement limit calls).run start) := by
  cases shape : start.rest with
  | nil =>
      have refused : (Walk.statement limit calls).run start =
          (Walk.refuse .statementToken .unexpectedEnd).run start := by
        cases calls <;> rw [Walk.statement, Walk.statementWith,
          Walk.run_bind_ok (Walk.run_ahead ..), shape] <;> rfl
      rw [refused]
      exact .refuse within shallow
  | cons token tokens =>
      have filled : start.rest ≠ [] := by simp [shape]
      exact .ofConsumes within (statement_consumes limit _) rfl
        (statement_follows limit enough shallow start rfl filled)

/-- A block takes a level for its body and passes the word that closes it. -/
theorem block_disciplined {calls : Nat} (enough : limit < calls + start.depth) :
    Disciplined limit 1 start ((Walk.block limit (Walk.statement limit calls)).run start) := by
  rw [Walk.block]
  rcases Nat.lt_or_eq_of_le shallow with room | full
  · have statements : ∀ inner : Cursor, inner.depth = start.depth + 1 → inner.rest ≠ [] →
        Follows limit inner (statement limit (limit - (start.depth + 1)) inner.rest)
          ((Walk.statement limit calls).run inner) :=
      statement_follows limit (by omega) room
    have body := body_follows (statement_consumes limit _) statements room
      (start.atDepth (start.depth + 1)) rfl
    refine .ofFollows within ?_ (Follows.level room body)
    intro used rest part shape read
    have sound : ∀ smaller < limit - (start.depth + 1) + 1,
        StatementSound (statement limit smaller) smaller :=
      fun smaller _ => statement_sound limit smaller
    obtain ⟨before, inner, closing, remaining, -⟩ := bodyReader_sound sound read
    have lengths := congrArg List.length (shape.symm.trans remaining)
    simp only [List.length_append, List.length_cons] at lengths
    omega
  · rw [Walk.level, Walk.run_bind_error (Walk.run_descend_full full)]
    exact .refused rfl within (Nat.le_refl _)

end Walks

/-- Wherever a walk begins among the tokens and within the limit, it reads what it is for
from at least one token and closes every level it has opened, or it is refused among the
tokens with at most one level too many. So no chain closes more levels than are open, and
no loop or recursion uses up its budget; neither does reading a whole program, whose
outcome is that of the tokens. -/
theorem walks_disciplined :
    (∀ start : Cursor, start.position ≤ start.tokens.length → start.depth ≤ nestingLimit →
      Disciplined nestingLimit 1 start ((Walk.expression nestingLimit 129).run start) ∧
      Disciplined nestingLimit 1 start
        ((Walk.operand nestingLimit (Walk.expression nestingLimit 129)).run start) ∧
      Disciplined nestingLimit 1 start
        ((Walk.operation nestingLimit (Walk.expression nestingLimit 129)).run start) ∧
      Disciplined nestingLimit 1 start
        ((Walk.call (Walk.expression nestingLimit 129)).run start) ∧
      Disciplined nestingLimit 1 start
        ((Walk.block nestingLimit (Walk.statement nestingLimit 129)).run start) ∧
      Disciplined nestingLimit 1 start ((Walk.statement nestingLimit 129).run start)) ∧
    ∀ tokens : List Token,
      Walk.ending? ((Walk.program nestingLimit 129).run (Cursor.start tokens)) =
        some (parse tokens).outcome := by
  refine ⟨fun start within shallow => ?_, ending?_program nestingLimit⟩
  have enough : ∀ depth, nestingLimit < 129 + depth := fun depth => by
    simp only [nestingLimit]
    omega
  have follows : ∀ depth, start.depth ≤ depth → depth ≤ nestingLimit →
      FollowsReader nestingLimit depth (Walk.expression nestingLimit 129)
        (expression nestingLimit (nestingLimit - depth)) :=
    fun depth _ => expression_follows nestingLimit (enough depth)
  exact ⟨expression_disciplined within shallow (enough _),
    operand_disciplined within shallow follows,
    operation_disciplined within shallow follows,
    call_disciplined within shallow follows,
    block_disciplined within shallow (enough _),
    statement_disciplined within shallow (enough _)⟩

/-- The value `a and b` where one level is left: the connective takes it, and the name after
it is refused with one level too many. -/
theorem walks_disciplined_full :
    let start : Cursor := ⟨[⟨.identifier, .text "x"⟩, ⟨.equal, .text "="⟩,
      ⟨.identifier, .text "a"⟩, ⟨.andWord, .text "and"⟩, ⟨.identifier, .text "b"⟩], 2, 127, []⟩
    let result := (Walk.operation nestingLimit (Walk.expression nestingLimit 129)).run start
    (start.position ≤ start.tokens.length ∧ start.depth ≤ nestingLimit) ∧
      Disciplined nestingLimit 1 start result ∧
      result = .error (.refused .expressionLevel (.tooDeep 128))
        ((start.after 2 [.rejected (.tooDeep 128)]).atDepth 129) := by
  refine ⟨⟨by decide, by decide⟩, ?_, rfl⟩
  exact (walks_disciplined.1 _ (by decide) (by decide)).2.2.1

end ScriptFront
