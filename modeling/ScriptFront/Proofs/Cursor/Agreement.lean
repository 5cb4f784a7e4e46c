import ScriptFront.Proofs.Cursor.Steps
import ScriptFront.Proofs.Program.Loops

/-!
# The cursor and the readers agree

A walk with a cursor does what the readers do with the tokens that are left: it yields
the same part where they do, and is refused with the same error where they fail. In
between it reports the same events. `Follows` states this for one walk at one cursor,
and is kept by steps in a row, by passing tokens and by opening a level.

The counter and the budget of calls are tied to the allowance of the readers by two
facts about every nested walk: the allowance is what the depth leaves of the limit, and
there are more calls left than levels. So no budget is ever used up, no level is closed
that was not open, and the only checks that refuse tokens are those that can fail.
-/

namespace ScriptFront

open Program

/-- Whether some tokens fail the check. The others are made where an earlier one has
succeeded already. -/
def Check.canFail : Check → Bool
  | .statementToken => false
  | .statementStart => true
  | .operand => true
  | .connective => false
  | .expected kind => kind = .equal || kind = .parenthesisClose
  | .literal _ => true
  | .body => true
  | .expressionLevel => true
  | .connectiveLevel => true
  | .blockLevel => false

namespace Traced

variable {Error Result Next : Type}

/-- Steps in a row that report nothing are one step that reports nothing. -/
theorem ofExcept_bind (step : Except Error Result) (next : Result → Except Error Next) :
    Traced.ofExcept (step >>= next) =
      Traced.ofExcept step >>= fun result => .ofExcept (next result) := by
  cases step <;> rfl

theorem ofExcept_pure (result : Result) :
    (Traced.ofExcept (pure result) : Traced Error Result) = pure result :=
  rfl

end Traced

/-- How a walk fares beside a run over the tokens that are left: it yields the same part
at the depth it has started from, or is refused with the same error by a check that can
fail. Either way it has reported the same events, and an error after them. -/
inductive Follows {Part : Type} (limit : Nat) (start : Cursor)
    (run : Traced SyntaxError (Part × List Token)) (result : EStateM.Result Stop Cursor Part) :
    Prop where
  | read {part : Part} {used tokens : List Token} (outcome : run.outcome = .ok (part, tokens))
      (shape : start.rest = used ++ tokens)
      (walked : result = .ok part (start.after used.length run.events))
  | refused {check : Check} {error : SyntaxError} {count depth : Nat}
      (outcome : run.outcome = .error error) (canFail : check.canFail = true)
      (within : count ≤ start.rest.length) (shallow : depth ≤ limit + 1)
      (walked : result = .error (.refused check error)
        ((start.after count (run.events ++ [.rejected error])).atDepth depth))

namespace Follows

variable {Part Next : Type} {limit : Nat} {start : Cursor}
  {run : Traced SyntaxError (Part × List Token)}

/-- Tokens in front and events, and what follows after them. -/
theorem pass (used : List Token) (events : List Event) {tokens : List Token}
    {result : EStateM.Result Stop Cursor Part} (shape : start.rest = used ++ tokens)
    (follows : Follows limit (start.after used.length events) run result) :
    Follows limit start ⟨events ++ run.events, run.outcome⟩ result := by
  have passed := Cursor.rest_after used shape events
  cases follows with
  | @read part more others outcome remaining walked =>
      rw [passed] at remaining
      have split : start.rest = (used ++ more) ++ others := by
        rw [shape, remaining, List.append_assoc]
      refine .read outcome split ?_
      rw [walked, Cursor.after_after, List.length_append]
  | @refused check error count depth outcome canFail within shallow walked =>
      rw [passed] at within
      have bounded : used.length + count ≤ start.rest.length := by
        rw [shape, List.length_append]
        omega
      refine .refused outcome canFail bounded shallow ?_
      rw [walked, Cursor.after_after, List.append_assoc]

/-- One token in front, and what follows after it. -/
theorem passOne {walk : Walk Part} {token : Token} {tokens : List Token}
    (shape : start.rest = token :: tokens)
    (following : ∀ middle : Cursor, middle.rest = tokens → middle.depth = start.depth →
      Follows limit middle run (walk.run middle)) :
    Follows limit start run (walk.run (start.after 1 [])) :=
  pass [token] [] shape (following _ (Cursor.rest_after_one shape []) rfl)

/-- A walk that ends where it is. -/
theorem done {tokens : List Token} (remaining : start.rest = tokens) (part : Part) :
    Follows limit start (pure (part, tokens)) ((pure part : Walk Part).run start) := by
  have stays : (pure part : Walk Part).run start = .ok part (start.after 0 []) := by
    rw [Cursor.after_zero]
    rfl
  have split : start.rest = [] ++ tokens := remaining
  exact .read rfl split stays

/-- Two steps in a row. -/
theorem bind {walk : Walk Part} {continuation : Part → Walk Next}
    {next : Part × List Token → Traced SyntaxError (Next × List Token)}
    (first : Follows limit start run (walk.run start))
    (following : ∀ (part : Part) (middle : Cursor), run.outcome = .ok (part, middle.rest) →
      middle.depth = start.depth →
        Follows limit middle (next (part, middle.rest)) ((continuation part).run middle)) :
    Follows limit start (run >>= next) ((walk >>= continuation).run start) := by
  obtain ⟨events, ending⟩ := run
  cases first with
  | @read part used tokens outcome shape walked =>
      cases outcome
      rw [Walk.run_bind_ok walked]
      obtain rfl : _ = tokens := Cursor.rest_after used shape events
      exact pass used events shape (following part _ rfl rfl)
  | refused outcome canFail within shallow walked =>
      cases outcome
      rw [Walk.run_bind_error walked]
      exact .refused rfl canFail within shallow rfl

/-- A part that is only seen in another way. -/
theorem map {walk : Walk Part} (follows : Follows limit start run (walk.run start))
    (view : Part → Next) :
    Follows limit start (run >>= fun found => pure (view found.1, found.2))
      ((walk >>= fun part => pure (view part)).run start) :=
  follows.bind fun part _ _ _ => done rfl (view part)

/-- A check that refuses the tokens. -/
theorem refuse {check : Check} {error : SyntaxError} (canFail : check.canFail = true)
    (shallow : start.depth ≤ limit) :
    Follows limit start (Traced.fail error : Traced SyntaxError (Part × List Token))
      ((Walk.refuse check error).run start) :=
  .refused rfl canFail (Nat.zero_le _) (Nat.le_succ_of_le shallow) rfl

/-- What the token in front carries, and what follows after it. -/
theorem literal {token : Token} {tokens : List Token} {kind : Kind}
    (shape : start.rest = token :: tokens) (same : token.kind = kind)
    (shallow : start.depth ≤ limit) (valueOf : Token → Except SyntaxError Part)
    {continuation : Part → Walk Next} {next : Part → Traced SyntaxError (Next × List Token)}
    (following : ∀ (value : Part) (middle : Cursor), middle.rest = tokens →
      middle.depth = start.depth →
        Follows limit middle (next value) ((continuation value).run middle)) :
    Follows limit start (.ofExcept (valueOf token) >>= next)
      ((Walk.literal kind valueOf >>= continuation).run start) := by
  cases carried : valueOf token with
  | error error =>
      rw [Walk.run_bind_error (Walk.run_literal_error shape same carried)]
      refine .refused rfl rfl ?_ (Nat.le_succ_of_le shallow) rfl
      rw [shape]
      exact Nat.succ_le_succ (Nat.zero_le _)
  | ok value =>
      rw [Walk.run_bind_ok (Walk.run_literal_ok shape same carried)]
      exact passOne shape (following value)

/-- What the token in front carries, seen in another way. -/
theorem literalView {token : Token} {tokens : List Token} {kind : Kind}
    (shape : start.rest = token :: tokens) (same : token.kind = kind)
    (shallow : start.depth ≤ limit) (valueOf : Token → Except SyntaxError Part)
    (view : Part → Next) :
    Follows limit start (.ofExcept ((valueOf token).map view >>= fun value => .ok (value, tokens)))
      ((view <$> Walk.literal kind valueOf).run start) := by
  have seen : Traced.ofExcept ((valueOf token).map view >>= fun value => .ok (value, tokens)) =
      .ofExcept (valueOf token) >>= fun value => pure (view value, tokens) := by
    cases valueOf token <;> rfl
  rw [seen, map_eq_pure_bind]
  exact literal shape same shallow valueOf fun value _ reached _ => done reached (view value)

/-- A level around a part that takes one. -/
theorem level {check : Check} {inner : Walk Part} (room : start.depth < limit)
    (follows : Follows limit (start.atDepth (start.depth + 1)) run
      (inner.run (start.atDepth (start.depth + 1)))) :
    Follows limit start run ((Walk.level check limit inner).run start) := by
  rw [Walk.level, Walk.run_bind_ok (Walk.run_descend room)]
  cases follows with
  | read outcome shape walked =>
      rw [Walk.run_bind_ok walked]
      exact .read outcome shape rfl
  | refused outcome canFail within shallow walked =>
      rw [Walk.run_bind_error walked]
      exact .refused outcome canFail within shallow rfl

end Follows

section Expressions

variable {limit depth : Nat} {nested : Walk Expression} {reader : Reader Expression}

/-- A walk from a depth follows a reader of the tokens that are left. -/
def FollowsReader (limit depth : Nat) (walk : Walk Expression) (reader : Reader Expression) :
    Prop :=
  ∀ start : Cursor, start.depth = depth →
    Follows limit start (.ofExcept (reader start.rest)) (walk.run start)

section Calls

variable (consumes : Consumes reader) (follows : FollowsReader limit depth nested reader)
  (shallow : depth ≤ limit) {start : Cursor} (level : start.depth = depth)

include consumes follows shallow level

/-- Arguments up to the closing parenthesis. -/
theorem argumentLoop_follows {turns most : Nat} (enough : start.rest.length < turns)
    (otherEnough : start.rest.length < most) :
    Follows limit start (.ofExcept (argumentsWithin reader most start.rest))
      ((Walk.argumentLoop nested turns >>= fun values =>
        Walk.expect .parenthesisClose >>= fun _ => pure values).run start) := by
  induction turns generalizing most start with
  | zero => exact absurd enough (Nat.not_lt_zero _)
  | succ turns inductionHypothesis =>
      cases most with
      | zero => exact absurd otherEnough (Nat.not_lt_zero _)
      | succ most =>
          simp only [Walk.argumentLoop, argumentsWithin, bind_assoc, Traced.ofExcept_bind]
          refine (follows start level).bind fun first middle read middleLevel => ?_
          have shorter := consumes read
          have middleShallow : middle.depth ≤ limit := by omega
          cases remaining : middle.rest with
          | nil =>
              rw [Walk.run_bind_ok (Walk.run_take_nil remaining _)]
              simp only [Bool.false_eq_true, if_false, pure_bind]
              rw [EStateM.run_bind, Walk.run_expect_nil remaining]
              exact .refuse rfl middleShallow
          | cons token tokens =>
              rw [remaining, List.length_cons] at shorter
              by_cases comma : token.kind = .comma
              · rw [Walk.run_bind_ok (Walk.run_take_same remaining comma)]
                simp only [if_true, if_pos comma, Traced.ofExcept_bind]
                refine .passOne remaining fun following reached followingLevel => ?_
                subst reached
                have sameLevel : following.depth = depth := by omega
                have enoughTurns : following.rest.length < turns := by omega
                have enoughMost : following.rest.length < most := by omega
                have others :=
                  (inductionHypothesis sameLevel enoughTurns enoughMost).map (first :: ·)
                simpa only [bind_assoc, pure_bind, Traced.ofExcept_pure] using others
              · rw [Walk.run_bind_ok (Walk.run_take_other remaining comma)]
                simp only [Bool.false_eq_true, if_false, if_neg comma, pure_bind]
                by_cases closing : token.kind = .parenthesisClose
                · rw [Walk.run_bind_ok (Walk.run_expect_same remaining closing)]
                  simp only [Program.expect, if_pos closing]
                  exact .passOne remaining fun after reached _ => .done reached [first]
                · rw [EStateM.run_bind, Walk.run_expect_other remaining closing]
                  simp only [Program.expect, if_neg closing]
                  exact .refuse rfl middleShallow

/-- The parentheses of a call and what is between them. -/
theorem arguments_follows {opening : Token} {tokens : List Token}
    (shape : start.rest = opening :: tokens) (openingKind : opening.kind = .parenthesisOpen) :
    Follows limit start (.ofExcept (arguments reader tokens))
      ((Walk.arguments nested).run start) := by
  rw [Walk.arguments, Walk.run_bind_ok (Walk.run_expect_same shape openingKind)]
  refine .passOne shape fun middle reached middleLevel => ?_
  -- Unless the call is closed at once, its arguments are read with the closing parenthesis.
  have filled : ∀ most, middle.rest.length < most →
      Follows limit middle (.ofExcept (argumentsWithin reader most tokens))
        ((Walk.remaining >>= fun count => Walk.argumentLoop nested (count + 1) >>= fun values =>
          Walk.expect .parenthesisClose >>= fun _ => pure values).run middle) := by
    intro most enough
    rw [Walk.run_bind_ok (Walk.run_remaining middle), ← reached]
    exact argumentLoop_follows consumes follows shallow (middleLevel.trans level)
      (Nat.lt_succ_self _) enough
  cases tokens with
  | nil =>
      rw [Walk.run_bind_ok (Walk.run_take_nil reached _)]
      exact filled 1 (by rw [reached]; exact Nat.zero_lt_one)
  | cons token rest =>
      by_cases closing : token.kind = .parenthesisClose
      · rw [Walk.run_bind_ok (Walk.run_take_same reached closing), Program.arguments,
          if_pos closing]
        exact .passOne reached fun after remaining _ => .done remaining []
      · rw [Walk.run_bind_ok (Walk.run_take_other reached closing), Program.arguments,
          if_neg closing]
        exact filled _ (by rw [reached]; exact Nat.lt_succ_self _)

/-- A name and its arguments. -/
theorem call_follows {name opening : Token} {tokens : List Token}
    (shape : start.rest = name :: opening :: tokens) (nameKind : name.kind = .identifier)
    (openingKind : opening.kind = .parenthesisOpen) :
    Follows limit start
      (.ofExcept (nameOf name) >>= fun name => .ofExcept (arguments reader tokens) >>=
        fun found => pure ((name, found.1), found.2))
      ((Walk.call nested).run start) := by
  have startShallow : start.depth ≤ limit := level ▸ shallow
  refine .literal shape nameKind startShallow nameOf fun name middle reached middleLevel => ?_
  exact (arguments_follows consumes follows shallow (middleLevel.trans level) reached
    openingKind).map (name, ·)

end Calls

/-- How a walk over names and connectives fares. It has collected the links of a chain
with their levels open, and the expression in front is that chain with the expression
after it, or it is refused as the expression in front is. -/
inductive Collects (limit : Nat) (start : Cursor)
    (result : EStateM.Result Stop Cursor (List (String × Connective))) : Prop where
  | collected (links : List (String × Connective)) {used tokens : List Token}
      (shape : start.rest = used ++ tokens) (room : start.depth + links.length ≤ limit)
      (walked : result = .ok links
        ((start.after used.length []).atDepth (start.depth + links.length)))
      (read : expression limit (limit - start.depth + 1) start.rest =
        expression limit (limit - (start.depth + links.length)) tokens >>= fun last =>
          .ok (Expression.chain links last.1, last.2))
  | refused {check : Check} {error : SyntaxError} {count depth : Nat}
      (read : expression limit (limit - start.depth + 1) start.rest = .error error)
      (canFail : check.canFail = true) (within : count ≤ start.rest.length)
      (shallow : depth ≤ limit + 1)
      (walked : result = .error (.refused check error)
        ((start.after count [.rejected error]).atDepth depth))

section Chains

variable {start : Cursor} {first second : Token} {tokens : List Token} {connective : Connective}

/-- An operation begins with an identifier and a connective. -/
theorem startsOperation_iff : startsOperation tokens = true ↔
    ∃ first second rest connective, tokens = first :: second :: rest ∧
      first.kind = .identifier ∧ Connective.ofKind? second.kind = some connective := by
  constructor
  · intro starts
    rcases tokens with _ | ⟨first, _ | ⟨second, rest⟩⟩
    · cases starts
    · cases starts
    · simp only [startsOperation, Bool.and_eq_true, decide_eq_true_eq,
        Option.isSome_iff_exists] at starts
      obtain ⟨identifier, connective, found⟩ := starts
      exact ⟨first, second, rest, connective, rfl, identifier, found⟩
  · rintro ⟨first, second, rest, connective, rfl, identifier, found⟩
    simp [startsOperation, identifier, found]

/-- An operation is read as its name, its connective and what is on the right. -/
theorem expression_link (limit allowance : Nat) (nameKind : first.kind = .identifier)
    (found : Connective.ofKind? second.kind = some connective) (tokens : List Token) :
    expression limit (allowance + 1) (first :: second :: tokens) =
      nameOf first >>= fun name => rightReader limit allowance tokens >>= fun right =>
        .ok (.operation connective (.identifier name) right.1, right.2) := by
  have noCall : second.kind ≠ .parenthesisOpen := by
    intro opening
    rw [opening] at found
    cases found
  rw [expression_succ, operand_cons, if_pos nameKind]
  simp only [afterName, if_neg noCall, found]
  rfl

/-- One turn of the loop over names and connectives. -/
theorem links_turn {name : String} (shape : start.rest = first :: second :: tokens)
    (nameKind : first.kind = .identifier)
    (found : Connective.ofKind? second.kind = some connective)
    (named : nameOf first = .ok name) (turns : Nat) :
    (Walk.links limit (turns + 1)).run start =
      (Walk.descend .connectiveLevel limit >>= fun _ => Walk.atOperation >>= fun more =>
        if more then Walk.links limit turns >>= fun others => pure ((name, connective) :: others)
        else pure [(name, connective)]).run (start.after 2 []) := by
  have reached : (start.after 1 []).rest = second :: tokens := Cursor.rest_after_one shape []
  have advanced : Walk.advance.run (start.after 1 []) = .ok () (start.after 2 []) :=
    congrArg (EStateM.Result.ok ()) (Cursor.after_after ..)
  rw [Walk.links, Walk.run_bind_ok (Walk.run_literal_ok shape nameKind named),
    Walk.run_bind_ok (Walk.run_ahead ..), reached]
  simp only [List.getElem?_cons_zero, found]
  rw [Walk.run_bind_ok advanced]

/-- A link in front of those that are collected after it. -/
theorem Collects.link {name : String} {walk : Walk (List (String × Connective))}
    (shape : start.rest = first :: second :: tokens)
    (linked : expression limit (limit - start.depth + 1) start.rest =
      expression limit (limit - (start.depth + 1) + 1) tokens >>= fun right =>
        .ok (.operation connective (.identifier name) right.1, right.2))
    (collects : Collects limit ((start.after 2 []).atDepth (start.depth + 1))
      (walk.run ((start.after 2 []).atDepth (start.depth + 1)))) :
    Collects limit start ((walk >>= fun others => pure ((name, connective) :: others)).run
      ((start.after 2 []).atDepth (start.depth + 1))) := by
  have reached : (start.after 2 []).rest = tokens := Cursor.rest_after_two shape []
  cases collects with
  | @collected links used others split room walked read =>
      rw [Cursor.rest_atDepth, reached] at split read
      have whole : start.rest = (first :: second :: used) ++ others := by
        rw [shape, split]
        rfl
      have deeper : start.depth + 1 + links.length = start.depth + (links.length + 1) := by
        omega
      refine .collected ((name, connective) :: links) whole ?_ ?_ ?_
      · exact deeper ▸ room
      · have count : 2 + used.length = used.length + 1 + 1 := by omega
        rw [Walk.run_bind_ok walked]
        simp only [EStateM.run_pure, Cursor.after_atDepth, Cursor.atDepth_atDepth,
          Cursor.after_after, List.append_nil, List.length_cons, count]
        exact congrArg _ (congrArg _ deeper)
      · refine linked.trans ((congrArg (· >>= _) read).trans ?_)
        change _ = expression limit (limit - (start.depth + (links.length + 1))) others >>= _
        rw [← deeper]
        exact bind_assoc ..
  | @refused check error count depth read canFail within shallow walked =>
      rw [Cursor.rest_atDepth, reached] at within read
      have bounded : 2 + count ≤ start.rest.length := by
        rw [shape, List.length_cons, List.length_cons]
        omega
      refine .refused (linked.trans (congrArg (· >>= _) read)) canFail bounded shallow ?_
      rw [Walk.run_bind_error walked, Cursor.after_atDepth, Cursor.atDepth_atDepth,
        Cursor.after_after]
      rfl

/-- The links of a chain are collected one after another. -/
theorem links_collects {turns : Nat} (operation : startsOperation start.rest = true)
    (enough : start.rest.length ≤ turns) (shallow : start.depth ≤ limit) :
    Collects limit start ((Walk.links limit turns).run start) := by
  induction turns generalizing start with
  | zero =>
      rw [List.length_eq_zero_iff.mp (Nat.le_zero.mp enough)] at operation
      cases operation
  | succ turns inductionHypothesis =>
      obtain ⟨first, second, tokens, connective, shape, nameKind, found⟩ :=
        startsOperation_iff.mp operation
      have linked := expression_link limit (limit - start.depth) nameKind found tokens
      rw [← shape] at linked
      cases named : nameOf first with
      | error error =>
          rw [named] at linked
          rw [Walk.links, Walk.run_bind_error (Walk.run_literal_error shape nameKind named)]
          have within : 1 ≤ start.rest.length := by simp [shape]
          exact .refused linked rfl within (Nat.le_succ_of_le shallow) rfl
      | ok name =>
          rw [named, ok_bind] at linked
          rw [links_turn shape nameKind found named turns]
          rcases Nat.lt_or_eq_of_le shallow with room | full
          · have allowance : limit - start.depth = limit - (start.depth + 1) + 1 := by omega
            have passed : (start.after 2 []).depth < limit := room
            have reached : (start.after 2 []).rest = tokens := Cursor.rest_after_two shape []
            rw [allowance, rightReader, rightSide] at linked
            rw [Walk.run_bind_ok (Walk.run_descend passed),
              Walk.run_bind_ok (Walk.run_atOperation _), Cursor.rest_atDepth, reached]
            by_cases more : startsOperation tokens = true
            · rw [if_pos more] at linked ⊢
              have fewer : tokens.length ≤ turns := by
                rw [shape, List.length_cons, List.length_cons] at enough
                omega
              rw [← reached] at more fewer
              exact .link shape (allowance ▸ linked) (inductionHypothesis more fewer room)
            · rw [if_neg more] at linked ⊢
              have collected : start.rest = [first, second] ++ tokens := shape
              refine .collected [(name, connective)] collected room rfl ?_
              rw [allowance]
              exact linked
          · have passed : (start.after 2 []).depth = limit := full
            rw [full, Nat.sub_self] at linked
            rw [Walk.run_bind_error (Walk.run_descend_full passed), Cursor.after_after]
            refine .refused ?_ rfl ?_ (Nat.le_refl _) rfl
            · rw [full, Nat.sub_self]
              exact linked
            · simp [shape]

/-- A chain of connectives is the expression in front, if every expression after it is
read at the depth that the chain has reached. -/
theorem operation_follows (operation : startsOperation start.rest = true)
    (shallow : start.depth ≤ limit)
    (follows : ∀ depth, start.depth ≤ depth → depth ≤ limit →
      FollowsReader limit depth nested (expression limit (limit - depth))) :
    Follows limit start (.ofExcept (expression limit (limit - start.depth + 1) start.rest))
      ((Walk.operation limit nested).run start) := by
  rw [Walk.operation, Walk.run_bind_ok (Walk.run_remaining start)]
  cases links_collects operation (Nat.le_succ _) shallow with
  | @refused check error count depth read canFail within shallow walked =>
      rw [Walk.run_bind_error walked, read]
      exact .refused rfl canFail within shallow rfl
  | @collected links used tokens shape room walked read =>
      rw [Walk.run_bind_ok walked]
      have reached : ((start.after used.length []).atDepth (start.depth + links.length)).rest =
          tokens := Cursor.rest_after used shape []
      have last := follows _ (Nat.le_add_right _ _) room
        ((start.after used.length []).atDepth (start.depth + links.length)) rfl
      rw [reached] at last
      rw [read]
      cases last with
      | @read value more others outcome split walkedLast =>
          rw [reached] at split
          rw [Walk.run_bind_ok walkedLast]
          have whole : start.rest = (used ++ more) ++ others := by
            rw [shape, split, List.append_assoc]
          have readLast : expression limit (limit - (start.depth + links.length)) tokens =
              .ok (value, others) := outcome
          rw [readLast, ok_bind]
          refine .read rfl whole ?_
          rw [Walk.run_bind_ok (Walk.run_ascend (Nat.le_add_left links.length start.depth))]
          simp only [EStateM.run_pure, Cursor.after_atDepth, Cursor.atDepth_atDepth,
            Cursor.after_after, List.length_append]
          exact congrArg (EStateM.Result.ok _) (congrArg _ (Nat.add_sub_cancel ..))
      | @refused check error count depth outcome canFail within shallow walkedLast =>
          rw [reached] at within
          have bounded : used.length + count ≤ start.rest.length := by
            rw [shape, List.length_append]
            omega
          have failed : expression limit (limit - (start.depth + links.length)) tokens =
              .error error := outcome
          rw [failed, error_bind]
          refine .refused rfl canFail bounded shallow ?_
          rw [Walk.run_bind_error walkedLast]
          simp only [Cursor.after_atDepth, Cursor.atDepth_atDepth, Cursor.after_after]
          rfl

end Chains

/-- A truth value in front is passed. -/
theorem run_boolean {start : Cursor} {token : Token} {tokens : List Token}
    (shape : start.rest = token :: tokens) :
    Walk.boolean.run start = .ok (.boolean (token.kind = .trueWord)) (start.after 1 []) := by
  rw [Walk.boolean, Walk.run_bind_ok (Walk.run_sees ..), shape]
  rfl

/-- A token other than an identifier is an operand of its own, or none. -/
theorem atom_follows {start : Cursor} {token : Token} {tokens : List Token}
    (shape : start.rest = token :: tokens) (other : token.kind ≠ .identifier)
    (shallow : start.depth ≤ limit) :
    Follows limit start (.ofExcept (atom token >>= fun value => .ok (value, tokens)))
      ((Walk.operand limit nested).run start) := by
  rw [Walk.operand, Walk.run_bind_ok (Walk.run_ahead ..), shape]
  simp only [List.getElem?_cons_zero]
  cases kind : token.kind <;> simp only [atom, kind]
  case identifier => exact absurd kind other
  case string => exact .literalView shape kind shallow contentOf Expression.string
  case number => exact .literalView shape kind shallow numberOf Expression.number
  case trueWord =>
    rw [run_boolean shape, kind]
    exact .passOne shape fun middle reached _ => .done reached (Expression.boolean true)
  case falseWord =>
    rw [run_boolean shape, kind]
    exact .passOne shape fun middle reached _ => .done reached (Expression.boolean false)
  all_goals exact .refuse rfl shallow

/-- An identifier is called, or begins a chain, or stands alone. -/
theorem run_operand_identifier {start : Cursor} {token : Token} {tokens : List Token}
    (shape : start.rest = token :: tokens) (identifier : token.kind = .identifier) :
    (Walk.operand limit nested).run start =
      (if tokens.head?.any fun second => second.kind = .parenthesisOpen then
        Walk.call nested >>= fun found => pure (.call found.1 found.2)
      else if startsOperation start.rest then Walk.operation limit nested
      else .identifier <$> Walk.literal .identifier nameOf : Walk Expression).run start := by
  have second : start.rest[1]? = tokens.head? := by
    rw [shape, List.getElem?_cons_succ, List.head?_eq_getElem?]
  rw [Walk.operand, Walk.run_bind_ok (Walk.run_ahead ..), shape]
  simp only [List.getElem?_cons_zero, identifier]
  rw [Walk.run_bind_ok (Walk.run_sees ..), second]
  split
  · rfl
  · rw [Walk.run_bind_ok (Walk.run_atOperation _), shape, map_eq_pure_bind]

/-- An identifier that is not called and begins no chain is an expression. -/
theorem expression_alone (limit allowance : Nat) {token : Token} {tokens : List Token}
    (identifier : token.kind = .identifier)
    (uncalled : ¬ (tokens.head?.any fun second => second.kind = .parenthesisOpen) = true)
    (unlinked : ¬ startsOperation (token :: tokens) = true) :
    expression limit (allowance + 1) (token :: tokens) =
      (nameOf token).map .identifier >>= fun value => .ok (value, tokens) := by
  rw [expression_succ, operand_cons, if_pos identifier]
  cases tokens with
  | nil => cases nameOf token <;> rfl
  | cons second tokens =>
      have noCall : second.kind ≠ .parenthesisOpen := by simpa using uncalled
      have noLink : Connective.ofKind? second.kind = none := by
        simpa [startsOperation, identifier] using unlinked
      simp only [afterName, if_neg noCall, noLink]
      cases nameOf token <;> rfl

/-- An operand is the expression in front, at the depth that it has opened. -/
theorem operand_follows {start : Cursor} (shallow : start.depth ≤ limit)
    (follows : ∀ depth, start.depth ≤ depth → depth ≤ limit →
      FollowsReader limit depth nested (expression limit (limit - depth))) :
    Follows limit start (.ofExcept (expression limit (limit - start.depth + 1) start.rest))
      ((Walk.operand limit nested).run start) := by
  cases shape : start.rest with
  | nil =>
      rw [expression_succ, Walk.operand, Walk.run_bind_ok (Walk.run_ahead ..), shape]
      exact .refuse rfl shallow
  | cons token tokens =>
      by_cases identifier : token.kind = .identifier
      · rw [run_operand_identifier shape identifier]
        by_cases called : (tokens.head?.any fun second => second.kind = .parenthesisOpen) = true
        · rw [if_pos called]
          cases tokens with
          | nil => cases called
          | cons second tokens =>
              have opening : second.kind = .parenthesisOpen := by simpa using called
              have nestedFollows := follows start.depth (Nat.le_refl _) shallow
              have call := (call_follows (expression_consumes limit _) nestedFollows shallow rfl
                shape identifier opening).map fun found => Expression.call found.1 found.2
              rw [expression_succ, operand_cons, if_pos identifier]
              simp only [afterName, if_pos opening, Traced.ofExcept_bind, Traced.ofExcept_pure]
              simpa only [bind_assoc, pure_bind] using call
        · rw [if_neg called]
          split
          · next operation =>
            rw [← shape]
            exact operation_follows operation shallow follows
          · next single =>
            rw [shape] at single
            rw [expression_alone limit _ identifier called single]
            exact .literalView shape identifier shallow nameOf Expression.identifier
      · rw [expression_succ, operand_cons, if_neg identifier]
        exact atom_follows shape identifier shallow

/-- An expression is read as far as the levels that are left at its depth allow, if there
are more calls than such levels. -/
theorem expression_follows (limit : Nat) {calls depth : Nat} (enough : limit < calls + depth)
    (shallow : depth ≤ limit) :
    FollowsReader limit depth (Walk.expression limit calls) (expression limit (limit - depth)) := by
  induction calls generalizing depth with
  | zero => omega
  | succ calls inductionHypothesis =>
      intro start level
      subst level
      rw [Walk.expression]
      rcases Nat.lt_or_eq_of_le shallow with room | full
      · have allowance : limit - start.depth = limit - (start.depth + 1) + 1 := by omega
        rw [allowance]
        apply Follows.level room
        refine operand_follows room ?_
        intro depth (deeper : start.depth + 1 ≤ depth) bounded
        exact inductionHypothesis (by omega) bounded
      · rw [full, Nat.sub_self, Walk.level, Walk.run_bind_error (Walk.run_descend_full full)]
        exact .refused rfl rfl (Nat.zero_le _) (Nat.le_refl _) rfl

end Expressions

section Statements

variable {limit depth : Nat} {value : Walk Expression} {reader : Reader Expression}
  {block : Walk (List Statement)} {body : TracedReader (List Statement)}

/-- A walk from a depth follows a reader of the tokens that are left, events included. -/
def FollowsTraced {Part : Type} (limit depth : Nat) (walk : Walk Part)
    (reader : TracedReader Part) : Prop :=
  ∀ start : Cursor, start.depth = depth →
    Follows limit start (reader start.rest) (walk.run start)

/-- The line ends after a part are passed over. -/
theorem Follows.lines {Part : Type} {start : Cursor} {walk : Walk Part}
    {run : Traced SyntaxError (Part × List Token)}
    (follows : Follows limit start run (walk.run start)) :
    Follows limit start (run >>= fun found => pure (found.1, skipNewlines found.2))
      ((walk >>= fun part => Walk.remaining >>= fun count => Walk.passLines (count + 1) >>= fun _ =>
        pure part).run start) := by
  refine follows.bind fun part middle _ _ => ?_
  obtain ⟨before, shape, passed⟩ := Walk.run_passLines (Nat.lt_succ_self middle.rest.length)
  rw [Walk.run_bind_ok (Walk.run_remaining middle), Walk.run_bind_ok passed]
  exact .pass before [] shape (.done (Cursor.rest_after before shape []) part)

/-- A call or an assignment. -/
theorem simpleStatement_follows (consumes : Consumes reader)
    (follows : FollowsReader limit depth value reader) (shallow : depth ≤ limit)
    {start : Cursor} (level : start.depth = depth) {token : Token} {tokens : List Token}
    (shape : start.rest = token :: tokens) (identifier : token.kind = .identifier) :
    Follows limit start (.ofExcept (simpleStatement reader token tokens))
      ((Walk.simpleStatement value).run start) := by
  have ahead : start.rest[1]? = tokens.head? := by
    rw [shape, List.getElem?_cons_succ, List.head?_eq_getElem?]
  have startShallow : start.depth ≤ limit := level ▸ shallow
  rw [Walk.simpleStatement, Walk.run_bind_ok (Walk.run_sees ..), ahead]
  simp only [simpleStatement, Traced.ofExcept_bind]
  cases tokens with
  | nil =>
      refine .literal shape identifier startShallow nameOf fun name middle reached middleLevel => ?_
      rw [EStateM.run_bind, Walk.run_expect_nil reached]
      exact .refuse rfl (by omega)
  | cons second tokens =>
      by_cases opening : second.kind = .parenthesisOpen
      · have call := (call_follows consumes follows shallow level shape identifier opening).map
          fun found => Statement.call found.1 found.2
        simp only [List.head?_cons, Option.any_some, opening, decide_true, if_true,
          Traced.ofExcept_bind, Traced.ofExcept_pure]
        simpa only [bind_assoc, pure_bind] using call
      · simp only [List.head?_cons, Option.any_some, opening, decide_false, Bool.false_eq_true,
          if_false]
        refine .literal shape identifier startShallow nameOf
          fun name middle reached middleLevel => ?_
        by_cases equal : second.kind = .equal
        · rw [Walk.run_bind_ok (Walk.run_expect_same reached equal)]
          simp only [Program.expect, if_pos equal]
          refine .passOne reached fun after remaining afterLevel => ?_
          have assigned := (follows after (by omega)).map (Statement.assignment name)
          rw [remaining] at assigned
          simpa only [ok_bind, Traced.ofExcept_bind, Traced.ofExcept_pure] using assigned
        · rw [EStateM.run_bind, Walk.run_expect_other reached equal]
          simp only [Program.expect, if_neg equal]
          exact .refuse rfl (by omega)

/-- A condition and a body, after the word that opens the block. -/
theorem blockStatement_follows (follows : FollowsReader limit depth value reader)
    (inner : ∀ ⦃tokens rest condition⦄, reader tokens = .ok (condition, rest) →
      FollowsTraced limit depth block body)
    {start : Cursor} (level : start.depth = depth) {token : Token} {tokens : List Token}
    (shape : start.rest = token :: tokens) (kind : BlockKind)
    (opening : token.kind = kind.keyword) :
    Follows limit start (blockStatement reader body kind tokens)
      ((Walk.blockStatement value block kind).run start) := by
  rw [Walk.blockStatement, Walk.run_bind_ok (Walk.run_expect_same shape opening)]
  refine .passOne shape fun middle reached middleLevel => ?_
  subst reached
  refine (follows middle (by omega)).bind fun condition after read afterLevel => ?_
  exact (inner read after (by omega)).map (Statement.block kind condition)

/-- A statement with the line ends after it. -/
theorem statementWith_follows (consumes : Consumes reader)
    (follows : FollowsReader limit depth value reader)
    (inner : ∀ ⦃tokens rest condition⦄, reader tokens = .ok (condition, rest) →
      FollowsTraced limit depth block body) (shallow : depth ≤ limit)
    {start : Cursor} (level : start.depth = depth) (filled : start.rest ≠ []) :
    Follows limit start (statementWith reader body start.rest)
      ((Walk.statementWith value block).run start) := by
  obtain ⟨token, tokens, shape⟩ := List.exists_cons_of_ne_nil filled
  rw [Walk.statementWith, Walk.run_bind_ok (Walk.run_ahead ..), shape]
  simp only [List.getElem?_cons_zero, statementWith]
  -- Nothing is passed before the statement is reported.
  refine .pass [] [.statement token.kind] shape ?_
  have reported : (Walk.report (.statement token.kind)).run start =
      .ok () (start.after ([] : List Token).length [.statement token.kind]) := rfl
  have reached := Cursor.rest_after [] shape [.statement token.kind]
  have middleLevel : (start.after ([] : List Token).length [.statement token.kind]).depth =
      depth := level
  rw [Walk.run_bind_ok reported]
  generalize start.after ([] : List Token).length [.statement token.kind] = middle
    at reached middleLevel ⊢
  have middleShallow : middle.depth ≤ limit := middleLevel ▸ shallow
  cases kind : token.kind
  case ifWord =>
    exact (blockStatement_follows follows inner middleLevel reached .conditional kind).lines
  case whileWord =>
    exact (blockStatement_follows follows inner middleLevel reached .loop kind).lines
  case identifier =>
    exact (simpleStatement_follows consumes follows shallow middleLevel reached kind).lines
  all_goals exact (Follows.refuse rfl middleShallow).lines

end Statements

section Sequences

variable {limit depth : Nat} {walk : Walk Statement} {reader : TracedReader Statement}
  (consumes : Consumes fun tokens => (reader tokens).outcome)
  (follows : ∀ start : Cursor, start.depth = depth → start.rest ≠ [] →
    Follows limit start (reader start.rest) (walk.run start))

include consumes follows

/-- The statements of a body up to its closing word. -/
theorem bodyLoop_follows (shallow : depth ≤ limit) {turns most : Nat} {start : Cursor}
    (level : start.depth = depth) (enough : start.rest.length < turns)
    (otherEnough : start.rest.length ≤ most) :
    Follows limit start (bodyWithin reader most start.rest)
      ((Walk.bodyLoop walk turns).run start) := by
  induction turns generalizing most start with
  | zero => exact absurd enough (Nat.not_lt_zero _)
  | succ turns inductionHypothesis =>
      rw [Walk.bodyLoop]
      cases shape : start.rest with
      | nil =>
          have missing : bodyWithin reader most [] = Traced.fail (.missingToken .endWord) := by
            cases most <;> rfl
          rw [missing, Walk.run_bind_ok (Walk.run_take_nil shape _)]
          simp only [Bool.false_eq_true, if_false]
          rw [Walk.run_bind_ok (Walk.run_remaining start), shape]
          exact .refuse rfl (level ▸ shallow)
      | cons token tokens =>
          cases most with
          | zero => simp [shape] at otherEnough
          | succ most =>
              by_cases closing : token.kind = .endWord
              · rw [Walk.run_bind_ok (Walk.run_take_same shape closing), bodyWithin, if_pos closing]
                exact .passOne shape fun middle reached _ => .done reached []
              · rw [Walk.run_bind_ok (Walk.run_take_other shape closing), bodyWithin,
                  if_neg closing]
                simp only [Bool.false_eq_true, if_false]
                rw [Walk.run_bind_ok (Walk.run_remaining start), ← shape]
                have filled : start.rest ≠ [] := by simp [shape]
                rw [if_neg (by simpa using filled)]
                refine (follows start level filled).bind fun first middle read middleLevel => ?_
                have shorter := consumes read
                have enoughTurns : middle.rest.length < turns := by omega
                have enoughMost : middle.rest.length ≤ most := by omega
                rw [map_eq_pure_bind]
                exact (inductionHypothesis (middleLevel.trans level) enoughTurns enoughMost).map
                  (first :: ·)

/-- A body with the line ends before it. -/
theorem body_follows (shallow : depth ≤ limit) :
    FollowsTraced limit depth (Walk.body walk) (Program.body reader) := by
  intro start level
  obtain ⟨before, shape, passed⟩ := Walk.run_passLines (Nat.lt_succ_self start.rest.length)
  rw [Walk.body, Walk.run_bind_ok (Walk.run_remaining start), Walk.run_bind_ok passed,
    Walk.run_bind_ok (Walk.run_remaining _), Program.body]
  refine .pass before [] shape ?_
  have reached := Cursor.rest_after before shape []
  rw [← reached]
  exact bodyLoop_follows consumes follows shallow level (Nat.lt_succ_self _) (Nat.le_refl _)

/-- The statements of a program up to the end of the tokens. -/
theorem programLoop_follows {turns most : Nat} {start : Cursor}
    (level : start.depth = depth) (enough : start.rest.length < turns)
    (otherEnough : start.rest.length ≤ most) :
    Follows limit start
      (statementsWithin reader most start.rest >>= fun program => pure (program, []))
      ((Walk.programLoop walk turns).run start) := by
  induction turns generalizing most start with
  | zero => exact absurd enough (Nat.not_lt_zero _)
  | succ turns inductionHypothesis =>
      rw [Walk.programLoop, Walk.run_bind_ok (Walk.run_remaining start)]
      cases shape : start.rest with
      | nil =>
          have ended : statementsWithin reader most [] = pure [] := by
            cases most <;> rfl
          rw [ended]
          exact .done shape []
      | cons token tokens =>
          cases most with
          | zero => simp [shape] at otherEnough
          | succ most =>
              have filled : start.rest ≠ [] := by simp [shape]
              rw [statementsWithin, ← shape, if_neg (by simpa using filled), bind_assoc]
              refine (follows start level filled).bind fun first middle read middleLevel => ?_
              have shorter := consumes read
              have enoughTurns : middle.rest.length < turns := by omega
              have enoughMost : middle.rest.length ≤ most := by omega
              have others :=
                (inductionHypothesis (middleLevel.trans level) enoughTurns enoughMost).map
                  (first :: ·)
              simpa only [map_eq_pure_bind, bind_assoc, pure_bind] using others

end Sequences

/-- A statement is read as far as the levels that are left at its depth allow, if there
are more calls than such levels. -/
theorem statement_follows (limit : Nat) {calls depth : Nat} (enough : limit < calls + depth)
    (shallow : depth ≤ limit) (start : Cursor) (level : start.depth = depth)
    (filled : start.rest ≠ []) :
    Follows limit start (statement limit (limit - depth) start.rest)
      ((Walk.statement limit calls).run start) := by
  induction calls generalizing depth start with
  | zero => omega
  | succ calls inductionHypothesis =>
      rw [Walk.statement, statement_eq]
      refine statementWith_follows (expression_consumes limit _)
        (expression_follows limit enough shallow) ?_ shallow level filled
      intro tokens rest condition read start level
      have room : depth < limit := by
        -- Without a level the condition would have been refused.
        apply Nat.lt_of_le_of_ne shallow
        rintro rfl
        rw [Nat.sub_self] at read
        cases read
      have allowance : limit - depth = limit - (depth + 1) + 1 := by omega
      rw [allowance]
      apply Follows.level (level ▸ room)
      refine body_follows (statement_consumes limit _) ?_ room _ (congrArg (· + 1) level)
      exact inductionHypothesis (by omega) room

/-- How a walk over all tokens ends: with the outcome of a run, all of its events
reported, and at no check but one that can fail. -/
inductive Ends {Part : Type} (run : Traced SyntaxError Part) :
    EStateM.Result Stop Cursor Part → Prop where
  | read {part : Part} {final : Cursor} (outcome : run.outcome = .ok part)
      (reported : final.events = run.events) : Ends run (.ok part final)
  | refused {check : Check} {error : SyntaxError} {final : Cursor}
      (outcome : run.outcome = .error error) (reported : final.events = run.events)
      (canFail : check.canFail = true) : Ends run (.error (.refused check error) final)

/-- A program is read to the same end with a cursor, if there is one call more than there
are levels. -/
theorem program_ends (limit : Nat) (tokens : List Token) :
    Ends (parseWithin limit tokens)
      ((Walk.program limit (limit + 1)).run (Cursor.start tokens)) := by
  have statements : ∀ start : Cursor, start.depth = 0 → start.rest ≠ [] →
      Follows limit start (statement limit limit start.rest)
        ((Walk.statement limit (limit + 1)).run start) :=
    statement_follows limit (Nat.lt_succ_self limit) (Nat.zero_le limit)
  have level : (Cursor.start tokens).depth = 0 := rfl
  have enoughTurns : (Cursor.start tokens).rest.length < tokens.length + 1 := Nat.lt_succ_self _
  have enoughMost : (Cursor.start tokens).rest.length ≤ tokens.length := Nat.le_refl _
  have follows := programLoop_follows (statement_consumes limit limit) statements level
    enoughTurns enoughMost
  rw [Cursor.rest_start] at follows
  rw [Walk.program, Walk.run_bind_ok (Walk.run_remaining _), Cursor.rest_start, parseWithin]
  generalize statementsWithin (statement limit limit) tokens.length tokens = run at follows ⊢
  obtain ⟨events, outcome⟩ := run
  cases outcome with
  | ok program =>
      cases follows with
      | @read _ used _ ended shape walked =>
          cases ended
          rw [Walk.run_bind_ok walked]
          have silent : ((Cursor.start tokens).after used.length (events ++ [])).after 0
              [.parsed program.length] =
                (Cursor.start tokens).after used.length (events ++ [.parsed program.length]) := by
            rw [Cursor.after_after, List.append_nil, Nat.add_zero]
          exact .read rfl (congrArg Cursor.events silent)
      | refused failed canFail within shallow walked => cases failed
  | error error =>
      cases follows with
      | read ended shape walked => cases ended
      | refused failed canFail within shallow walked =>
          cases failed
          rw [Walk.run_bind_error walked]
          exact .refused rfl rfl canFail

end ScriptFront
