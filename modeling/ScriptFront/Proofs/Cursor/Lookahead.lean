import ScriptFront.Proofs.Cursor.Agreement

/-!
# One token of lookahead

Where a part of a program ends is told by its own tokens and the one after them. A walk
that succeeds over some tokens succeeds over all others that are the same up to the place
where it stops, and at that place: it yields the same part, stops at the same place and
depth and reports the same events.

`Retraces` compares a walk over two lists of tokens that are the same up to some place. It
counts the tokens that are passed at least and those that are looked at beyond the ones
passed. A step may look two tokens ahead if the steps after it pass the first of them. The
budgets of turns come from how many tokens there are, so they may differ between the two
lists; each turn passes a token, and no walk stops where only its budget would make it.

Nothing is assumed of the limit on nesting, the depth of the start or the budget of calls.
-/

namespace ScriptFront

open Program

/-- The same place over other tokens. -/
def Cursor.over (cursor : Cursor) (tokens : List Token) : Cursor :=
  { cursor with tokens := tokens }

/-- Two lists of tokens that are the same up to a place and at it. Either there is a token at
that place in both, or both end there. -/
structure Overlap where
  left : List Token
  right : List Token
  last : Nat
  same : right.take (last + 1) = left.take (last + 1)
  reached : last ≤ right.length

/-- Up to the last place the same tokens are seen. -/
theorem Overlap.getElem?_eq (overlap : Overlap) {place : Nat} (near : place ≤ overlap.last) :
    overlap.right[place]? = overlap.left[place]? := by
  rw [← List.getElem?_take_of_lt (Nat.lt_succ_of_le near), overlap.same,
    List.getElem?_take_of_lt (Nat.lt_succ_of_le near)]

/-- How a walk from a place over the left tokens compares with one over the right tokens.
It passes so many tokens at least, all of them there. If it has looked at no place after
the last one, counting those beyond the tokens passed, the other walk has gone the same
way. Nothing is said of a walk that stops early. -/
inductive Retraces {Part : Type} (overlap : Overlap) (least beyond : Nat) (start : Cursor)
    (walk other : Walk Part) : Prop where
  | read {part : Part} {final : Cursor}
      (walked : walk.run (start.over overlap.left) = .ok part (final.over overlap.left))
      (forward : start.position + least ≤ final.position)
      (within : final.position ≤ max start.position overlap.left.length)
      (again : final.position + beyond ≤ overlap.last →
        other.run (start.over overlap.right) = .ok part (final.over overlap.right))
  | stopped {reason : Stop} {final : Cursor}
      (walked : walk.run (start.over overlap.left) = .error reason final)

namespace Retraces

variable {Part Next : Type} {overlap : Overlap} {least beyond : Nat} {start : Cursor}
  {walk other : Walk Part}

/-- Walks that go on as two others do compare as these do. -/
theorem of_run {before otherBefore : Walk Part}
    (retraces : Retraces overlap least beyond start walk other)
    (left : before.run (start.over overlap.left) = walk.run (start.over overlap.left))
    (right : otherBefore.run (start.over overlap.right) = other.run (start.over overlap.right)) :
    Retraces overlap least beyond start before otherBefore := by
  cases retraces with
  | read walked forward within again =>
      exact .read (left.trans walked) forward within fun near => right.trans (again near)
  | stopped walked => exact .stopped (left.trans walked)

/-- A walk that must look past the last place compares with anything. -/
theorem vacuous {another : Walk Part} (past : overlap.last < start.position + least + beyond)
    (retraces : Retraces overlap least beyond start walk other) :
    Retraces overlap least beyond start walk another := by
  cases retraces with
  | read walked forward within again => exact .read walked forward within fun near => by omega
  | stopped walked => exact .stopped walked

/-- A walk that ends where it is. -/
theorem done (part : Part) : Retraces overlap 0 beyond start (pure part) (pure part) :=
  .read rfl (Nat.le_refl _) (Nat.le_max_left ..) fun _ => rfl

/-- Two steps in a row. What the first one sees beyond the tokens it passes, the second one
passes or sees as well. -/
theorem bind {next otherNext : Part → Walk Next} {firstLeast firstBeyond : Nat}
    (nextLeast : Nat) (first : Retraces overlap firstLeast firstBeyond start walk other)
    (sight : least ≤ firstLeast + nextLeast ∧ firstBeyond ≤ nextLeast + beyond)
    (following : ∀ (part : Part) (middle : Cursor), start.position + firstLeast ≤ middle.position →
      Retraces overlap nextLeast beyond middle (next part) (otherNext part)) :
    Retraces overlap least beyond start (walk >>= next) (other >>= otherNext) := by
  cases first with
  | @read part middle walked forward within again =>
      cases following part middle forward with
      | @read result final walkedNext forwardNext withinNext againNext =>
          refine .read ((Walk.run_bind_ok walked next).trans walkedNext) (by omega) (by omega) ?_
          intro near
          rw [Walk.run_bind_ok (again (by omega)), againNext near]
      | stopped walkedNext => exact .stopped ((Walk.run_bind_ok walked next).trans walkedNext)
  | stopped walked => exact .stopped (Walk.run_bind_error walked next)

/-- A part that is only seen in another way. -/
theorem map (retraces : Retraces overlap least beyond start walk other) (view : Part → Next) :
    Retraces overlap least beyond start (walk >>= fun part => pure (view part))
      (other >>= fun part => pure (view part)) :=
  retraces.bind 0 (by omega) fun part _ _ => done (view part)

/-- A look at a token, and what follows without moving. -/
theorem look {distance : Nat} {next otherNext : Option Token → Walk Part}
    (sight : distance ≤ least + beyond)
    (following : ∀ found, overlap.left[start.position + distance]? = found →
      Retraces overlap least beyond start (next found) (otherNext found)) :
    Retraces overlap least beyond start (Walk.ahead distance >>= next)
      (Walk.ahead distance >>= otherNext) := by
  have followed : Retraces overlap least beyond start
      (next overlap.left[start.position + distance]?)
      (otherNext overlap.right[start.position + distance]?) := by
    by_cases near : start.position + distance ≤ overlap.last
    · rw [overlap.getElem?_eq near]
      exact following _ rfl
    · exact (following _ rfl).vacuous (by omega)
  exact followed.of_run rfl rfl

/-- Whether a token of a kind is ahead, and what follows without moving. -/
theorem sees {distance : Nat} {kind : Kind} {next otherNext : Bool → Walk Part}
    (sight : distance ≤ least + beyond)
    (following : ∀ answer,
      (answer = true → ∃ token, overlap.left[start.position + distance]? = some token) →
        Retraces overlap least beyond start (next answer) (otherNext answer)) :
    Retraces overlap least beyond start (Walk.sees distance kind >>= next)
      (Walk.sees distance kind >>= otherNext) := by
  rw [Walk.sees, bind_assoc, bind_assoc]
  refine look sight fun found seen => following _ fun answer => ?_
  cases found with
  | none => cases answer
  | some token => exact ⟨token, seen⟩

/-- A token that is there is passed. -/
theorem advance {token : Token} (present : overlap.left[start.position]? = some token) :
    Retraces overlap 1 0 start Walk.advance Walk.advance := by
  obtain ⟨within, -⟩ := List.getElem?_eq_some_iff.mp present
  have passed : (start.after 1 []).position ≤ max start.position overlap.left.length :=
    Nat.le_trans within (Nat.le_max_right ..)
  exact .read rfl (Nat.le_refl (start.after 1 []).position) passed fun _ => rfl

/-- A token of the kind is passed if it is in front, and what follows in both cases. -/
theorem take {kind : Kind} {next otherNext : Bool → Walk Part}
    (taken : ∀ middle : Cursor, start.position + 1 ≤ middle.position →
      Retraces overlap 0 beyond middle (next true) (otherNext true))
    (kept : Retraces overlap 0 beyond start (next false) (otherNext false)) :
    Retraces overlap 0 beyond start (Walk.take kind >>= next) (Walk.take kind >>= otherNext) := by
  rw [Walk.take, bind_assoc, bind_assoc]
  refine sees (Nat.zero_le _) fun answer seen => ?_
  cases answer with
  | false => exact kept
  | true =>
      obtain ⟨token, present⟩ := seen rfl
      simp only [if_true, bind_assoc, pure_bind]
      exact (advance present).bind 0 (by omega) fun _ middle passed => taken middle passed

/-- A token of the kind is passed, which must be in front. -/
theorem expect (kind : Kind) :
    Retraces overlap 1 0 start (Walk.expect kind) (Walk.expect kind) := by
  refine look (Nat.zero_le _) fun found present => ?_
  cases found with
  | none => exact .stopped rfl
  | some token =>
      dsimp only
      split
      · exact (advance present).bind 0 (by omega) fun _ _ _ => done token
      · exact .stopped rfl

/-- What the token in front carries, which must be of the kind. -/
theorem literal (kind : Kind) (valueOf : Token → Except SyntaxError Part) :
    Retraces overlap 1 0 start (Walk.literal kind valueOf) (Walk.literal kind valueOf) := by
  refine (expect kind).bind 0 (by omega) fun token middle _ => ?_
  cases valueOf token with
  | ok value => exact done value
  | error error => exact .stopped rfl

/-- A report does not move. -/
theorem report (event : Event) :
    Retraces overlap 0 0 start (Walk.report event) (Walk.report event) :=
  .read rfl (Nat.le_refl (start.after 0 [event]).position) (Nat.le_max_left ..) fun _ => rfl

/-- A level is opened at the same depth. -/
theorem descend (check : Check) (limit : Nat) :
    Retraces overlap 0 0 start (Walk.descend check limit) (Walk.descend check limit) := by
  have opened (tokens : List Token) (room : start.depth + 1 ≤ limit) :
      (Walk.descend check limit).run (start.over tokens) =
        .ok () ((start.atDepth (start.depth + 1)).over tokens) := if_pos room
  by_cases room : start.depth + 1 ≤ limit
  · exact .read (opened _ room) (Nat.le_refl _) (Nat.le_max_left ..) fun _ => opened _ room
  · exact .stopped (if_neg room)

/-- Levels are closed at the same depth. -/
theorem ascend (levels : Nat) :
    Retraces overlap 0 0 start (Walk.ascend levels) (Walk.ascend levels) := by
  have closed (tokens : List Token) (opened : levels ≤ start.depth) :
      (Walk.ascend levels).run (start.over tokens) =
        .ok () ((start.atDepth (start.depth - levels)).over tokens) := if_pos opened
  by_cases opened : levels ≤ start.depth
  · exact .read (closed _ opened) (Nat.le_refl _) (Nat.le_max_left ..) fun _ => closed _ opened
  · exact .stopped (if_neg opened)

/-- A loop with another budget of turns. One turn is left wherever it matters. -/
theorem turns {loop : Nat → Walk Part} {count : Nat}
    (enough : overlap.last < start.position + least + beyond + count)
    (turn : ∀ fewer, overlap.last < start.position + least + beyond + (fewer + 1) →
      Retraces overlap least beyond start walk (loop (fewer + 1))) :
    Retraces overlap least beyond start walk (loop count) := by
  cases count with
  | zero => exact (turn 0 (by omega)).vacuous enough
  | succ fewer => exact turn fewer enough

/-- How many tokens are left is asked without moving. -/
theorem remaining {next otherNext : Nat → Walk Part}
    (following : Retraces overlap least beyond start
      (next (overlap.left.length - start.position))
      (otherNext (overlap.right.length - start.position))) :
    Retraces overlap least beyond start (Walk.remaining >>= next)
      (Walk.remaining >>= otherNext) :=
  following.of_run rfl rfl

/-- Where tokens are left, tokens are left to the other walk as well. -/
theorem going {ended : Walk Part} (more : start.position < overlap.left.length)
    (retraces : Retraces overlap least beyond start walk other) :
    Retraces overlap least beyond start walk
      (if overlap.right.length - start.position = 0 then ended else other) := by
  by_cases near : start.position ≤ overlap.last
  · have present := overlap.getElem?_eq near
    rw [List.getElem?_eq_getElem more] at present
    obtain ⟨bound, -⟩ := List.getElem?_eq_some_iff.mp present
    rw [if_neg (Nat.sub_ne_zero_of_lt bound)]
    exact retraces
  · exact retraces.vacuous (by omega)

/-- Line ends in front are passed. -/
theorem passLines {count another : Nat} (enough : overlap.last < start.position + another) :
    Retraces overlap 0 0 start (Walk.passLines count) (Walk.passLines another) := by
  induction count generalizing start another with
  | zero => exact .stopped rfl
  | succ count inductionHypothesis =>
      refine turns enough fun fewer enough => take (fun middle passed => ?_) (done ())
      exact inductionHypothesis (by omega)

end Retraces

/-- A walk over the left tokens that succeeds compares with the same walk over the right
tokens, wherever both begin. -/
def Nearsighted {Part : Type} (overlap : Overlap) (least beyond : Nat) (walk : Walk Part) : Prop :=
  ∀ start : Cursor, Retraces overlap least beyond start walk walk

section Expressions

variable {overlap : Overlap} {limit : Nat} {nested : Walk Expression}

section Calls

variable (near : Nearsighted overlap 1 0 nested)

include near

/-- Arguments with commas between them. -/
theorem argumentLoop_retraces {start : Cursor} {count another : Nat}
    (enough : overlap.last < start.position + another) :
    Retraces overlap 0 0 start (Walk.argumentLoop nested count)
      (Walk.argumentLoop nested another) := by
  induction count generalizing start another with
  | zero => exact .stopped rfl
  | succ count inductionHypothesis =>
      refine .turns enough fun fewer enough => ?_
      refine (near start).bind 0 (by omega) fun first middle passed => ?_
      refine .take (fun after further => ?_) (.done [first])
      exact (inductionHypothesis (by omega)).map (first :: ·)

/-- The arguments of a call with its parentheses. -/
theorem arguments_nearsighted : Nearsighted overlap 1 0 (Walk.arguments nested) := by
  intro start
  refine (Retraces.expect .parenthesisOpen).bind 0 (by omega) fun opening middle _ => ?_
  refine .take (fun after _ => .done []) (.remaining ?_)
  have reached := overlap.reached
  refine (argumentLoop_retraces near (by omega)).bind 0 (by omega) fun values after _ => ?_
  exact ((Retraces.expect .parenthesisClose).bind 0 (by omega) fun _ _ _ => .done values)

/-- A name and the arguments it is called with. -/
theorem call_nearsighted : Nearsighted overlap 1 0 (Walk.call nested) := by
  intro start
  refine (Retraces.literal .identifier nameOf).bind 1 (by omega) fun name middle _ => ?_
  exact (arguments_nearsighted near middle).map (name, ·)

end Calls

/-- Whether a chain goes on is told by the token in front and the one after it. -/
theorem Retraces.atOperation {start : Cursor} {Part : Type} {least beyond : Nat}
    {next otherNext : Bool → Walk Part} (sight : 1 ≤ least + beyond)
    (following : ∀ answer,
      Retraces overlap least beyond start (next answer) (otherNext answer)) :
    Retraces overlap least beyond start (Walk.atOperation >>= next)
      (Walk.atOperation >>= otherNext) := by
  simp only [Walk.atOperation, bind_assoc, pure_bind]
  exact .sees (Nat.zero_le _) fun named _ => .look sight fun second _ => following _

/-- Names and connectives in turn. Whether another one follows is seen one token beyond
the last of them. -/
theorem links_retraces {start : Cursor} {count another : Nat}
    (enough : overlap.last ≤ start.position + another) :
    Retraces overlap 0 1 start (Walk.links limit count) (Walk.links limit another) := by
  induction count generalizing start another with
  | zero => exact .stopped rfl
  | succ count inductionHypothesis =>
      refine .turns (by omega) fun fewer enough => ?_
      refine (Retraces.literal .identifier nameOf).bind 0 (by omega) fun name middle _ => ?_
      refine .look (Nat.zero_le _) fun found present => ?_
      cases found with
      | none => exact .stopped rfl
      | some token =>
          dsimp only
          cases Connective.ofKind? token.kind with
          | none => exact .stopped rfl
          | some connective =>
              refine (Retraces.advance present).bind 0 (by omega) fun _ after _ => ?_
              refine (Retraces.descend .connectiveLevel limit).bind 0 (by omega)
                fun _ deeper _ => ?_
              refine .atOperation (Nat.le_refl 1) fun more => ?_
              cases more with
              | true => exact (inductionHypothesis (by omega)).map ((name, connective) :: ·)
              | false => exact .done [(name, connective)]

section Nested

variable (near : Nearsighted overlap 1 0 nested)

include near

/-- A chain of connectives. The expression after it passes what was seen beyond them. -/
theorem operation_nearsighted : Nearsighted overlap 1 0 (Walk.operation limit nested) := by
  intro start
  have reached := overlap.reached
  refine .remaining ((links_retraces (by omega)).bind 1 (by omega) fun found middle _ => ?_)
  refine (near middle).bind 0 (by omega) fun last after _ => ?_
  exact (Retraces.ascend found.length).bind 0 (by omega)
    fun _ _ _ => .done (Expression.chain found last)

/-- An expression within the level it has opened. -/
theorem operand_nearsighted : Nearsighted overlap 1 0 (Walk.operand limit nested) := by
  intro start
  refine .look (Nat.zero_le _) fun found present => ?_
  cases found with
  | none => exact .stopped rfl
  | some token =>
      have boolean : Retraces overlap 1 0 start Walk.boolean Walk.boolean :=
        .sees (Nat.zero_le _) fun value _ =>
          (Retraces.advance present).bind 0 (by omega) fun _ _ _ => .done (Expression.boolean value)
      dsimp only
      cases token.kind
      case string => exact (Retraces.literal .string contentOf).map Expression.string
      case number => exact (Retraces.literal .number numberOf).map Expression.number
      case trueWord => exact boolean
      case falseWord => exact boolean
      case identifier =>
        refine .sees (Nat.le_refl 1) fun called _ => ?_
        cases called with
        | true =>
            exact (call_nearsighted near start).map fun found => Expression.call found.1 found.2
        | false =>
            refine .atOperation (Nat.le_refl 1) fun linked => ?_
            cases linked with
            | true => exact operation_nearsighted near start
            | false => exact (Retraces.literal .identifier nameOf).map Expression.identifier
      all_goals exact .stopped rfl

end Nested

/-- A level around a part of a program. -/
theorem level_nearsighted {Part : Type} {least : Nat} {check : Check} {inner : Walk Part}
    (near : Nearsighted overlap least 0 inner) :
    Nearsighted overlap least 0 (Walk.level check limit inner) := by
  intro start
  refine (Retraces.descend check limit).bind least (by omega) fun _ middle _ => ?_
  refine (near middle).bind 0 (by omega) fun part after _ => ?_
  exact (Retraces.ascend 1).bind 0 (by omega) fun _ _ _ => .done part

/-- An expression, by induction on the calls it may take. -/
theorem expression_nearsighted (overlap : Overlap) (limit calls : Nat) :
    Nearsighted overlap 1 0 (Walk.expression limit calls) := by
  induction calls with
  | zero => exact fun start => .stopped rfl
  | succ calls inductionHypothesis =>
      exact level_nearsighted (operand_nearsighted inductionHypothesis)

end Expressions

section Statements

variable {overlap : Overlap} {value : Walk Expression} {block : Walk (List Statement)}

/-- A call or an assignment. -/
theorem simpleStatement_nearsighted (near : Nearsighted overlap 1 0 value) :
    Nearsighted overlap 1 0 (Walk.simpleStatement value) := by
  intro start
  refine .sees (Nat.le_refl 1) fun called _ => ?_
  cases called with
  | true =>
      exact (call_nearsighted near start).map fun found => Statement.call found.1 found.2
  | false =>
      refine (Retraces.literal .identifier nameOf).bind 0 (by omega) fun target middle _ => ?_
      refine (Retraces.expect .equal).bind 1 (by omega) fun _ after _ => ?_
      exact (near after).map (Statement.assignment target)

/-- A statement with a block. -/
theorem blockStatement_nearsighted (near : Nearsighted overlap 1 0 value)
    (blockNear : Nearsighted overlap 0 0 block) (kind : BlockKind) :
    Nearsighted overlap 1 0 (Walk.blockStatement value block kind) := by
  intro start
  refine (Retraces.expect kind.keyword).bind 0 (by omega) fun _ middle _ => ?_
  refine (near middle).bind 0 (by omega) fun condition after _ => ?_
  exact (blockNear after).map (Statement.block kind condition)

/-- A statement and the line ends after it. -/
theorem Retraces.lines {walk : Walk Statement} {start : Cursor}
    (retraces : Retraces overlap 1 0 start walk walk) :
    let lines (made : Statement) : Walk Statement := do
      Walk.passLines ((← Walk.remaining) + 1)
      return made
    Retraces overlap 1 0 start (walk >>= lines) (walk >>= lines) := by
  have reached := overlap.reached
  refine retraces.bind 0 (by omega) fun made middle _ => .remaining ?_
  exact (Retraces.passLines (by omega)).map fun _ => made

/-- A statement with the line ends after it. -/
theorem statementWith_nearsighted (near : Nearsighted overlap 1 0 value)
    (blockNear : Nearsighted overlap 0 0 block) :
    Nearsighted overlap 1 0 (Walk.statementWith value block) := by
  intro start
  refine .look (Nat.zero_le _) fun found _ => ?_
  cases found with
  | none => exact .stopped rfl
  | some token =>
      refine (Retraces.report (.statement token.kind)).bind 1 (by omega) fun _ middle _ => ?_
      cases token.kind
      case ifWord => exact (blockStatement_nearsighted near blockNear .conditional middle).lines
      case whileWord => exact (blockStatement_nearsighted near blockNear .loop middle).lines
      case identifier => exact (simpleStatement_nearsighted near middle).lines
      all_goals exact .stopped rfl

variable {walk : Walk Statement} (near : Nearsighted overlap 1 0 walk)

include near

/-- The statements of a body up to its closing word. -/
theorem bodyLoop_retraces {start : Cursor} {count another : Nat}
    (enough : overlap.last < start.position + another) :
    Retraces overlap 0 0 start (Walk.bodyLoop walk count) (Walk.bodyLoop walk another) := by
  induction count generalizing start another with
  | zero => exact .stopped rfl
  | succ count inductionHypothesis =>
      refine .turns enough fun fewer enough => .take (fun after _ => .done []) (.remaining ?_)
      by_cases ended : overlap.left.length - start.position = 0
      · rw [if_pos ended]
        exact .stopped rfl
      · rw [if_neg ended]
        refine .going (by omega) ((near start).bind 0 (by omega) fun first middle passed => ?_)
        exact (inductionHypothesis (by omega)).map (first :: ·)

/-- A body with the line ends before it. -/
theorem body_nearsighted : Nearsighted overlap 0 0 (Walk.body walk) := by
  intro start
  have reached := overlap.reached
  refine .remaining ?_
  refine (Retraces.passLines (by omega)).bind 0 (by omega) fun _ middle _ => .remaining ?_
  exact bodyLoop_retraces near (by omega)

end Statements

/-- A statement, by induction on the calls that its blocks may take. -/
theorem statement_nearsighted (overlap : Overlap) (limit calls : Nat) :
    Nearsighted overlap 1 0 (Walk.statement limit calls) := by
  induction calls with
  | zero =>
      exact statementWith_nearsighted (expression_nearsighted overlap limit 0) fun start =>
        .stopped rfl
  | succ calls inductionHypothesis =>
      exact statementWith_nearsighted (expression_nearsighted overlap limit _)
        (level_nearsighted (body_nearsighted inductionHypothesis))

section Elsewhere

variable {Part : Type} {walk : Walk Part} (near : ∀ overlap, Nearsighted overlap 1 0 walk)

include near

/-- A walk that succeeds does the same over other tokens, if these are the same up to where
it stops and at that place. -/
theorem run_over {start final : Cursor} {others : List Token} {part : Part}
    (same : others.take (final.position + 1) = start.tokens.take (final.position + 1))
    (walked : walk.run start = .ok part final) :
    walk.run (start.over others) = .ok part (final.over others) := by
  -- Beside itself the walk shows that it does not leave the tokens.
  have within : final.position ≤ start.tokens.length := by
    cases near ⟨start.tokens, start.tokens, start.tokens.length, rfl, Nat.le_refl _⟩ start with
    | read itself forward within again =>
        cases walked.symm.trans itself
        simp only [Cursor.over] at forward within ⊢
        omega
    | stopped itself => cases walked.symm.trans itself
  have reached : final.position ≤ others.length := by
    have lengths := congrArg List.length same
    rw [List.length_take, List.length_take] at lengths
    omega
  cases near ⟨start.tokens, others, final.position, same, reached⟩ start with
  | @read _ stop itself forward within again =>
      obtain ⟨rfl, stopped⟩ := EStateM.Result.ok.inj (walked.symm.trans itself)
      have place : stop.position = final.position := by
        rw [stopped]
        rfl
      have stays : final.over others = stop.over others := by
        rw [stopped]
        rfl
      rw [stays]
      exact again (Nat.le_of_eq place)
  | stopped itself => cases walked.symm.trans itself

/-- A reader that such a walk follows looks at what it uses and at one token after it. -/
theorem reader_over {limit depth : Nat} (reader : TracedReader Part)
    (follows : ∀ start : Cursor, start.depth = depth → start.rest ≠ [] →
      Follows limit start (reader start.rest) (walk.run start))
    {used rest others : List Token} {part : Part} {events : List Event} (filled : used ≠ [])
    (front : others.head? = rest.head?)
    (read : reader (used ++ rest) = ⟨events, .ok (part, rest)⟩) :
    reader (used ++ others) = ⟨events, .ok (part, others)⟩ := by
  have whole (tokens : List Token) : (used ++ tokens) ≠ [] := by simp [filled]
  have first := follows ⟨used ++ rest, 0, depth, []⟩ rfl (whole rest)
  change Follows limit _ (reader (used ++ rest)) _ at first
  rw [read] at first
  cases first with
  | @read part taken tokens outcome shape walked =>
      cases outcome
      obtain rfl : used = taken := List.append_cancel_right shape
      have same : (used ++ others).take (0 + used.length + 1) =
          (used ++ rest).take (0 + used.length + 1) := by
        rw [Nat.zero_add, List.take_length_add_append, List.take_length_add_append,
          List.take_one, List.take_one, front]
      have again := run_over near same walked
      have second := follows ⟨used ++ others, 0, depth, []⟩ rfl (whole others)
      change Follows limit _ (reader (used ++ others)) _ at second
      generalize reader (used ++ others) = run at second
      obtain ⟨told, ending⟩ := run
      cases second with
      | @read part taken tokens outcome shape walkedOther =>
          cases outcome
          obtain ⟨rfl, final⟩ := EStateM.Result.ok.inj (again.symm.trans walkedOther)
          obtain rfl : events = told := congrArg Cursor.events final
          have sameLength : 0 + used.length = 0 + taken.length := congrArg Cursor.position final
          obtain ⟨rfl, rfl⟩ := List.append_inj shape (by omega)
          rfl
      | refused outcome canFail within shallow walkedOther =>
          cases again.symm.trans walkedOther
  | refused outcome => cases outcome

end Elsewhere

/-- An expression and a statement are told by their own tokens and the one after them.
Wherever it begins and however deep, a walk over one of them that succeeds does the same
over all tokens that are the same up to the place where it stops and at that place. The
readers see only the tokens that are left: what follows a part can be exchanged for any
tokens with the same one in front, or for none if there were none. -/
theorem reading_looks_one_ahead :
    (∀ (calls : Nat) (start final : Cursor) (others : List Token),
      others.take (final.position + 1) = start.tokens.take (final.position + 1) →
        (∀ value, (Walk.expression nestingLimit calls).run start = .ok value final →
          (Walk.expression nestingLimit calls).run (start.over others) =
            .ok value (final.over others)) ∧
        ∀ made, (Walk.statement nestingLimit calls).run start = .ok made final →
          (Walk.statement nestingLimit calls).run (start.over others) =
            .ok made (final.over others)) ∧
    ∀ allowance ≤ nestingLimit, ∀ used rest others : List Token, others.head? = rest.head? →
      (∀ value, expression nestingLimit allowance (used ++ rest) = .ok (value, rest) →
        expression nestingLimit allowance (used ++ others) = .ok (value, others)) ∧
      ∀ made events, statement nestingLimit allowance (used ++ rest) = ⟨events, .ok (made, rest)⟩ →
        statement nestingLimit allowance (used ++ others) = ⟨events, .ok (made, others)⟩ := by
  constructor
  · intro calls start final others same
    exact ⟨fun value => run_over (fun overlap => expression_nearsighted overlap _ calls) same,
      fun made => run_over (fun overlap => statement_nearsighted overlap _ calls) same⟩
  · intro allowance bounded used rest others front
    have depth : nestingLimit - (nestingLimit - allowance) = allowance := Nat.sub_sub_self bounded
    have shallow : nestingLimit - allowance ≤ nestingLimit := Nat.sub_le ..
    have enough : nestingLimit < nestingLimit + 1 + (nestingLimit - allowance) := by omega
    constructor
    · intro value read
      have follows := expression_follows nestingLimit enough shallow
      rw [depth] at follows
      have filled : used ≠ [] := by
        rintro rfl
        exact Nat.lt_irrefl _ (expression_consumes nestingLimit allowance read)
      have same := reader_over (fun overlap => expression_nearsighted overlap _ _)
        (fun tokens => .ofExcept (expression nestingLimit allowance tokens))
        (fun start level _ => follows start level) filled front (congrArg Traced.ofExcept read)
      exact congrArg Traced.outcome same
    · intro made events read
      have follows := statement_follows nestingLimit enough shallow
      rw [depth] at follows
      have filled : used ≠ [] := by
        rintro rfl
        exact Nat.lt_irrefl _
          (statement_consumes nestingLimit allowance (congrArg Traced.outcome read))
      exact reader_over (fun overlap => statement_nearsighted overlap _ _) _ follows filled front
        read

/-- The condition `a and b` with three levels left, and a call where no level is left, each
before tokens that differ after the first one. -/
theorem reading_looks_one_ahead_before_difference :
    let newline : Token := ⟨.newline, .text "\n"⟩
    let ending : Token := ⟨.endWord, .text "end"⟩
    let condition : List Token := [⟨.ifWord, .text "if"⟩, ⟨.identifier, .text "a"⟩,
      ⟨.andWord, .text "and"⟩, ⟨.identifier, .text "b"⟩]
    let call : List Token := [⟨.identifier, .text "f"⟩, ⟨.parenthesisOpen, .text "("⟩,
      ⟨.parenthesisClose, .text ")"⟩, newline]
    let operation : Expression := .operation .and (.identifier "a") (.identifier "b")
    let start : Cursor := ⟨condition ++ [newline, ending], 1, 125, []⟩
    let others : List Token := condition ++ [newline, newline, ending]
    (others.take 5 = start.tokens.take 5 ∧
      (Walk.expression nestingLimit 129).run start = .ok operation (start.after 3 []) ∧
      (Walk.expression nestingLimit 129).run (start.over others) =
        .ok operation ((start.after 3 []).over others)) ∧
    statement nestingLimit 0 (call ++ [ending]) =
      ⟨[.statement .identifier], .ok (.call "f" [], [ending])⟩ ∧
    statement nestingLimit 0 (call ++ [ending, newline]) =
      ⟨[.statement .identifier], .ok (.call "f" [], [ending, newline])⟩ := by
  intro newline ending condition call operation start others
  have same : others.take 5 = start.tokens.take 5 := rfl
  have walked : (Walk.expression nestingLimit 129).run start = .ok operation (start.after 3 []) :=
    rfl
  have read : statement nestingLimit 0 (call ++ [ending]) =
      ⟨[.statement .identifier], .ok (.call "f" [], [ending])⟩ := rfl
  obtain ⟨everywhere, readers⟩ := reading_looks_one_ahead
  refine ⟨⟨same, walked, ?_⟩, read, ?_⟩
  · exact (everywhere 129 start (start.after 3 []) others same).1 operation walked
  · exact (readers 0 (Nat.zero_le _) call [ending] [ending, newline] rfl).2 _ _ read

end ScriptFront
