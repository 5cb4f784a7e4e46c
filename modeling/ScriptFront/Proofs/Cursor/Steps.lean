import ScriptFront.Program.Cursor

/-!
# Steps of a cursor

What each step of a walk does with the tokens that are left, as equations. They are
stated for the two steps of `>>=` first, and then for each way in which the token in
front can meet the step.
-/

namespace ScriptFront

open Program

namespace Cursor

variable {cursor : Cursor}

theorem rest_start (tokens : List Token) : (start tokens).rest = tokens :=
  rfl

@[simp]
theorem rest_atDepth (depth : Nat) : (cursor.atDepth depth).rest = cursor.rest :=
  rfl

@[simp]
theorem after_atDepth (depth count : Nat) (events : List Event) :
    (cursor.atDepth depth).after count events = (cursor.after count events).atDepth depth :=
  rfl

@[simp]
theorem atDepth_atDepth (depth other : Nat) :
    (cursor.atDepth depth).atDepth other = cursor.atDepth other :=
  rfl

/-- What is left after the tokens in front have been passed. -/
theorem rest_after (used : List Token) {tokens : List Token}
    (shape : cursor.rest = used ++ tokens) (events : List Event) :
    (cursor.after used.length events).rest = tokens := by
  have dropped : (cursor.after used.length events).rest = cursor.rest.drop used.length :=
    (List.drop_drop ..).symm
  rw [dropped, shape, List.drop_left]

/-- What is left after one token has been passed. -/
theorem rest_after_one {token : Token} {tokens : List Token}
    (shape : cursor.rest = token :: tokens) (events : List Event) :
    (cursor.after 1 events).rest = tokens :=
  rest_after [token] shape events

/-- What is left after two tokens have been passed. -/
theorem rest_after_two {first second : Token} {tokens : List Token}
    (shape : cursor.rest = first :: second :: tokens) (events : List Event) :
    (cursor.after 2 events).rest = tokens :=
  rest_after [first, second] shape events

@[simp]
theorem after_after (count more : Nat) (events others : List Event) :
    (cursor.after count events).after more others =
      cursor.after (count + more) (events ++ others) := by
  simp only [after, Nat.add_assoc, List.append_assoc]

@[simp]
theorem after_zero : cursor.after 0 [] = cursor := by
  simp only [after, Nat.add_zero, List.append_nil]

end Cursor

namespace Walk

variable {Part Next : Type} {cursor : Cursor}

/-- The second of two steps goes on where the first one has ended. -/
theorem run_bind_ok {walk : Walk Part} {part : Part} {reached : Cursor}
    (walked : walk.run cursor = .ok part reached) (next : Part → Walk Next) :
    (walk >>= next).run cursor = (next part).run reached := by
  rw [EStateM.run_bind, walked]

/-- A step that stops ends the walk. -/
theorem run_bind_error {walk : Walk Part} {reason : Stop} {reached : Cursor}
    (walked : walk.run cursor = .error reason reached) (next : Part → Walk Next) :
    (walk >>= next).run cursor = .error reason reached := by
  rw [EStateM.run_bind, walked]

theorem run_ahead (distance : Nat) (cursor : Cursor) :
    (ahead distance).run cursor = .ok cursor.rest[distance]? cursor := by
  rw [Cursor.rest, List.getElem?_drop]
  rfl

theorem run_remaining (cursor : Cursor) :
    remaining.run cursor = .ok cursor.rest.length cursor := by
  rw [Cursor.rest, List.length_drop]
  rfl

theorem run_sees (distance : Nat) (kind : Kind) (cursor : Cursor) :
    (sees distance kind).run cursor =
      .ok (cursor.rest[distance]?.any fun token => token.kind = kind) cursor := by
  rw [sees, run_bind_ok (run_ahead ..)]
  rfl

theorem run_take_nil (empty : cursor.rest = []) (kind : Kind) :
    (take kind).run cursor = .ok false cursor := by
  rw [take, run_bind_ok (run_sees ..), empty]
  rfl

section Front

variable {token : Token} {tokens : List Token} {kind : Kind}

theorem run_take_same (shape : cursor.rest = token :: tokens) (same : token.kind = kind) :
    (take kind).run cursor = .ok true (cursor.after 1 []) := by
  have seen : (cursor.rest[0]?.any fun token => token.kind = kind) = true := by
    simp [shape, same]
  rw [take, run_bind_ok (run_sees ..), seen]
  rfl

theorem run_take_other (shape : cursor.rest = token :: tokens) (other : token.kind ≠ kind) :
    (take kind).run cursor = .ok false cursor := by
  have seen : (cursor.rest[0]?.any fun token => token.kind = kind) = false := by
    simp [shape, other]
  rw [take, run_bind_ok (run_sees ..), seen]
  rfl

theorem run_expect_same (shape : cursor.rest = token :: tokens) (same : token.kind = kind) :
    (expect kind).run cursor = .ok token (cursor.after 1 []) := by
  rw [expect, run_bind_ok (run_ahead ..), shape]
  simp only [List.getElem?_cons_zero, if_pos same]
  rfl

theorem run_expect_other (shape : cursor.rest = token :: tokens) (other : token.kind ≠ kind) :
    (expect kind).run cursor =
      (refuse (.expected kind) (.unexpectedToken kind token.kind)).run cursor := by
  rw [expect, run_bind_ok (run_ahead ..), shape]
  simp only [List.getElem?_cons_zero, if_neg other]

variable {value : Part} {error : SyntaxError} {valueOf : Token → Except SyntaxError Part}

theorem run_literal_ok (shape : cursor.rest = token :: tokens) (same : token.kind = kind)
    (carried : valueOf token = .ok value) :
    (literal kind valueOf).run cursor = .ok value (cursor.after 1 []) := by
  rw [literal, run_bind_ok (run_expect_same shape same), carried]
  rfl

theorem run_literal_error (shape : cursor.rest = token :: tokens) (same : token.kind = kind)
    (carried : valueOf token = .error error) :
    (literal kind valueOf).run cursor =
      .error (.refused (.literal kind) error) (cursor.after 1 [.rejected error]) := by
  rw [literal, run_bind_ok (run_expect_same shape same), carried]
  exact congrArg (EStateM.Result.error _) (Cursor.after_after ..)

end Front

theorem run_expect_nil (empty : cursor.rest = []) (kind : Kind) :
    (expect kind).run cursor = (refuse (.expected kind) (.missingToken kind)).run cursor := by
  rw [expect, run_bind_ok (run_ahead ..), empty]
  rfl

/-- All line ends in front are passed. -/
theorem run_passLines {turns : Nat} (enough : cursor.rest.length < turns) :
    ∃ before, cursor.rest = before ++ skipNewlines cursor.rest ∧
      (passLines turns).run cursor = .ok () (cursor.after before.length []) := by
  induction turns generalizing cursor with
  | zero => exact absurd enough (Nat.not_lt_zero _)
  | succ turns inductionHypothesis =>
      cases shape : cursor.rest with
      | nil =>
          refine ⟨[], rfl, ?_⟩
          rw [passLines, run_bind_ok (run_take_nil shape _), List.length_nil, Cursor.after_zero]
          rfl
      | cons token tokens =>
          by_cases newline : token.kind = .newline
          · have passed : (cursor.after 1 []).rest = tokens := Cursor.rest_after_one shape []
            rw [shape, List.length_cons] at enough
            have fewer : (cursor.after 1 []).rest.length < turns := by
              rw [passed]
              omega
            obtain ⟨before, split, walked⟩ := inductionHypothesis fewer
            rw [passed] at split
            refine ⟨token :: before, ?_, ?_⟩
            · rw [skipNewlines, List.dropWhile_cons_of_pos (by simpa using newline)]
              exact congrArg (token :: ·) split
            · rw [passLines, run_bind_ok (run_take_same shape newline), List.length_cons,
                Nat.add_comm]
              exact walked.trans (congrArg (EStateM.Result.ok ()) (Cursor.after_after ..))
          · refine ⟨[], ?_, ?_⟩
            · rw [skipNewlines, List.dropWhile_cons_of_neg (by simpa using newline)]
              rfl
            · rw [passLines, run_bind_ok (run_take_other shape newline), List.length_nil,
                Cursor.after_zero]
              rfl

theorem run_atOperation (cursor : Cursor) :
    atOperation.run cursor = .ok (startsOperation cursor.rest) cursor := by
  rw [atOperation, run_bind_ok (run_sees ..), run_bind_ok (run_ahead ..)]
  rcases cursor.rest with _ | ⟨first, _ | ⟨second, tokens⟩⟩ <;>
    simp [startsOperation, EStateM.run_pure]

theorem run_descend {check : Check} {limit : Nat} (room : cursor.depth < limit) :
    (descend check limit).run cursor = .ok () (cursor.atDepth (cursor.depth + 1)) :=
  if_pos room

theorem run_descend_full {check : Check} {limit : Nat} (full : cursor.depth = limit) :
    (descend check limit).run cursor = .error (.refused check (.tooDeep limit))
      ((cursor.after 0 [.rejected (.tooDeep limit)]).atDepth (limit + 1)) := by
  subst full
  exact if_neg (Nat.not_succ_le_self _)

theorem run_ascend {levels : Nat} (opened : levels ≤ cursor.depth) :
    (ascend levels).run cursor = .ok () (cursor.atDepth (cursor.depth - levels)) :=
  if_pos opened

end Walk

end ScriptFront
