import Mathlib.Data.List.DropRight
import ScriptFront.Proofs.Comparison.SideBySide

/-!
# Blank lines

Where tokens have a line end, they may as well have several in a row, with any values:
reading them ends in the same way. This holds of tokens that are refused as well, since
a line end that is not passed over is refused by its kind, before any after it is seen.
-/

namespace ScriptFront

open Program

/-- The tokens with one line end in place of each run of them. -/
def squeezed : List Token → List Token
  | [] => []
  | token :: rest =>
    if token.kind = .newline then .fixed .newline :: skipNewlines (squeezed rest)
    else token :: squeezed rest

/-- A token that is no line end stays in front. -/
theorem squeezed_cons {token : Token} (kind : token.kind ≠ .newline) (rest : List Token) :
    squeezed (token :: rest) = token :: squeezed rest :=
  if_neg kind

/-- Line ends are passed over before or after each run of them becomes one. -/
theorem squeezed_skipNewlines (tokens : List Token) :
    squeezed (skipNewlines tokens) = skipNewlines (squeezed tokens) := by
  have skip_cons : ∀ {token : Token}, token.kind = .newline → ∀ rest,
      skipNewlines (token :: rest) = skipNewlines rest := by
    intro token kind rest
    exact List.dropWhile_cons_of_pos (by simpa using kind)
  induction tokens with
  | nil => rfl
  | cons token rest inductionHypothesis =>
      by_cases kind : token.kind = .newline
      · calc squeezed (skipNewlines (token :: rest))
            = skipNewlines (squeezed rest) := by rw [skip_cons kind, inductionHypothesis]
          _ = skipNewlines (skipNewlines (squeezed rest)) :=
            (List.dropWhile_idempotent _ _).symm
          _ = skipNewlines (squeezed (token :: rest)) := by
            rw [squeezed, if_pos kind, skip_cons rfl]
      · have kept : ∀ following, skipNewlines (token :: following) = token :: following :=
          fun following => List.dropWhile_cons_of_neg (by simpa using kind)
        rw [kept, squeezed_cons kind, kept]

/-- A run of line ends becomes one, whatever they carry. -/
theorem squeezed_run {token : Token} (kind : token.kind = .newline) (rest : List Token) :
    squeezed (token :: rest) = .fixed .newline :: squeezed (skipNewlines rest) := by
  rw [squeezed, if_pos kind, squeezed_skipNewlines]

/-- Tokens that differ in the length of their runs of line ends and in the values of
these, read under one limit. -/
def TwoRuns.blankLines (limit : Nat) : TwoRuns where
  Tokens left right := squeezed left = squeezed right
  exchange := .keep
  limit := limit
  gap := 0
  fronts := by
    intro left right tokens
    match left, right with
    | [], [] => exact .ended
    | [], second :: rest =>
        rw [squeezed, squeezed] at tokens
        split at tokens <;> cases tokens
    | first :: rest, [] =>
        rw [squeezed, squeezed] at tokens
        split at tokens <;> cases tokens
    | first :: rest, second :: others =>
        by_cases kind : first.kind = .newline <;> by_cases other : second.kind = .newline
        · exact .pair ⟨other.trans kind.symm, by simp [kind], by simp [kind], by simp [kind]⟩
            (absurd kind)
        · rw [squeezed_run kind, squeezed_cons other] at tokens
          obtain rfl := (List.cons.inj tokens).1
          exact absurd rfl other
        · rw [squeezed_cons kind, squeezed_run other] at tokens
          obtain rfl := (List.cons.inj tokens).1
          exact absurd rfl kind
        · rw [squeezed_cons kind, squeezed_cons other] at tokens
          obtain ⟨rfl, following⟩ := List.cons.inj tokens
          exact .pair (.keep first) fun _ => following
  lines := by
    intro left right tokens
    rw [squeezed_skipNewlines, squeezed_skipNewlines, tokens]

/-- Tokens that become equal when each run of line ends becomes one are read with the
same outcome: the same program, or the same error. -/
theorem parse_blank_lines (left right : List Token) (same : squeezed left = squeezed right) :
    (parse left).outcome = (parse right).outcome := by
  rcases (TwoRuns.blankLines nestingLimit).outcome_parseWithin_keep rfl same with
    agreed | ⟨gap, -⟩
  · exact agreed
  · exact absurd gap (Nat.lt_irrefl 0)

/-- A block is read with blank lines before its end as without any. A call is refused for
a line end among its arguments, however many of them there are. -/
theorem parse_blank_lines_in_block_and_call :
    (parse [.fixed .ifWord, .fixed .trueWord, .fixed .newline, .fixed .newline,
      ⟨.newline, .number (.integer 3)⟩, .fixed .endWord]).outcome =
        .ok [.block .conditional (.boolean true) []] ∧
    (parse [⟨.identifier, .text "f"⟩, .fixed .parenthesisOpen, .fixed .newline,
      .fixed .newline, .fixed .parenthesisClose]).outcome = .error (.invalidToken .newline) := by
  constructor
  · exact parse_blank_lines _ [.fixed .ifWord, .fixed .trueWord, .fixed .newline,
      .fixed .endWord] rfl
  · exact parse_blank_lines _ [⟨.identifier, .text "f"⟩, .fixed .parenthesisOpen,
      .fixed .newline, .fixed .parenthesisClose] rfl

end ScriptFront
