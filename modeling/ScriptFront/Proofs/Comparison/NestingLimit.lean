import ScriptFront.Proofs.Comparison.SideBySide

/-!
# Raising the nesting limit

The same tokens under two limits. The limit is met or it makes no difference: whatever
ends a reading under the lower limit, a program or an error, ends it under the higher
one too, unless it is the error that tells the lower limit.
-/

namespace ScriptFront

open Program

/-- The same tokens, read under a limit and under one that is higher by some gap. -/
def TwoRuns.raised (limit gap : Nat) : TwoRuns where
  Tokens left right := left = right
  exchange := .keep
  limit := limit
  gap := gap
  fronts := by
    rintro left _ rfl
    cases left with
    | nil => exact .ended
    | cons token rest => exact .pair (.keep token) fun _ => rfl
  lines := congrArg skipNewlines

/-- The nesting limit is conservative: under the higher of two limits tokens are read
with the outcome they have under the lower one, or they nest too deep for the lower one. -/
theorem parse_limit_conservative (tokens : List Token) {lower higher : Nat}
    (ordered : lower ≤ higher) :
    (parseWithin lower tokens).outcome = (parseWithin higher tokens).outcome ∨
      (parseWithin lower tokens).outcome = .error (.tooDeep lower) := by
  obtain ⟨gap, rfl⟩ := Nat.exists_eq_add_of_le ordered
  exact ((TwoRuns.raised lower gap).outcome_parseWithin_keep rfl (Eq.refl tokens)).imp_right
    And.right

/-- The value `a and a` takes three levels. So it is too deep for a limit of two, and
is read under the usual limit as under a limit of three. -/
theorem parse_limit_conservative_chain :
    2 ≤ 3 ∧ (parseWithin 2 (chainAssignment 1)).outcome = .error (.tooDeep 2) ∧
    3 ≤ 128 ∧ (parseWithin 3 (chainAssignment 1)).outcome =
      (parse (chainAssignment 1)).outcome := by
  have read : (parseWithin 3 (chainAssignment 1)).outcome = .ok [.assignment "x"
      (.operation .and (.identifier "a") (.identifier "a"))] := rfl
  refine ⟨by decide, ?_, by decide, ?_⟩
  · refine (parse_limit_conservative (chainAssignment 1) (show 2 ≤ 3 by decide)).resolve_left ?_
    rw [read]
    exact nofun
  · refine (parse_limit_conservative (chainAssignment 1)
      (show 3 ≤ nestingLimit by decide)).resolve_right ?_
    rw [read]
    exact nofun

end ScriptFront
