import ScriptFront.Traced

/-!
# Outcomes of steps in a row

When two steps in a row succeed, and when they fail. Readers of tokens and of programs
are taken apart with these.
-/

namespace ScriptFront

variable {Error Result Next : Type}

@[simp]
theorem ok_bind (result : Result) (next : Result → Except Error Next) :
    (Except.ok result >>= next) = next result :=
  rfl

@[simp]
theorem error_bind (error : Error) (next : Result → Except Error Next) :
    (Except.error error >>= next) = .error error :=
  rfl

/-- Two steps succeed exactly if both do. -/
theorem bind_eq_ok_iff {step : Except Error Result} {next : Result → Except Error Next}
    {value : Next} :
    (step >>= next) = .ok value ↔ ∃ result, step = .ok result ∧ next result = .ok value := by
  cases step <;> simp

/-- Two steps fail exactly if the first does or the second does after it. -/
theorem bind_eq_error_iff {step : Except Error Result} {next : Result → Except Error Next}
    {error : Error} :
    (step >>= next) = .error error ↔
      step = .error error ∨ ∃ result, step = .ok result ∧ next result = .error error := by
  cases step <;> simp

/-- Another view of the error does not matter for success. -/
theorem mapError_eq_ok_iff {Other : Type} {view : Error → Other} {outcome : Except Error Result}
    {result : Result} : outcome.mapError view = .ok result ↔ outcome = .ok result := by
  cases outcome with
  | error error => exact ⟨nofun, nofun⟩
  | ok value => exact (Except.ok.injEq ..).to_iff.trans (Except.ok.injEq ..).to_iff.symm

/-- Another view of the error is a failure exactly where there is one. -/
theorem mapError_eq_error_iff {Other : Type} {view : Error → Other}
    {outcome : Except Error Result} {other : Other} :
    outcome.mapError view = .error other ↔
      ∃ error, outcome = .error error ∧ view error = other := by
  cases outcome with
  | ok value => exact ⟨nofun, nofun⟩
  | error error =>
      constructor
      · intro same
        exact ⟨error, rfl, Except.error.inj same⟩
      · rintro ⟨_, ⟨⟩, rfl⟩
        rfl

/-- An outcome has a value exactly if it is a success. -/
theorem toOption_eq_some_iff {outcome : Except Error Result} {result : Result} :
    outcome.toOption = some result ↔ outcome = .ok result := by
  cases outcome with
  | error error => exact ⟨nofun, nofun⟩
  | ok value =>
      constructor
      · intro same
        exact congrArg Except.ok (Option.some.inj same)
      · intro same
        exact congrArg some (Except.ok.inj same)

end ScriptFront
