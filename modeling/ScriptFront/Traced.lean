import ScriptFront.Event

/-!
# Traced runs

A run that reports events and ends with a value or an error. Runs are put together
one after another: a failed run ends everything, and the events up to there remain.
-/

namespace ScriptFront

/-- The events of a run, in order, and how it ended. -/
structure Traced (Error Result : Type) where
  events : List Event
  outcome : Except Error Result

namespace Traced

variable {Error Result Next : Type}

/-- A run that ends with a value at once. -/
protected def pure (result : Result) : Traced Error Result :=
  ⟨[], .ok result⟩

/-- One run and, if it succeeds, another one after it. -/
protected def bind (run : Traced Error Result) (next : Result → Traced Error Next) :
    Traced Error Next :=
  match run.outcome with
  | .ok result =>
    let following := next result
    ⟨run.events ++ following.events, following.outcome⟩
  | .error error => ⟨run.events, .error error⟩

/-- The same run with its result seen in another way. -/
protected def map (view : Result → Next) (run : Traced Error Result) : Traced Error Next :=
  ⟨run.events, run.outcome.map view⟩

instance : Monad (Traced Error) where
  map := Traced.map
  pure := Traced.pure
  bind := Traced.bind

/-- A run that only reports an event. -/
def emit (event : Event) : Traced Error Unit :=
  ⟨[event], .ok ()⟩

/-- A run that fails without reporting anything. -/
def fail (error : Error) : Traced Error Result :=
  ⟨[], .error error⟩

/-- A run that reports nothing and ends as given. -/
def ofExcept (outcome : Except Error Result) : Traced Error Result :=
  ⟨[], outcome⟩

/-- The same run with its error seen in another way. -/
def mapError {Other : Type} (view : Error → Other) (run : Traced Error Result) :
    Traced Other Result :=
  ⟨run.events, run.outcome.mapError view⟩

/-- Runs one after another can be grouped at will. -/
protected theorem bind_assoc {Last : Type} (run : Traced Error Result)
    (next : Result → Traced Error Next) (last : Next → Traced Error Last) :
    (run.bind next).bind last = run.bind fun result => (next result).bind last := by
  obtain ⟨events, outcome⟩ := run
  cases outcome with
  | error error => rfl
  | ok result =>
    cases following : (next result).outcome <;>
      simp [Traced.bind, following, List.append_assoc]

/-- A view of the result is the same as a run after it that ends at once. -/
protected theorem bind_pure_comp (view : Result → Next) (run : Traced Error Result) :
    (run.bind fun result => Traced.pure (view result)) = run.map view := by
  obtain ⟨events, outcome⟩ := run
  cases outcome <;> simp [Traced.map, Except.map, Traced.bind, Traced.pure]

protected theorem map_id (run : Traced Error Result) : run.map id = run := by
  obtain ⟨events, outcome⟩ := run
  cases outcome <;> rfl

instance : LawfulMonad (Traced Error) where
  map_const := rfl
  id_map := Traced.map_id
  seqLeft_eq first second := by
    change first.bind (fun result => second.bind fun _ => Traced.pure result) =
      (first.map (Function.const _)).bind fun view => second.map view
    rw [← Traced.bind_pure_comp, Traced.bind_assoc]
    exact congrArg _ (funext fun result => Traced.bind_pure_comp (fun _ => result) second)
  seqRight_eq first second := by
    change first.bind (fun _ => second) =
      (first.map (Function.const _ id)).bind fun view => second.map view
    rw [← Traced.bind_pure_comp, Traced.bind_assoc]
    exact congrArg _ (funext fun _ => (Traced.map_id second).symm)
  pure_seq _ _ := rfl
  bind_pure_comp := Traced.bind_pure_comp
  bind_map _ _ := rfl
  pure_bind _ _ := rfl
  bind_assoc := Traced.bind_assoc

/-- The outcome of runs one after another is that of their outcomes one after
another: events never influence results. -/
@[simp]
theorem outcome_bind (run : Traced Error Result) (next : Result → Traced Error Next) :
    (run >>= next).outcome = run.outcome >>= fun result => (next result).outcome := by
  change (Traced.bind run next).outcome = Except.bind run.outcome _
  unfold Traced.bind Except.bind
  cases run.outcome <;> rfl

@[simp]
theorem outcome_pure (result : Result) :
    (pure result : Traced Error Result).outcome = .ok result :=
  rfl

end Traced

end ScriptFront
