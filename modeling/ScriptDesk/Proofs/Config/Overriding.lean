import ScriptDesk.Proofs.Config.Precedence

/-!
# Overriding a configuration twice

The variables are applied one after the other, and the one for the time limit can be
refused.  The interpreter has been named by then, so a refusal leaves a configuration that
is as it was but for the program.  Without a refusal nothing is left to do: the variables
do not change the configuration again.
-/

namespace ScriptDesk.Config

variable {config : Config} {overrides : Overrides}

/-- What the variables make of a configuration, and the error if they are refused. -/
inductive Overridden (config : Config) (overrides : Overrides) :
    Config × Option ConfigError → Prop where
  | applied {named? : Option Text} {limit? : Option Nat}
      (named : Names overrides.interpreter named?) (limits : Limits overrides.timeout limit?) :
      Overridden config overrides
        ({ config with
            program := named?.getD config.program
            timeoutSeconds := limit?.or config.timeoutSeconds },
          none)
  | refused {named? : Option Text} {value : Text}
      (named : Names overrides.interpreter named?) (set : overrides.timeout = some value)
      (unlimiting : Unlimiting overrides) :
      Overridden config overrides
        ({ config with program := named?.getD config.program }, some (.invalidTimeout value))

theorem overridden_applyOverrides (config : Config) (overrides : Overrides) :
    Overridden config overrides (config.applyOverrides overrides) := by
  have named := names_namedInterpreter? overrides
  rw [applyOverrides, applyInterpreter_eq]
  rcases applyTimeout_cases
      { config with program := (namedInterpreter? overrides).getD config.program } overrides with
    ⟨limit?, limits, -, applied⟩ | ⟨unlimiting, value, set, refused⟩
  · rw [applied]
    exact .applied named limits
  · rw [refused]
    exact .refused named set unlimiting

/-- What the variables do and whether they are refused depends on them alone. -/
theorem applyOverrides_applyOverrides (config : Config) (overrides : Overrides) :
    (config.applyOverrides overrides).1.applyOverrides overrides =
      config.applyOverrides overrides := by
  simp only [applyOverrides, applyInterpreter_eq, applyTimeout]
  cases overrides.timeout with
  | none => cases namedInterpreter? overrides <;> rfl
  | some value =>
      cases number : Text.readWord? (Text.trim value) <;>
        cases namedInterpreter? overrides <;> simp [number]

/-- A refusal leaves all of a configuration but the program, which the variable for the
interpreter may have named before.  Variables that are not refused give the program and the
time limit, and applied again they are not refused and change nothing. -/
theorem overrides_settle (config : Config) (overrides : Overrides) :
    (∀ left error, config.applyOverrides overrides = (left, some error) →
      ∃ named?, Names overrides.interpreter named? ∧
        left = { config with program := named?.getD config.program }) ∧
    ∀ applied, config.applyOverrides overrides = (applied, none) →
      (∃ named? limit?, Names overrides.interpreter named? ∧
        Limits overrides.timeout limit? ∧
        applied = { config with
          program := named?.getD config.program
          timeoutSeconds := limit?.or config.timeoutSeconds }) ∧
      applied.applyOverrides overrides = (applied, none) := by
  have overridden := overridden_applyOverrides config overrides
  have again := applyOverrides_applyOverrides config overrides
  constructor
  · intro left error failed
    rw [failed] at overridden
    cases overridden with
    | refused named set unlimiting => exact ⟨_, named, rfl⟩
  · intro applied succeeded
    rw [succeeded] at overridden again
    refine ⟨?_, again⟩
    cases overridden with
    | applied named limits => exact ⟨_, _, named, limits, rfl⟩

/-- An interpreter with space around its name, and a time limit that is no number. -/
def refusedOverrides : Overrides := ⟨some " p ".toList, some "bad".toList⟩

/-- The variables are refused, but the program is another one. -/
theorem program_overridden_before_refusal :
    builtIn.applyOverrides refusedOverrides =
        ({ builtIn with program := ['p'] }, some (.invalidTimeout "bad".toList)) ∧
      ({ builtIn with program := ['p'] } : Config) ≠ builtIn := by
  decide +kernel

theorem overrides_settle_padded :
    (∃ named?, Names (some " p ".toList) named? ∧
      ({ builtIn with program := ['p'] } : Config) =
        { builtIn with program := named?.getD builtIn.program }) ∧
    ({ builtIn with program := ['p'], timeoutSeconds := some 7 } : Config).applyOverrides
        ⟨some " p ".toList, some " +7 ".toList⟩ =
      ({ builtIn with program := ['p'], timeoutSeconds := some 7 }, none) := by
  have refused := (overrides_settle builtIn refusedOverrides).1
  have applied := (overrides_settle builtIn ⟨some " p ".toList, some " +7 ".toList⟩).2
  exact ⟨refused _ (.invalidTimeout "bad".toList) (by decide +kernel),
    (applied _ (by decide +kernel)).2⟩

end ScriptDesk.Config
