import ScriptDesk.Host
import ScriptDesk.Program
import ScriptDesk.Proofs.Launch.Stages
import ScriptDesk.Proofs.Session.SingleRun

/-!
# The verdict of the program

Before it runs a script once, the program has found a configuration, a grammar and the
script.  The application is new then, so that nothing happens on the system before the
script is executed, and the exit code is the verdict on that execution.  If the executor
launches scripts, an exit code of zero is one of the interpreter's too.
-/

namespace ScriptDesk

/-- The executor launches scripts with a configuration.  How the steps of a launch go may
depend on the system and on the script. -/
def Executor.Launches (executor : Executor) (config : Config)
    (steps : System → Text → Launch.Steps) : Prop :=
  ∀ system script,
    (executor.execute system script).2 = (Launch.launch config (steps system script)).ending

/-- An executor that launches scripts succeeds only if the interpreter exits with zero. -/
theorem Executor.Launches.exited {executor : Executor} {config : Config}
    {steps : System → Text → Launch.Steps} (launches : executor.Launches config steps)
    {system : System} {script output : Text} {exitCode : Int}
    (succeeded : (executor.execute system script).2 =
      .reports (.ok (.success output exitCode))) :
    Launch.Completes config (steps system script) ∧
      (steps system script).exit = some (.ok (.exited 0)) := by
  have ended := launches system script
  rw [succeeded] at ended
  have answered := (Launch.ends_launch config (steps system script)).answered
  cases outcome : (Launch.launch config (steps system script)).outcome with
  | none =>
      rw [Launch.Report.ending, outcome] at ended
      cases ended
  | some reported =>
      rw [Launch.Report.ending, outcome] at ended
      cases ended
      have completed := answered.completed.mp ⟨_, outcome⟩
      exact ⟨completed, (answered.result _ outcome).success.mp rfl⟩

namespace Program

variable {circumstances : Circumstances} {line : CommandLine} {arguments : List Text}

/-- What the program has found when it is about to run a script. -/
structure Prepared (circumstances : Circumstances) (line : CommandLine) (config : Config)
    (grammar : Grammar) (path script : Text) : Prop where
  configured : line.resolve circumstances.tree circumstances.environment = .ok config
  understood : Diagnostic.grammar? circumstances.extensionLimit config.extension = some grammar
  named : line.file = some path
  readable : circumstances.tree.readText path = .ok script

def opened (circumstances : Circumstances) (grammar : Grammar) (path script : Text) : App :=
  { App.new grammar (.idle circumstances.tree) with
    buffer := .ofText script, source := some path }

variable {config : Config} {grammar : Grammar} {path script : Text}

/-- What has come before an exit code of zero. -/
structure Succeeded (circumstances : Circumstances) (line : CommandLine) (config : Config)
    (grammar : Grammar) (path script output : Text) (exitCode : Int) : Prop where
  prepared : Prepared circumstances line config grammar path script
  /-- The terminal has taken everything. -/
  written : follow { circumstances with room := none } line = follow circumstances line
  executed : ((circumstances.executor config).execute (.idle circumstances.tree) script).2 =
    .reports (.ok (.success output exitCode))
  exited : ∀ launched steps, (circumstances.executor config).Launches launched steps →
    Launch.Completes launched (steps (.idle circumstances.tree) script) ∧
      (steps (.idle circumstances.tree) script).exit = some (.ok (.exited 0))

end Program

end ScriptDesk
