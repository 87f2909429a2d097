import ScriptDesk.RunState

/-!
# What is shown of a run

The pane shows the state of the desk in lines, each with a tone. A failing script whose
output has a diagnostic is shown by that diagnostic alone, because the output names the
file that the script was written to; any other output is shown as it is.
-/

namespace ScriptDesk

/-- How a line stands out. -/
inductive Tone where
  | plain
  | muted
  | pending
  | success
  | error
  | link
deriving DecidableEq, Repr

/-- A line with its tone. -/
structure ViewLine where
  tone : Tone
  text : Text
deriving DecidableEq, Repr

namespace View

def block (tone : Tone) (text : Text) : List ViewLine :=
  (Text.lines text).map fun line => ⟨tone, line⟩

def exitCodeText (mark : String) (exitCode : Int) : Text :=
  mark.toList ++ "Exit Code: ".toList ++ Text.signedDecimal exitCode

def failurePane : RunFailure → List ViewLine
  | .script output exitCode diagnostic =>
    ⟨.error, "❌ Error occurred".toList⟩ :: ⟨.error, exitCodeText "" exitCode⟩ ::
      match diagnostic with
      | some diagnostic =>
        [⟨.link, diagnostic.label⟩, ⟨.muted, "(:goto jumps to this error)".toList⟩]
      | none => block .error output
  | .launch reason => [⟨.error, "🚫 Could not run script".toList⟩, ⟨.error, reason⟩]
  | .timedOut milliseconds =>
    [⟨.error, "⌛ Script timed out".toList⟩, ⟨.error, timedOutText milliseconds⟩]

def outputPane : RunState → List ViewLine
  | .idle => [⟨.muted, "💤 Waiting to run script...".toList⟩]
  | .running => [⟨.pending, "⏳ Script is running...".toList⟩]
  | .succeeded output exitCode =>
    ⟨.success, exitCodeText "✅ " exitCode⟩ :: block .success output
  | .failed failure => failurePane failure

/-- The row of buttons. A run cannot be started while one is in flight. -/
def buttonRow (state : RunState) : ViewLine :=
  if state.isRunning then ⟨.muted, "[ Running... ]  [ Reset ]".toList⟩
  else ⟨.plain, "[ Run Script ]  [ Reset ]".toList⟩

def plainText (lines : List ViewLine) : Text :=
  Text.joinWith ['\n'] (lines.map ViewLine.text)

end View

/-- What a single run comes to. -/
inductive Verdict where
  | succeeded
  | scriptFailed
  | couldNotRun
deriving DecidableEq, Repr

namespace Verdict

def ofState : RunState → Verdict
  | .failed (.script _ _ _) => .scriptFailed
  | .failed _ => .couldNotRun
  | _ => .succeeded

def exitCode : Verdict → Nat
  | .succeeded => 0
  | .scriptFailed => 1
  | .couldNotRun => 2

end Verdict

end ScriptDesk
