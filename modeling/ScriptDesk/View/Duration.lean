import ScriptDesk.Text.Numeral

/-!
# Short durations

A duration in its greatest unit, and in hours with minutes from one hour on.
-/

namespace ScriptDesk.View

/-- A number of seconds in words. -/
def duration (seconds : Nat) : Text :=
  if seconds < 60 then Text.decimal seconds ++ ['s']
  else if seconds < 3600 then Text.decimal (seconds / 60) ++ ['m']
  else
    Text.decimal (seconds / 3600) ++ "h ".toList ++
      Text.decimal (seconds % 3600 / 60) ++ ['m']

end ScriptDesk.View
