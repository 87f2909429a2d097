import ScriptDesk.Text.Basic

/-!
# Sets of characters as ranges

A property of characters is a list of closed ranges of code points, in ascending order
and apart from one another.
-/

namespace ScriptDesk

/-- The code points from `first` to `last`, both included. -/
structure CodeRange where
  first : Nat
  last : Nat
deriving DecidableEq, Repr

namespace CodeRange

def contains (range : CodeRange) (code : Nat) : Bool :=
  range.first ≤ code && code ≤ range.last

def holds (ranges : List CodeRange) (character : Char) : Bool :=
  ranges.any fun range => range.contains character.toNat

end CodeRange

end ScriptDesk
