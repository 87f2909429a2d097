import ScriptDesk.Text.Utf8

/-!
# Short paths

A path under the home directory is written from a tilde on. Any other path of more than
forty characters is written as dots and its last characters.
-/

namespace ScriptDesk.View

/-- The greatest number of characters of a path that is shown in full. -/
def pathWidth : Nat := 40

/-- The number of characters that are left of a longer path. -/
def pathTail : Nat := 37

/-- What follows the home directory in a path that lies in it or is it. -/
def belowHome? (home path : Text) : Option Text :=
  if 1 < Utf8.size home then
    (Text.dropLeading? home path).filter fun rest =>
      match rest with
      | [] => true
      | character :: _ => character = '/' || character = '\\'
  else none

/-- The last part of a path that is too long. -/
def abbreviatedPath (path : Text) : Text :=
  if pathWidth < path.length then "...".toList ++ path.drop (path.length - pathTail)
  else path

/-- A path as it is shown, where there may be a home directory. -/
def shortPath (home : Option Text) (path : Text) : Text :=
  match home.bind fun home => belowHome? home path with
  | some rest => '~' :: rest
  | none => abbreviatedPath path

end ScriptDesk.View
