import ScriptDesk.FileTree
import ScriptDesk.Shell.Pattern
import ScriptDesk.Shell.State

/-!
# Fields

A word that has been worked out is a row of characters, with notes on which of them were
quoted and where it may be cut. The row is cut into fields, and a field that is a pattern is
replaced by the paths that match it.
-/

namespace ScriptDesk.Shell

/-- A piece of a word that has been worked out. -/
inductive Item where
  | letter (character : Char) (quoted : Bool)
  /-- A character at which the word may be cut. -/
  | free (character : Char)
  /-- A quotation mark, which makes a field even where there is nothing else. -/
  | edge
  /-- The border between two parameters that may be cut themselves. -/
  | border
  /-- The border between two parameters that are quoted. -/
  | wall
  /-- The beginning of something that was worked out. The flag says whether it is cut only
  at walls. -/
  | seam (walls : Bool)
deriving DecidableEq, Repr

/-- A field with a note on each character that says whether it was quoted. -/
abbrev Field := List (Char × Bool)

namespace Item

def ofText (text : Text) (quoted : Bool) : List Item :=
  text.map fun character => .letter character quoted

/-- The items of a text that something has been worked out to. -/
def ofValue (text : Text) (quoted : Bool) : List Item :=
  if quoted then ofText text true else .seam false :: text.map .free

def text (items : List Item) : Text :=
  items.filterMap fun item =>
    match item with
    | .letter character _ => some character
    | .free character => some character
    | .border => some ' '
    | .wall => some ' '
    | _ => none

/-- The characters of items, each with a note on whether it was quoted. -/
def field (items : List Item) : Field :=
  items.filterMap fun item =>
    match item with
    | .letter character quoted => some (character, quoted)
    | .free character => some (character, false)
    | _ => none

end Item

/-- A row of items that is being cut. -/
structure Cutting where
  /-- The field at hand, in reverse order. -/
  current : Field
  /-- There is something in the field, be it only quotation marks. -/
  hasField : Bool
  /-- The fields that are complete, in reverse order. -/
  fields : List Field
  /-- Separators are skipped. The flag says that only blanks have been met. -/
  skipping : Option Bool
  /-- The last field counts even if there is nothing in it. -/
  endsWithWall : Bool

namespace Cutting

/-- Nothing has been met yet. -/
def start : Cutting := ⟨[], false, [], none, false⟩

/-- Adds a character to the field at hand. -/
def put (cutting : Cutting) (character : Char) (quoted : Bool) : Cutting :=
  { cutting with
    current := (character, quoted) :: cutting.current, hasField := true, skipping := none }

/-- Completes the field at hand. -/
def cut (cutting : Cutting) (skipping : Option Bool) : Cutting :=
  { cutting with
    current := [], hasField := false
    fields := cutting.current.reverse :: cutting.fields, skipping := skipping }

def separate (cutting : Cutting) (isBlank : Bool) : Cutting :=
  let here :=
    if isBlank ∧ cutting.hasField = false then { cutting with skipping := none }
    else cutting.cut (some isBlank)
  match cutting.skipping, isBlank with
  | some _, true => cutting
  | some true, false => { cutting with skipping := some false }
  | _, _ => here

def meet (separators : Text) (cutting : Cutting) : Item → Cutting
  | .letter character quoted => cutting.put character quoted
  | .edge => { cutting with hasField := true, skipping := none }
  | .seam walls => { cutting with skipping := none, endsWithWall := walls }
  | .wall => cutting.cut none
  | .border => cutting.separate true
  | .free character =>
    if separators.contains character then
      cutting.separate (defaultSeparators.contains character)
    else cutting.put character false

/-- The fields, once all items have been met. -/
def finish (cutting : Cutting) : List Field :=
  (if cutting.endsWithWall ∨ cutting.hasField then
    cutting.current.reverse :: cutting.fields
  else cutting.fields).reverse

end Cutting

def cutFields (separators : Text) (items : List Item) : List Field :=
  (items.foldl (Cutting.meet separators) .start).finish

namespace Field

def text (field : Field) : Text :=
  field.map Prod.fst

/-- Whether a field without backslashes that quote is a pattern. A bracket makes a pattern only
if it is closed in the same component. -/
def isPlainPattern : Field → Bool
  | [] => false
  | ('*', false) :: _ => true
  | ('?', false) :: _ => true
  | ('[', false) :: rest =>
    ((rest.drop 1).takeWhile fun (character, _) => character ≠ '/').contains (']', false) ||
      isPlainPattern rest
  | _ :: rest => isPlainPattern rest

def isPattern (field : Field) : Bool :=
  isPlainPattern (unescaped field)

def components : Field → List Field
  | [] => [[]]
  | (character, quoted) :: rest =>
    if character = '/' then [] :: components rest
    else
      match components rest with
      | [] => [[(character, quoted)]]
      | first :: others => ((character, quoted) :: first) :: others

/-- The names in a directory, those that every directory has included. -/
def namesIn (tree : FileTree) (directory : Text) : List Text :=
  let path := if directory.isEmpty then ['.'] else directory
  match tree.follow path with
  | .error _ => []
  | .ok absolute =>
    if tree.node? absolute = some .directory then
      ['.'] :: ['.', '.'] :: tree.namesIn absolute
    else []

/-- Whether there is something under a path. -/
def exists_ (tree : FileTree) (path : Text) : Bool :=
  if path.getLast? = some '/' then (tree.find path).toBool
  else
    match tree.place path with
    | .error _ => false
    | .ok absolute => (tree.node? absolute).isSome

/-- The paths that match the components of a pattern behind a path. -/
def matchingFrom (tree : FileTree) (before : Text) : List Field → List Text
  | [] => []
  | [last] =>
    if isPattern last then
      (matchingNames last).map (before ++ ·)
    else
      let path := before ++ last.text
      if exists_ tree path then [path] else []
  | component :: rest =>
    if isPattern component then
      (matchingNames component).flatMap fun name =>
        matchingFrom tree (before ++ name ++ ['/']) rest
    else matchingFrom tree (before ++ component.text ++ ['/']) rest
where
  /-- The names that match a component. Those that begin with a dot must be asked for. -/
  matchingNames (component : Field) : List Text :=
    let pattern := readPattern component
    let asksForDot := component.head?.any fun (character, _) => character = '.'
    (namesIn tree before).filter fun name =>
      (asksForDot || name.head? ≠ some '.') && matchesAll pattern name

/-- The paths that a field stands for: those that match it, or itself. -/
def paths (tree : FileTree) (field : Field) : List Text :=
  if isPattern field then
    let found := matchingFrom tree [] (components (unescaped field))
    if found.isEmpty then [field.text]
    else found.mergeSort fun left right => !(decide (right < left))
  else [field.text]

end Field

end ScriptDesk.Shell
