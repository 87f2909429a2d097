import ScriptDesk.Text.Basic

/-!
# Patterns of the shell

A pattern matches a text as a whole. A star stands for any characters, a question mark for
any one, and brackets for one of some characters, which may be given by a class; what is
quoted stands for itself.
-/

namespace ScriptDesk.Shell

/-- What stands in brackets. -/
inductive Glob.Member where
  | range (low high : Char)
  | ofClass (name : Text)
deriving DecidableEq, Repr

/-- A piece of a pattern. -/
inductive Glob where
  | exactly (character : Char)
  | one
  | many
  /-- A character that is among the members, or is not. -/
  | among (excluded : Bool) (members : List Glob.Member)
deriving DecidableEq, Repr

namespace Glob

def classes : List (Text × (Char → Bool)) :=
  [("alnum".toList, Char.isAlphanum),
    ("cntrl".toList, fun character => character.toNat < 32 || character.toNat = 127),
    ("lower".toList, Char.isLower),
    ("space".toList, fun character =>
      character = ' ' || (9 ≤ character.toNat && character.toNat ≤ 13)),
    ("alpha".toList, Char.isAlpha),
    ("digit".toList, Char.isDigit),
    ("print".toList, fun character => 32 ≤ character.toNat && character.toNat < 127),
    ("upper".toList, Char.isUpper),
    ("blank".toList, fun character => character = ' ' || character = '\t'),
    ("graph".toList, fun character => 32 < character.toNat && character.toNat < 127),
    ("punct".toList, fun character =>
      32 < character.toNat && character.toNat < 127 && !character.isAlphanum),
    ("xdigit".toList, fun character =>
      character.isDigit || ('a' ≤ character && character ≤ 'f') ||
        ('A' ≤ character && character ≤ 'F'))]

/-- The place of an octet in the order by which ranges go: the upper half comes first. -/
def rank (character : Char) : Int :=
  if character.toNat < 128 then character.toNat else (character.toNat : Int) - 256

/-- Whether a character is a member of what stands in brackets. -/
def Member.admits (character : Char) : Member → Bool
  | .range low high =>
    rank low ≤ rank character && rank character ≤ rank high
  | .ofClass name => ((classes.lookup name).getD fun _ => false) character

/-- Whether a character matches a piece of a pattern that stands for one. -/
def admits (character : Char) : Glob → Bool
  | .exactly expected => character = expected
  | .one => true
  | .many => false
  | .among excluded members => members.any (Member.admits character) != excluded

end Glob

/-- The ends of a text, the longest first. -/
def suffixes : Text → List Text
  | [] => [[]]
  | character :: rest => (character :: rest) :: suffixes rest

def matchesAll : List Glob → Text → Bool
  | [], text => text.isEmpty
  | .many :: rest, text => (suffixes text).any (matchesAll rest)
  | piece :: rest, text =>
    match text with
    | [] => false
    | character :: text => piece.admits character && matchesAll rest text

/-- The name of a class behind an opening bracket, and what follows the class. -/
def className? (characters : List (Char × Bool)) : Option (Text × List (Char × Bool)) :=
  match characters with
  | (':', false) :: rest =>
    let name := rest.takeWhile fun (character, quoted) => character ≠ ':' && !quoted
    match rest.drop name.length with
    | (':', false) :: (']', false) :: rest =>
      let text := name.map Prod.fst
      if Glob.classes.any fun (known, _) => known = text then some (text, rest) else none
    | _ => none
  | _ => none

/-- Reads the members in brackets, of which there must be one. The bound is the number of
characters. -/
def readMembers : Nat → List (Char × Bool) →
    Option (List Glob.Member × List (Char × Bool))
  | 0, _ => none
  | _ + 1, [] => none
  | bound + 1, (low, quoted) :: rest =>
    let further (member : Glob.Member) (rest : List (Char × Bool)) :
        Option (List Glob.Member × List (Char × Bool)) :=
      match rest with
      | (']', false) :: rest => some ([member], rest)
      | rest => (readMembers bound rest).map fun (members, rest) => (member :: members, rest)
    match if low = '[' ∧ quoted = false then className? rest else none with
    | some (name, rest) => further (.ofClass name) rest
    | none =>
      match rest with
      | ('-', false) :: (high, highQuoted) :: after =>
        if high = ']' ∧ highQuoted = false then further (.range low low) rest
        else further (.range low high) after
      | rest => further (.range low low) rest

/-- What stands in brackets. A closing bracket that comes first stands for itself. -/
def readBrackets (characters : List (Char × Bool)) : Option (Glob × List (Char × Bool)) :=
  match characters with
  | ('!', false) :: rest =>
    (readMembers (rest.length + 1) rest).map fun (members, rest) => (.among true members, rest)
  | rest =>
    (readMembers (rest.length + 1) rest).map fun (members, rest) => (.among false members, rest)

/-- The pattern of characters, each with a flag that says whether it is quoted. The bound
is the number of characters. -/
def readPatternFrom : Nat → List (Char × Bool) → List Glob
  | 0, _ => []
  | _ + 1, [] => []
  | bound + 1, (character, quoted) :: rest =>
    if quoted then .exactly character :: readPatternFrom bound rest
    else if character = '*' then
      .many :: readPatternFrom bound (rest.dropWhile (· == ('*', false)))
    else if character = '?' then .one :: readPatternFrom bound rest
    else if character = '[' then
      match readBrackets rest with
      | some (piece, rest) => piece :: readPatternFrom bound rest
      | none => .exactly '[' :: readPatternFrom bound rest
    else .exactly character :: readPatternFrom bound rest

/-- Characters, each with a flag that says whether it is quoted, in which no backslash quotes
what follows it any more. -/
def unescaped : List (Char × Bool) → List (Char × Bool)
  | ('\\', false) :: (character, _) :: rest => (character, true) :: unescaped rest
  | character :: rest => character :: unescaped rest
  | [] => []

/-- The pattern of characters, each with a flag that says whether it is quoted. A
backslash that comes out of a value quotes what follows it. -/
def readPattern (characters : List (Char × Bool)) : List Glob :=
  readPatternFrom characters.length (unescaped characters)

/-- The splits of a text into a front and a back, the shortest front first. The front that
has been passed is given in reverse order. -/
def splitsFrom (passed : Text) : Text → List (Text × Text)
  | [] => [(passed, [])]
  | character :: rest =>
    (passed, character :: rest) :: splitsFrom (character :: passed) rest

/-- The text without what a pattern matches at its front or its end. A null character
ends what is matched. -/
def trimMatch (front longest : Bool) (pattern : List Glob) (text : Text) : Text :=
  let parts := splitsFrom [] text
  let ordered := if front = longest then parts.reverse else parts
  let found := ordered.find? fun (before, after) =>
    matchesAll pattern ((if front then before.reverse else after).takeWhile (· ≠ '\x00'))
  match found with
  | some (before, after) => if front then after else before.reverse
  | none => text

end ScriptDesk.Shell
