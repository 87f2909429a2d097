import ScriptDesk.Shell.Argument

/-!
# Masks and limits

The commands of the shell for the permissions of new files, and for what its processes may
use and have used. A mask is written in octal digits, or as what it leaves to the three
classes of users.
-/

namespace ScriptDesk.Shell.Builtin

open Run

namespace Mask

def all : Nat := 511

/-- The permissions that a mask leaves, or the mask that leaves permissions. -/
def inverted (mask : Nat) : Nat :=
  all ^^^ (mask &&& all)

def octalText (mask : Nat) : Text :=
  [mask / 512 % 8, mask / 64 % 8, mask / 8 % 8, mask % 8].map Text.digitChar

/-- The permissions of one class of users as letters. -/
def letters (rights : Nat) : Text :=
  (if rights &&& 4 = 0 then [] else ['r']) ++ (if rights &&& 2 = 0 then [] else ['w']) ++
    (if rights &&& 1 = 0 then [] else ['x'])

/-- What a mask leaves to the classes of users. -/
def symbolText (mask : Nat) : Text :=
  let rights := inverted mask
  "u=".toList ++ letters (rights / 64) ++ ",g=".toList ++ letters (rights / 8) ++
    ",o=".toList ++ letters rights

def ofOctal? (digits : Text) : Option Nat :=
  if digits.all fun digit => '0' ≤ digit && digit ≤ '7' then
    some (digits.foldl (fun value digit => value * 8 + (digit.toNat - 48)) 0 &&& all)
  else none

/-- The classes of users that a letter stands for, as ones in octal digits. -/
def classes (letter : Char) : Nat :=
  if letter = 'u' then 64 else if letter = 'g' then 8 else if letter = 'o' then 1 else 73

/-- The rights that a letter stands for, given what everybody has. -/
def rightsOf (rights : Nat) (letter : Char) : Nat :=
  match letter with
  | 'r' => 4
  | 'w' => 2
  | 'x' => 1
  | 'u' => rights / 64 % 8
  | 'g' => rights / 8 % 8
  | 'o' => rights % 8
  | 'X' => if rights &&& 73 = 0 then 0 else 1
  | _ => 0

def changed (operator : Char) (users new rights : Nat) : Nat :=
  let wanted := (new &&& 7) * users
  if operator = '+' then rights ||| wanted
  else if operator = '-' then rights &&& (all ^^^ (wanted &&& all))
  else wanted ||| (rights &&& (all ^^^ (users * 7 &&& all)))

/-- The rights that symbols make of others. The first are those of the mask at hand, which
letters may refer to; the classes of users may have been given. -/
def ofSymbols? (before : Nat) : Nat → Option Nat → Nat → Text → Option Nat
  | 0, _, _, _ => none
  | bound + 1, given, rights, text =>
    let users := text.takeWhile "augo".toList.contains
    let ones := users.foldl (fun ones letter => ones ||| classes letter) (given.getD 0)
    let ones := if ones = 0 then 73 else ones
    match text.drop users.length with
    | [] => some rights
    | operator :: rest =>
      if ['=', '+', '-'].contains operator = false then none
      else
        let symbols := rest.takeWhile "rwxugoXs".toList.contains
        let new := symbols.foldl (fun new letter => new ||| rightsOf before letter) 0
        let after := changed operator ones new rights
        match rest.drop symbols.length with
        | [] => some after
        | ',' :: rest => ofSymbols? before bound none after rest
        | behind => ofSymbols? before bound (some ones) after behind

/-- The mask that a text stands for, given the mask at hand. -/
def ofText (mask : Nat) (text : Text) : Except Text Nat :=
  if text.head?.any Char.isDigit then
    match ofOctal? text with
    | some mask => .ok mask
    | none => .error (Numeral.illegal text)
  else
    let rights := inverted mask
    match ofSymbols? rights (text.length + 1) none rights text with
    | some rights => .ok (inverted rights)
    | none => .error ("Illegal mode: ".toList ++ text)

end Mask

/-- Shows the mask, or sets it. -/
def umask (arguments : List Text) : Run Nat := do
  let (found, masks) ← options [('S', false)] arguments
  let mask := (← state).mask
  match masks with
  | [] =>
    output ((if found.isEmpty then Mask.octalText mask else Mask.symbolText mask) ++ ['\n'])
  | text :: _ =>
    match Mask.ofText mask text with
    | .error words => fail words
    | .ok mask =>
      change fun state => { state with mask := mask }
      return 0

def limitWords : List (Char × String) :=
  [('t', "time(seconds)"), ('f', "file(blocks)"), ('d', "data(kbytes)"), ('s', "stack(kbytes)"),
    ('c', "coredump(blocks)"), ('m', "memory(kbytes)"), ('l', "locked memory(kbytes)"),
    ('p', "process"), ('n', "nofiles"), ('v', "vmemory(kbytes)"), ('w', "locks"),
    ('r', "rtprio")]

/-- The width in which the words for a limit stand. -/
def limitWidth : Nat := 20

def limitText (limit : Option Nat) : Text :=
  match limit with
  | none => "unlimited\n".toList
  | some limit => Text.decimal limit ++ ['\n']

def limitOf (text : Text) : Run (Option Nat) :=
  if text = "unlimited".toList then return none
  else if text.all Char.isDigit then return some (Text.digitsValue text)
  else fail "bad number".toList

/-- Shows a limit, or sets it. Limits that are set have no effect. -/
def ulimit (arguments : List Text) : Run Nat := do
  let letters := limitWords.map Prod.fst ++ ['H', 'S', 'a']
  let (found, values) ← options (letters.map (·, false)) arguments
  let given := found.map Prod.fst
  let isSoft := given.contains 'S' || !given.contains 'H'
  let isHard := given.contains 'H' || !given.contains 'S'
  let letter := (given.reverse.find? fun letter => !(['H', 'S', 'a'].contains letter)).getD 'f'
  let limits := (← state).limits
  let shown (limit : Limit) : Text := limitText (if isSoft then limit.soft else limit.hard)
  match values with
  | [] =>
    if given.contains 'a' then
      output (limits.flatMap fun limit =>
        let words := ((limitWords.lookup limit.letter).getD "").toList
        words ++ List.replicate (limitWidth - words.length) ' ' ++ ' ' :: shown limit)
    else output ((limits.filter fun limit => limit.letter = letter).flatMap shown)
  | text :: others =>
    if given.contains 'a' ∨ others.isEmpty = false then fail "too many arguments".toList
    let value ← limitOf text
    change fun state => { state with
      limits := state.limits.map fun limit =>
        if limit.letter ≠ letter then limit
        else
          { limit with
            soft := if isSoft then value else limit.soft
            hard := if isHard then value else limit.hard } }
    return 0

/-- Shows how much time has been used, which is none. -/
def times : Run Nat :=
  let line := "0m0.000000s 0m0.000000s\n".toList
  output (line ++ line)

end ScriptDesk.Shell.Builtin
