import ScriptDesk.Shell.Real

/-!
# Formatted output of the shell

What `echo` and `printf` write. Characters behind a backslash stand for others, and a
format is used again as long as there are arguments.
-/

namespace ScriptDesk.Shell

/-- What a text stands for, and whether nothing more is to be written after it. -/
structure Written where
  text : Text
  stops : Bool
deriving DecidableEq, Repr

def isOctal (character : Char) : Bool :=
  '0' ≤ character && character ≤ '7'

def octalValue (digits : Text) : Nat :=
  digits.foldl (fun value digit => value * 8 + Text.digitValue digit) 0

def octalChar (digits : Text) : Char :=
  Char.ofNat (octalValue digits % 256)

def escapeOf? (letter : Char) : Option Char :=
  if letter = 'a' then some '\x07'
  else if letter = 'b' then some '\x08'
  else if letter = 'e' then some '\x1b'
  else if letter = 'f' then some '\x0c'
  else if letter = 'n' then some '\n'
  else if letter = 'r' then some '\r'
  else if letter = 't' then some '\t'
  else if letter = 'v' then some '\x0b'
  else if letter = '\\' then some '\\'
  else none

/-- What an escape behind a backslash stands for, and what follows it. -/
def readEscape (text : Text) : Text × Text :=
  match text with
  | [] => (['\\'], [])
  | letter :: rest =>
    if isOctal letter then
      let digits := (text.take 3).takeWhile isOctal
      ([octalChar digits], text.drop digits.length)
    else
      match escapeOf? letter with
      | some character => ([character], rest)
      | none => (['\\', letter], rest)

/-- What an argument with escapes stands for. What has been passed is given in reverse
order; the bound is greater than the length of the rest. -/
def unescapeFrom (passed : Text) : Nat → Text → Written
  | 0, _ => ⟨passed.reverse, false⟩
  | _ + 1, [] => ⟨passed.reverse, false⟩
  | bound + 1, '\\' :: rest =>
    match rest with
    | 'c' :: _ => ⟨passed.reverse, true⟩
    | '0' :: rest =>
      let digits := (rest.take 3).takeWhile isOctal
      unescapeFrom (octalChar digits :: passed) bound (rest.drop digits.length)
    | rest =>
      let (characters, rest) := readEscape rest
      unescapeFrom (characters.reverse ++ passed) bound rest
  | bound + 1, character :: rest => unescapeFrom (character :: passed) bound rest

/-- What an argument with escapes stands for. -/
def unescape (text : Text) : Written :=
  unescapeFrom [] (text.length + 1) text

/-- What `echo` writes. -/
def echoText (arguments : List Text) : Text :=
  let (lineFeed, shown) :=
    match arguments with
    | ['-', 'n'] :: rest => (false, rest)
    | _ => (true, arguments)
  let written := unescape (Text.joinWith [' '] shown)
  if lineFeed ∧ written.stops = false then written.text ++ ['\n'] else written.text

/-- A directive of a format. -/
structure Directive where
  flags : Text
  width : Nat
  precision : Option Nat
  kind : Char

/-- Formatting as far as it has come. What has been written and the complaints stand in
reverse order. -/
structure Formatting where
  written : Text
  arguments : List Text
  complaints : List Text
  /-- Nothing more is to be written. -/
  stops : Bool
  /-- Why nothing more can be written. -/
  failure : Option Text

namespace Formatting

def start (arguments : List Text) : Formatting :=
  ⟨[], arguments, [], false, none⟩

def write (formatting : Formatting) (text : Text) : Formatting :=
  { formatting with written := text.reverse ++ formatting.written }

/-- Takes the next argument, if there is one. -/
def take (formatting : Formatting) : Option Text × Formatting :=
  (formatting.arguments.head?, { formatting with arguments := formatting.arguments.drop 1 })

def complain (formatting : Formatting) (text : Text) : Formatting :=
  { formatting with complaints := text :: formatting.complaints }

/-- Notes a complaint about a number, if it was not read as a whole or did not fit. -/
def check (formatting : Formatting) (argument rest : Text) (fits : Bool) : Formatting :=
  if rest.isEmpty = false then
    if rest = argument then
      formatting.complain (argument ++ ": expected numeric value".toList)
    else formatting.complain (argument ++ ": not completely converted".toList)
  else if fits = false then
    formatting.complain (argument ++ ": Numerical result out of range".toList)
  else formatting

/-- The character behind a quotation mark, if an argument begins with one. -/
def markedCharacter? (argument : Text) : Option Nat :=
  match argument with
  | '"' :: rest => some ((rest.head?.map Char.toNat).getD 0)
  | mark :: rest =>
    if mark = Char.ofNat 39 then some ((rest.head?.map Char.toNat).getD 0) else none
  | [] => none

/-- The next argument as a number, which may have a sign. -/
def takeInteger (formatting : Formatting) (signed : Bool) : Int × Formatting :=
  match formatting.take with
  | (none, formatting) => (0, formatting)
  | (some argument, formatting) =>
    match markedCharacter? argument with
    | some code => (code, formatting)
    | none =>
      if signed then
        let found := Numeral.read true argument
        (found.value, formatting.check argument found.rest (!found.isTooLarge))
      else
        let trimmed := argument.dropWhile Numeral.isBlank
        let (negative, digits) :=
          match trimmed with
          | '-' :: digits => (true, digits)
          | '+' :: digits => (false, digits)
          | digits => (false, digits)
        let (base, behind) : Nat × Text :=
          match digits with
          | '0' :: mark :: rest =>
            if (mark = 'x' ∨ mark = 'X') ∧ (rest.head?.bind Text.hexValue?).isSome then
              (16, rest)
            else (8, digits)
          | _ => (10, digits)
        let (size, rest) := Numeral.digitsIn base behind
        let hasDigits := rest.length < behind.length
        let fits := size < Text.wordLimit
        let value : Int :=
          if fits = false then Text.wordLimit - 1 else if negative then -(size : Int) else size
        (if hasDigits then value else 0,
          formatting.check argument (if hasDigits then rest else argument) fits)

/-- The next argument as a binary fraction. -/
def takeReal (formatting : Formatting) : Real × Formatting :=
  match formatting.take with
  | (none, formatting) => (.finite false 0 0, formatting)
  | (some argument, formatting) =>
    match markedCharacter? argument with
    | some code => (.nearest false code 1, formatting)
    | none =>
      let found := Real.read argument
      (found.value, formatting.check argument found.rest (!found.isOutOfRange))

end Formatting

def padded (directive : Directive) (text : Text) : Text :=
  let blanks := directive.width - text.length
  if directive.flags.contains '-' then text ++ List.replicate blanks ' '
  else List.replicate blanks ' ' ++ text

/-- A number in the width of a directive, given its sign and its digits. Zeros may take the
place of blanks. -/
def paddedNumber (directive : Directive) (sign digits : Text) (mayFill : Bool) : Text :=
  let filled := mayFill && directive.flags.contains '0' && !directive.flags.contains '-'
  let zeros := if filled then directive.width - sign.length - digits.length else 0
  padded directive (sign ++ List.replicate zeros '0' ++ digits)

/-- The sign that a directive wants in front of a number. -/
def signText (directive : Directive) (negative : Bool) : Text :=
  if negative then ['-']
  else if directive.flags.contains '+' then ['+']
  else if directive.flags.contains ' ' then [' ']
  else []

def digitsText (base number : Nat) (upper : Bool) : Text :=
  let digits := Nat.toDigits base number
  if upper then digits.map Char.toUpper else digits

def formatInteger (directive : Directive) (number : Int) : Text :=
  let kind := directive.kind
  let isSigned := kind = 'd' ∨ kind = 'i'
  let bits := (UInt64.ofInt number).toNat
  let digits :=
    if isSigned then digitsText 10 number.natAbs false
    else if kind = 'o' then digitsText 8 bits false
    else if kind = 'u' then digitsText 10 bits false
    else digitsText 16 bits (kind = 'X')
  let isAlternative := directive.flags.contains '#'
  let shown :=
    if directive.precision = some 0 ∧ digits = ['0'] then [] else digits
  let zeros := directive.precision.getD 1 - shown.length
  let filled := List.replicate zeros '0' ++ shown
  let led :=
    if kind = 'o' ∧ isAlternative ∧ filled.head? ≠ some '0' then '0' :: filled else filled
  let sign :=
    if isSigned then signText directive (number < 0)
    else if isAlternative ∧ bits ≠ 0 ∧ (kind = 'x' ∨ kind = 'X') then ['0', kind]
    else []
  paddedNumber directive sign led directive.precision.isNone

/-- A binary fraction as a directive wants it. -/
def formatReal (directive : Directive) (value : Real) : Text :=
  let kind := directive.kind.toLower
  let sign := signText directive value.isNegative
  let keeps := directive.flags.contains '#'
  let cased (text : Text) : Text :=
    if directive.kind.isUpper then text.map Char.toUpper else text
  match value with
  | .infinite _ => padded directive (sign ++ cased "inf".toList)
  | .undefined _ => padded directive (sign ++ cased "nan".toList)
  | .finite _ significand exponent =>
    let places := directive.precision.getD 6
    if kind = 'a' then
      let text := cased (Real.hexadecimal significand exponent directive.precision keeps)
      paddedNumber directive (sign ++ text.take 2) (text.drop 2) true
    else
      let text :=
        if kind = 'f' then Real.fixed significand exponent places keeps
        else if kind = 'e' then Real.exponential significand exponent places keeps
        else Real.general significand exponent places keeps
      paddedNumber directive sign (cased text) true

namespace Formatting

/-- Carries out a directive with the next argument. The text of the directive is for
complaints. -/
def apply (formatting : Formatting) (directive : Directive) (text : Text) : Formatting :=
  let kind := directive.kind
  if kind = 's' then
    let (argument, formatting) := formatting.take
    let shown := argument.getD []
    formatting.write (padded directive (shown.take (directive.precision.getD shown.length)))
  else if kind = 'b' then
    let (argument, formatting) := formatting.take
    let written := unescape (argument.getD [])
    let shown := written.text
    let put := formatting.write
      (padded directive (shown.take (directive.precision.getD shown.length)))
    { put with stops := written.stops }
  else if kind = 'c' then
    let (argument, formatting) := formatting.take
    formatting.write (padded directive [(argument.bind List.head?).getD '\x00'])
  else if kind = 'd' ∨ kind = 'i' then
    let (number, formatting) := formatting.takeInteger true
    formatting.write (formatInteger directive number)
  else if "ouxX".toList.contains kind then
    let (number, formatting) := formatting.takeInteger false
    formatting.write (formatInteger directive number)
  else if "aAeEfFgG".toList.contains kind then
    let (value, formatting) := formatting.takeReal
    formatting.write (formatReal directive value)
  else { formatting with failure := some (text ++ ": invalid directive".toList) }

/-- Reads a width or a precision, which may be an argument. The text that has been read is
given as well. -/
def readSize (formatting : Formatting) (text : Text) : Option Int × Text × Text × Formatting :=
  match text with
  | '*' :: rest =>
    let (size, formatting) := formatting.takeInteger true
    (some size, ['*'], rest, formatting)
  | _ =>
    let digits := text.takeWhile Char.isDigit
    (if digits.isEmpty then none else some (Text.digitsValue digits), digits,
      text.drop digits.length, formatting)

/-- Reads a directive from behind its percent sign, and carries it out. -/
def directive (formatting : Formatting) (text : Text) : Formatting × Text :=
  let flags := text.takeWhile fun character => "#-+ 0".toList.contains character
  let (width, widthText, rest, formatting) := formatting.readSize (text.drop flags.length)
  let (precision, precisionText, rest, formatting) :=
    match rest with
    | '.' :: rest =>
      let (size, sizeText, rest, formatting) := formatting.readSize rest
      (some (size.getD 0), '.' :: sizeText, rest, formatting)
    | _ => (none, [], rest, formatting)
  match rest with
  | [] => ({ formatting with failure := some "missing format character".toList }, [])
  | kind :: rest =>
    let width := width.getD 0
    let flags := if width < 0 then '-' :: flags else flags
    let precision := precision.filter (0 ≤ ·)
    (formatting.apply ⟨flags, width.natAbs, precision.map Int.toNat, kind⟩
      ('%' :: flags ++ widthText ++ precisionText ++ [kind]), rest)

/-- Goes through a format once. The bound is greater than its length. -/
def once : Nat → Text → Formatting → Formatting
  | 0, _, formatting => formatting
  | _ + 1, [], formatting => formatting
  | bound + 1, character :: rest, formatting =>
    if formatting.stops ∨ formatting.failure.isSome then formatting
    else if character = '\\' then
      let (characters, rest) := readEscape rest
      once bound rest (formatting.write characters)
    else if character = '%' then
      match rest with
      | '%' :: rest => once bound rest (formatting.write ['%'])
      | rest =>
        let (formatting, rest) := formatting.directive rest
        once bound rest formatting
    else once bound rest (formatting.write [character])

/-- Uses a format as often as there are arguments for it. -/
def again : Nat → Text → Formatting → Formatting
  | 0, _, formatting => formatting
  | rounds + 1, format, formatting =>
    let next := once (format.length + 1) format formatting
    if next.arguments.isEmpty ∨ next.arguments.length = formatting.arguments.length ∨
        next.stops ∨ next.failure.isSome then
      next
    else again rounds format next

end Formatting

/-- What `printf` makes of a format and its arguments. -/
def formatted (format : Text) (arguments : List Text) : Formatting :=
  Formatting.again (arguments.length + 1) format (.start arguments)

end ScriptDesk.Shell
