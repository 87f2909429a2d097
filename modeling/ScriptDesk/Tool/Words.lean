import ScriptDesk.Shell.Builtin.Condition
import ScriptDesk.Shell.Format
import ScriptDesk.Shell.Signal
import ScriptDesk.Tool.Files
import ScriptDesk.Tool.Lines

/-!
# Working on arguments

The programs that make a text of their arguments, or a status.
-/

namespace ScriptDesk.Tool

open Invocation

/-- Reads the options of `echo`: whether a line feed is left out, and whether backslashes have
a meaning. -/
def echoOptions : Bool → Bool → List Text → Bool × Bool × List Text
  | isOpen, escapes, ('-' :: letter :: letters) :: rest =>
    let all := letter :: letters
    if all.all "neE".toList.contains then
      let escapes := all.foldl
        (fun escapes letter =>
          if letter = 'e' then true else if letter = 'E' then false else escapes)
        escapes
      echoOptions (isOpen || all.contains 'n') escapes rest
    else (isOpen, escapes, ('-' :: letter :: letters) :: rest)
  | isOpen, escapes, words => (isOpen, escapes, words)

/-- Writes its arguments. -/
def echo (invocation : Invocation) : Action Nat := do
  let (isOpen, escapes, words) := echoOptions false false invocation.arguments
  let text := Text.joinWith [' '] words
  let shown := if escapes then Shell.unescape text else ⟨text, false⟩
  invocation.write (if isOpen ∨ shown.stops = true then shown.text else shown.text ++ ['\n'])
  return 0

/-- Writes its arguments in a format. -/
def printf (invocation : Invocation) : Action Nat := do
  match invocation.arguments with
  | [] => invocation.missingOperand
  | format :: values =>
    let made := Shell.formatted format values
    let complaints := made.complaints.reverse ++ made.failure.toList
    let _ ← Invocation.each
      (fun words => do
        invocation.complain words
        return 0)
      0 complaints
    invocation.write made.written.reverse
    return if complaints.isEmpty then 0 else 1

/-- Works out a condition. -/
def test (invocation : Invocation) : Action Nat := do
  match Shell.Condition.evaluate (← Action.reply .look) invocation.arguments with
  | .ok holds => return if holds then 0 else 1
  | .error words =>
    invocation.complain words
    return 2

/-- Works out a condition in brackets. -/
def bracketed (invocation : Invocation) : Action Nat := do
  if invocation.arguments.getLast? = some [']'] then
    test { invocation with arguments := invocation.arguments.dropLast }
  else
    invocation.complain ("missing ".toList ++ marked [']'])
    return 2

/-- A name without an ending, unless it is nothing else. -/
def withoutEnding (ending name : Text) : Text :=
  if ending.isSuffixOf name ∧ name ≠ ending then name.take (name.length - ending.length)
  else name

def lastNames (invocation : Invocation) : Action Nat :=
  invocation.withGiven
    ⟨[('a', false), ('s', true), ('z', false)],
      [("multiple", 'a', false), ("suffix", 's', true)], true⟩ 1
    fun given => do
      let isMultiple := given.has 'a' || given.has 's'
      match given.operands with
      | [] => invocation.missingOperand
      | path :: others =>
        match isMultiple, others with
        | false, _ :: extra :: _ =>
          invocation.complainOfUse ("extra operand ".toList ++ marked extra)
          return 1
        | false, _ =>
          invocation.write (withoutEnding (others.headD []) (baseName path) ++ ['\n'])
          return 0
        | true, _ =>
          let ending := (given.value? 's').getD []
          invocation.write (given.operands.flatMap fun path =>
            withoutEnding ending (baseName path) ++ ['\n'])
          return 0

/-- The path of the directory in which a path is. -/
def directoryName (path : Text) : Text :=
  let (directory, name) := FileTree.splitPath path
  let trimmed := Text.dropTrailing (· = '/') directory
  if name.isEmpty then (if path.isEmpty then ['.'] else ['/'])
  else if directory.isEmpty then ['.']
  else if trimmed.isEmpty then ['/']
  else trimmed

/-- Writes the directories of paths. -/
def directoryNames (invocation : Invocation) : Action Nat :=
  invocation.withGiven ⟨[('z', false)], [("zero", 'z', false)], true⟩ 1 fun given => do
    if given.operands.isEmpty then invocation.missingOperand
    else
      invocation.write (given.operands.flatMap fun path => directoryName path ++ ['\n'])
      return 0

/-- A number with a fraction, in units of its last place. -/
structure Fixed where
  units : Int
  places : Nat

namespace Fixed

/-- The number that a text spells. -/
def ofText? (text : Text) : Option Fixed :=
  let (negative, digits) := match text with
    | '-' :: rest => (true, rest)
    | '+' :: rest => (false, rest)
    | rest => (false, rest)
  let whole := digits.takeWhile Char.isDigit
  let fraction? := match digits.drop whole.length with
    | [] => some []
    | '.' :: rest => if rest.all Char.isDigit then some rest else none
    | _ => none
  match fraction? with
  | none => none
  | some fraction =>
    if whole.isEmpty ∧ fraction.isEmpty then none
    else
      let size : Int := Text.digitsValue (whole ++ fraction)
      some ⟨if negative then -size else size, fraction.length⟩

def unitsAt (places : Nat) (number : Fixed) : Int :=
  number.units * (Nat.pow 10 (places - number.places) : Nat)

def text (places : Nat) (units : Int) : Text :=
  let digits := Text.decimal units.natAbs
  let padded := List.replicate (places + 1 - digits.length) '0' ++ digits
  let sign : Text := if units < 0 then ['-'] else []
  if places = 0 then sign ++ digits
  else
    sign ++ padded.take (padded.length - places) ++ '.' :: padded.drop (padded.length - places)

end Fixed

/-- Writes numbers from one to another one, as many pieces at a time as a bound says. -/
def countOn (invocation : Invocation) (shown : Int → Text) (separator : Text)
    (step last : Int) : Nat → Bool → Int → Action Nat
  | 0, _, _ => return 0
  | bound + 1, isFirst, number => do
    let isOver := if step < 0 then number < last else last < number
    if isOver then
      if isFirst = false then invocation.write ['\n']
      return 0
    let count := 500
    let numbers := (List.range count).map fun (index : Nat) => number + step * index
    let wanted := numbers.takeWhile fun number =>
      if step < 0 then decide (last ≤ number) else decide (number ≤ last)
    let text := Text.joinWith separator (wanted.map shown)
    let _ ← Action.reply .pause
    invocation.write (if isFirst then text else separator ++ text)
    countOn invocation shown separator step last bound false (number + step * count)

/-- Whether an argument is a number below zero, and no option. -/
def isNegativeNumber (argument : Text) : Bool :=
  match argument with
  | '-' :: digit :: _ => digit.isDigit || digit = '.'
  | _ => false

/-- From where one counts, by how much, and up to what. -/
def countBounds (one : Int) : List Int → Option (Int × Int × Int)
  | [last] => some (one, one, last)
  | [first, last] => some (first, one, last)
  | [first, step, last] => some (first, step, last)
  | _ => none

/-- A number with zeros in front of its digits, so that it has a width. -/
def zeroFilled (width : Nat) (number : Text) : Text :=
  let zeros := List.replicate (width - number.length) '0'
  match number with
  | '-' :: digits => '-' :: zeros ++ digits
  | digits => zeros ++ digits

/-- Counts as operands and options say. -/
def countAsGiven (invocation : Invocation) (given : Given) : Action Nat := do
  let numbers : List (Text × Option Fixed) :=
    given.operands.map fun text => (text, Fixed.ofText? text)
  match numbers.find? fun (_, number) => number.isNone with
  | some (text, _) =>
    invocation.complainOfUse ("invalid floating point argument: ".toList ++ marked text)
    return 1
  | none =>
    let values := numbers.filterMap Prod.snd
    let places := (values.dropLast.map Fixed.places).foldl max 0
    let all := (values.map Fixed.places).foldl max 0
    match countBounds (Nat.pow 10 all : Nat) (values.map (Fixed.unitsAt all)) with
    | none =>
      if values.isEmpty then invocation.missingOperand
      else
        invocation.complainOfUse
          ("extra operand ".toList ++ marked (given.operands.getD 3 []))
        return 1
    | some (first, step, last) =>
      if step = 0 then
        invocation.complainOfUse
          ("invalid Zero increment value: ".toList ++ marked (given.operands.getD 1 []))
        return 1
      else
        let plain (units : Int) : Text :=
          Fixed.text places (units / (Nat.pow 10 (all - places) : Nat))
        let width := max (plain first).length (plain last).length
        let shown (units : Int) : Text :=
          if given.has 'w' then zeroFilled width (plain units) else plain units
        countOn invocation shown ((given.value? 's').getD ['\n']) step last
          Action.roundLimit true first

/-- Counts from one number to another one. -/
def sequence (invocation : Invocation) : Action Nat :=
  let options := invocation.arguments.takeWhile fun argument =>
    argument.head? = some '-' && !isNegativeNumber argument
  let arguments :=
    if options.isEmpty then "--".toList :: invocation.arguments else invocation.arguments
  Invocation.withGiven { invocation with arguments := arguments }
    ⟨[('s', true), ('w', false), ('f', true)],
      [("separator", 's', true), ("equal-width", 'w', false)], true⟩ 1
    (countAsGiven invocation)

/-- Writes the values of variables, or all variables. -/
def printVariables (invocation : Invocation) : Action Nat := do
  if invocation.arguments.isEmpty then
    invocation.write (invocation.environment.flatMap fun (name, value) =>
      name ++ '=' :: value ++ ['\n'])
    return 0
  else
    let values := invocation.arguments.map fun name => invocation.environment.lookup name
    invocation.write (values.flatMap fun value =>
      match value with
      | some value => value ++ ['\n']
      | none => [])
    return if values.all Option.isSome then 0 else 1

/-- Writes the working directory. -/
def printDirectory (invocation : Invocation) : Action Nat := do
  let tree ← Action.reply .look
  invocation.write (FileTree.pathText tree.workingDirectory ++ ['\n'])
  return 0

/-- Sends signals to processes. -/
def kill (invocation : Invocation) : Action Nat := do
  let (signal, processes) := match invocation.arguments with
    | ['-', 's'] :: name :: rest => (Shell.Signal.ofText? name 1, rest)
    | ['-', '-'] :: rest => (some 15, rest)
    | ('-' :: name) :: rest => (Shell.Signal.ofText? name 1, rest)
    | rest => (some 15, rest)
  match signal with
  | none =>
    invocation.complain "unknown signal".toList
    return 1
  | some signal =>
    Invocation.each
      (fun text => do
        let addressee : Addressee := match text with
          | '-' :: digits => .group (Text.digitsValue digits)
          | digits => .process (Text.digitsValue digits)
        if ← Action.reply (.signal addressee signal) then return 0
        else
          invocation.complain ('(' :: text ++ ") - No such process".toList)
          return 1)
      0 processes

/-- The microseconds that an argument stands for. -/
def duration? (text : Text) : Option Nat :=
  let scale? : Option Nat := match text.getLast? with
    | some 's' => some 1
    | some 'm' => some 60
    | some 'h' => some 3600
    | some 'd' => some 86400
    | _ => none
  let number := if scale?.isSome then text.dropLast else text
  if number = "infinity".toList ∨ number = "inf".toList then some Action.roundLimit
  else
    let read := Shell.Real.read number
    match read.rest, read.value with
    | [], .finite false significand exponent =>
      let (numerator, denominator) := Shell.Real.binaryPower exponent
      some (significand * numerator * 1000000 * scale?.getD 1 / denominator)
    | _, _ => none

/-- Waits for some time. -/
def sleep (invocation : Invocation) : Action Nat :=
  invocation.withGiven ⟨[], [], false⟩ 1 fun given => do
    if given.operands.isEmpty then invocation.missingOperand
    else
      let durations := given.operands.map fun text => (text, duration? text)
      let bad := durations.filter fun (_, duration) => duration.isNone
      if bad.isEmpty = false then
        let _ ← Invocation.each
          (fun (text, _) => do
            invocation.complain ("invalid time interval ".toList ++ marked text)
            return 0)
          0 bad
        writeError ("Try ".toList ++ marked (invocation.name ++ " --help".toList) ++
          " for more information.\n".toList)
        return 1
      else
        let total := durations.foldl (fun total (_, duration) => total + duration.getD 0) 0
        Action.reply (.sleep total)
        return 0

end ScriptDesk.Tool
