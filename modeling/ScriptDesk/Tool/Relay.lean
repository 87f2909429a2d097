import ScriptDesk.Tool.Invocation

/-!
# Relaying text

The programs that pass on what they read, all of it or its beginning or end, and those that
write without reading.
-/

namespace ScriptDesk.Tool

open Invocation

/-- How text is shown that is relayed. -/
structure Showing where
  numbersAll : Bool
  numbersFilled : Bool
  squeezes : Bool
  marksEnds : Bool
  marksTabs : Bool
  marksOthers : Bool

/-- How far the showing of text has come: the number of the last line, and how many line feeds
stand at its end, if it has been begun or ended. -/
structure ShowingState where
  line : Nat
  feeds : Option Nat

namespace Showing

/-- What options ask for. -/
def of (given : Given) : Showing where
  numbersAll := given.has 'n'
  numbersFilled := given.has 'b'
  squeezes := given.has 's'
  marksEnds := given.has 'A' || given.has 'e' || given.has 'E'
  marksTabs := given.has 'A' || given.has 't' || given.has 'T'
  marksOthers := given.has 'A' || given.has 'e' || given.has 't' || given.has 'v'

def isPlain (showing : Showing) : Bool :=
  !(showing.numbersAll || showing.numbersFilled || showing.squeezes || showing.marksEnds ||
    showing.marksTabs || showing.marksOthers)

def numberText (line : Nat) : Text :=
  let digits := Text.decimal line
  List.replicate (6 - digits.length) ' ' ++ digits ++ ['\t']

/-- A character where control characters are to be seen. -/
def visible (code : Nat) : Text :=
  if code < 32 then ['^', Char.ofNat (code + 64)]
  else if code = 127 then ['^', '?']
  else if code < 128 then [Char.ofNat code]
  else if code < 160 then "M-^".toList ++ [Char.ofNat (code - 64)]
  else if code = 255 then "M-^?".toList
  else "M-".toList ++ [Char.ofNat (code - 128)]

/-- A character that is no line feed. -/
def character (showing : Showing) (character : Char) : Text :=
  if character = '\t' then if showing.marksTabs then ['^', 'I'] else ['\t']
  else if showing.marksOthers then visible character.toNat
  else [character]

/-- Shows a character. What has been shown stands in reverse order. -/
def step (showing : Showing) (shown : ShowingState × Text) (letter : Char) :
    ShowingState × Text :=
  let (state, text) := shown
  let put (piece text : Text) : Text := piece.reverse ++ text
  if letter = '\n' then
    let feeds := match state.feeds with
      | none => 0
      | some count => min 2 (count + 1)
    if showing.squeezes ∧ feeds = 2 then (⟨state.line, some 2⟩, text)
    else
      let isNumbered := showing.numbersAll && !showing.numbersFilled && decide (0 < feeds)
      let line := if isNumbered then state.line + 1 else state.line
      let text := if isNumbered then put (numberText line) text else text
      let text := if showing.marksEnds then '$' :: text else text
      (⟨line, some feeds⟩, '\n' :: text)
  else
    let isNumbered := state.feeds.isSome && (showing.numbersAll || showing.numbersFilled)
    let line := if isNumbered then state.line + 1 else state.line
    let text := if isNumbered then put (numberText line) text else text
    (⟨line, none⟩, put (showing.character letter) text)

def text (showing : Showing) (state : ShowingState) (text : Text) : ShowingState × Text :=
  if showing.isPlain then (state, text)
  else
    let (state, shown) := text.foldl showing.step (state, [])
    (state, shown.reverse)

end Showing

/-- The options of `cat`. -/
def catOptions : Known :=
  ⟨"AbeEnstTuv".toList.map (·, false),
    [("show-all", 'A', false), ("number-nonblank", 'b', false), ("show-ends", 'E', false),
      ("number", 'n', false), ("squeeze-blank", 's', false), ("show-tabs", 'T', false),
      ("show-nonprinting", 'v', false), ("help", 'u', false), ("version", 'u', false)],
    false⟩

/-- Passes on what a descriptor gives. Gives how far the showing has come, and a fault. -/
def relayFrom (invocation : Invocation) (showing : Showing) (descriptor : Nat) :
    Nat → ShowingState → Action (ShowingState × Option Fault)
  | 0, state => return (state, none)
  | bound + 1, state => do
    let _ ← Action.reply .pause
    match ← Action.reply (.read descriptor Action.pieceSize) with
    | .error fault => return (state, some fault)
    | .ok [] => return (state, none)
    | .ok piece =>
      let (state, shown) := showing.text state piece
      invocation.write shown
      relayFrom invocation showing descriptor bound state

/-- Whether a descriptor leads to the file that the output is appended to. -/
def feedsItself (descriptor : Nat) : Action Bool := do
  match ← Action.reply (.standing descriptor), ← Action.reply (.standing 1) with
  | some source, some target =>
    return source.path = target.path && decide (source.offset < target.offset)
  | _, _ => return false

/-- Passes on what an operand names. -/
def relayOperand (invocation : Invocation) (showing : Showing) (state : ShowingState)
    (operand : Text) : Action (ShowingState × Nat) := do
  let opened : Except Fault Nat ←
    if operand = ['-'] then pure (.ok 0)
    else
      match ← Action.reply (.openFile operand .read operandDescriptor) with
      | .ok () => pure (.ok operandDescriptor)
      | .error fault => pure (.error fault)
  match opened with
  | .error fault =>
    invocation.complain (shownName operand ++ ": ".toList ++ fault.words)
    return (state, 1)
  | .ok descriptor =>
    let refused ← feedsItself descriptor
    let (state, status) ←
      if refused then do
        invocation.complain (shownName operand ++ ": input file is output file".toList)
        pure (state, 1)
      else do
        let (state, fault) ← relayFrom invocation showing descriptor Action.roundLimit state
        match fault with
        | none => pure (state, 0)
        | some fault =>
          invocation.complain (shownName operand ++ ": ".toList ++ fault.words)
          pure (state, 1)
    if descriptor ≠ 0 then Action.reply (.close descriptor)
    return (state, status)

/-- Passes on what operands name one after the other, given the status so far. -/
def relayAll (invocation : Invocation) (showing : Showing) :
    ShowingState → Nat → List Text → Action Nat
  | _, status, [] => return status
  | state, status, operand :: rest => do
    let (state, next) ← relayOperand invocation showing state operand
    relayAll invocation showing state (max status next) rest

/-- Passes on files or the input. An input that is not open is noticed at the end. -/
def cat (invocation : Invocation) : Action Nat :=
  invocation.withGiven catOptions 1 fun given => do
    let operands := if given.operands.isEmpty then [['-']] else given.operands
    let status ← relayAll invocation (.of given) ⟨0, some 0⟩ 0 operands
    let isOpen ← Action.reply (.duplicate 0 0)
    if operands.contains ['-'] ∧ isOpen = false then
      invocation.complain "closing standard input: Bad file descriptor".toList
      return 1
    else return status

/-- How much of a text is wanted. -/
inductive Amount where
  | lines (count : Nat)
  | octets (count : Nat)
  /-- All but so much, or all from so much on. -/
  | otherLines (count : Nat)
  | otherOctets (count : Nat)

namespace Amount

/-- The count that a text spells, with a letter for its unit. -/
def count? (text : Text) : Option Nat :=
  let digits := text.takeWhile Char.isDigit
  let scale? := match text.drop digits.length with
    | [] => some 1
    | ['b'] => some 512
    | ['k'] => some 1024
    | ['K'] => some 1024
    | ['M'] => some 1048576
    | _ => none
  if digits.isEmpty then none else scale?.map (Text.digitsValue digits * ·)

def front : Amount → Text → Text
  | .lines count, text => ((closedLines text).take count).flatten
  | .octets count, text => text.take count
  | .otherLines count, text =>
    let lines := closedLines text
    (lines.take (lines.length - count)).flatten
  | .otherOctets count, text => text.take (text.length - count)

def back : Amount → Text → Text
  | .lines count, text =>
    let lines := closedLines text
    (lines.drop (lines.length - count)).flatten
  | .octets count, text => text.drop (text.length - count)
  | .otherLines count, text => ((closedLines text).drop (count - 1)).flatten
  | .otherOctets count, text => text.drop (count - 1)

/-- The amount that a value of an option asks for. The mark in front of the number asks for
what is left. -/
def ofValue? (mark : Char) (isLines : Bool) (value : Text) : Option Amount :=
  let (isOther, digits) := match value with
    | first :: rest =>
      if first = mark then (true, rest)
      else if first = '-' ∨ first = '+' then (false, rest)
      else (false, value)
    | [] => (false, [])
  (count? digits).map fun count =>
    match isOther, isLines with
    | false, true => .lines count
    | false, false => .octets count
    | true, true => .otherLines count
    | true, false => .otherOctets count

end Amount

/-- The options of `head` and `tail`. -/
def amountOptions : Known :=
  ⟨[('n', true), ('c', true), ('q', false), ('v', false), ('f', false), ('F', false)],
    [("lines", 'n', true), ("bytes", 'c', true), ("quiet", 'q', false), ("silent", 'q', false),
      ("verbose", 'v', false), ("follow", 'f', false)],
    false⟩

/-- Arguments in which a number alone stands for a number of lines. -/
def withLineOption : List Text → List Text
  | ('-' :: digit :: digits) :: rest =>
    if digit.isDigit ∧ digits.all Char.isDigit then "-n".toList :: (digit :: digits) :: rest
    else ('-' :: digit :: digits) :: rest
  | arguments => arguments

/-- The amount that options ask for, or the words for why they cannot. -/
def amountOf (mark : Char) (given : Given) : Except Text Amount :=
  match given.options.reverse.find? fun (letter, _) => letter = 'n' ∨ letter = 'c' with
  | none => .ok (.lines 10)
  | some (letter, value) =>
    match Amount.ofValue? mark (letter = 'n') value with
    | some amount => .ok amount
    | none =>
      .error ("invalid number of ".toList ++
        (if letter = 'n' then "lines: ".toList else "bytes: ".toList) ++ marked value)

/-- What stands in front of one of several files. -/
def fileHeading (isFirst : Bool) (operand : Text) : Text :=
  let name := if operand = ['-'] then "standard input".toList else operand
  (if isFirst then [] else ['\n']) ++ "==> ".toList ++ name ++ " <==\n".toList

/-- Writes lines of a descriptor as long as some are wanted. What has been read beyond them is
given back. -/
def writeLines (invocation : Invocation) (descriptor : Nat) : Nat → Nat → Action (Option Fault)
  | 0, _ => return none
  | bound + 1, count => do
    if count = 0 then return none
    let _ ← Action.reply .pause
    match ← Action.reply (.read descriptor 8192) with
    | .error fault => return some fault
    | .ok [] => return none
    | .ok piece =>
      let lines := closedLines piece
      let wanted := (lines.take count).flatten
      invocation.write wanted
      let ended := wanted.count '\n'
      if count ≤ ended then
        Action.reply (.stepBack descriptor (piece.length - wanted.length))
        return none
      else writeLines invocation descriptor bound (count - ended)

/-- Writes octets of a descriptor as long as some are wanted. -/
def writeOctets (invocation : Invocation) (descriptor : Nat) : Nat → Nat → Action (Option Fault)
  | 0, _ => return none
  | bound + 1, count => do
    if count = 0 then return none
    let _ ← Action.reply .pause
    match ← Action.reply (.read descriptor (min count 8192)) with
    | .error fault => return some fault
    | .ok [] => return none
    | .ok piece =>
      invocation.write piece
      writeOctets invocation descriptor bound (count - piece.length)

def writePart (invocation : Invocation) (descriptor : Nat) (part : Text → Text) :
    Action (Option Fault) := do
  match ← Action.reply (.read descriptor Action.pieceSize) with
  | .error fault => return some fault
  | .ok piece =>
    let rest ← if piece.isEmpty then pure [] else Action.readAll descriptor
    invocation.write (part (piece ++ rest))
    return none

/-- Writes a part of one of several operands, or of the only one. -/
def partOfOperand (invocation : Invocation) (hasHeading : Bool)
    (part : Nat → Action (Option Fault)) (entry : Text × Nat) : Action Nat := do
  let (operand, index) := entry
  let opened ←
    if operand = ['-'] then pure (Except.ok ())
    else Action.reply (.openFile operand .read operandDescriptor)
  match opened with
  | .error fault =>
    invocation.complain
      ("cannot open ".toList ++ marked operand ++ " for reading: ".toList ++ fault.words)
    return 1
  | .ok () =>
    let descriptor := if operand = ['-'] then 0 else operandDescriptor
    if hasHeading then invocation.write (fileHeading (index = 0) operand)
    let fault ← part descriptor
    if descriptor ≠ 0 then Action.reply (.close descriptor)
    match fault with
    | none => return 0
    | some fault =>
      let name := if descriptor = 0 then "standard input".toList else operand
      invocation.complain ("error reading ".toList ++ marked name ++ ": ".toList ++ fault.words)
      return 1

def partOfEach (invocation : Invocation) (given : Given)
    (part : Nat → Action (Option Fault)) : Action Nat := do
  let operands := if given.operands.isEmpty then [['-']] else given.operands
  let hasHeading := given.has 'v' || (decide (1 < operands.length) && !given.has 'q')
  Invocation.each (partOfOperand invocation hasHeading part) 0 operands.zipIdx

/-- Passes on the beginning of files or of the input. -/
def head (invocation : Invocation) : Action Nat :=
  let arguments := withLineOption invocation.arguments
  { invocation with arguments := arguments }.withGiven amountOptions 1 fun given => do
    match amountOf '-' given with
    | .error words =>
      invocation.complain words
      return 1
    | .ok amount =>
      partOfEach invocation given fun descriptor =>
        match amount with
        | .lines count => writeLines invocation descriptor Action.roundLimit count
        | .octets count => writeOctets invocation descriptor Action.roundLimit count
        | other => writePart invocation descriptor other.front

/-- Passes on the end of files or of the input. -/
def tail (invocation : Invocation) : Action Nat :=
  let arguments := withLineOption invocation.arguments
  { invocation with arguments := arguments }.withGiven amountOptions 1 fun given => do
    match amountOf '+' given with
    | .error words =>
      invocation.complain words
      return 1
    | .ok amount =>
      partOfEach invocation given fun descriptor =>
        writePart invocation descriptor amount.back

/-- Opens files to write to. Gives the descriptors of those that could be opened. -/
def openTargets (invocation : Invocation) (mode : OpenMode) :
    List Nat → Nat → List (Text × Nat) → Action (List Nat × Nat)
  | opened, status, [] => return (opened, status)
  | opened, status, (path, index) :: rest => do
    let descriptor := operandDescriptor + index
    match ← Action.reply (.openFile path mode descriptor) with
    | .ok () => openTargets invocation mode (descriptor :: opened) status rest
    | .error fault =>
      invocation.complain (shownName path ++ ": ".toList ++ fault.words)
      openTargets invocation mode opened 1 rest

/-- Passes on the input to the output and to descriptors. -/
def relayToAll (invocation : Invocation) (descriptors : List Nat) : Nat → Action Unit
  | 0 => return ()
  | bound + 1 => do
    let _ ← Action.reply .pause
    match ← Action.reply (.read 0 Action.pieceSize) with
    | .error _ => return ()
    | .ok [] => return ()
    | .ok piece =>
      invocation.write piece
      writeEach piece descriptors
      relayToAll invocation descriptors bound
where
  /-- Writes a piece to descriptors. -/
  writeEach (piece : Text) : List Nat → Action Unit
    | [] => return ()
    | descriptor :: rest => do
      let _ ← Action.reply (.write descriptor piece)
      writeEach piece rest

/-- Passes on the input to the output and to files. -/
def tee (invocation : Invocation) : Action Nat :=
  invocation.withGiven
    ⟨[('a', false), ('i', false)], [("append", 'a', false), ("ignore-interrupts", 'i', false)],
      false⟩ 1
    fun given => do
      let mode : OpenMode := if given.has 'a' then .extend else .replace
      let (opened, status) ← openTargets invocation mode [] 0 given.operands.zipIdx
      relayToAll invocation opened.reverse Action.roundLimit
      return status

/-- Writes a piece again and again. -/
def repeatPiece (invocation : Invocation) (piece : Text) : Nat → Action Nat
  | 0 => return 0
  | bound + 1 => do
    let _ ← Action.reply .pause
    invocation.write piece
    repeatPiece invocation piece bound

/-- Writes a line again and again. -/
def yes (invocation : Invocation) : Action Nat :=
  let words := match invocation.arguments with
    | ['-', '-'] :: rest => rest
    | words => words
  let line := (if words.isEmpty then ['y'] else Text.joinWith [' '] words) ++ ['\n']
  let count := max 1 (8192 / line.length)
  repeatPiece invocation (List.replicate count line).flatten Action.roundLimit

end ScriptDesk.Tool
