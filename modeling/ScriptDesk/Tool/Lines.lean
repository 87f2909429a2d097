import ScriptDesk.Shell.Numeral
import ScriptDesk.Shell.Pattern
import ScriptDesk.Tool.Relay

/-!
# Working on lines

The programs that count, order, select and rewrite the lines or characters that they read.
-/

namespace ScriptDesk.Tool

open Invocation

def withoutFeed (line : Text) : Text :=
  Text.dropOneTrailing '\n' line

/-- Reads operands one after the other. Complaints about those that cannot be read begin with
given words. Gives the texts and the status. -/
def readOperands (invocation : Invocation) (words : String) (marks : Text → Text) :
    List Text → Action (List Text × Nat)
  | [] => return ([], 0)
  | operand :: rest => do
    match ← readOperand operand with
    | .ok text =>
      let (texts, status) ← readOperands invocation words marks rest
      return (text :: texts, status)
    | .error (_, fault) =>
      invocation.complain (words.toList ++ marks operand ++ ": ".toList ++ fault.words)
      let (texts, _) ← readOperands invocation words marks rest
      return (texts, 1)

/-- Writes what a function makes of all that operands name, or of the input. -/
def rewriting (invocation : Invocation) (operands : List Text) (function : Text → Text) :
    Action Nat := do
  let names := if operands.isEmpty then [['-']] else operands
  let (texts, status) ← readOperands invocation "" shownName names
  invocation.write (function texts.flatten)
  return status

/-- Whether a character is a blank between words. -/
def isGap (character : Char) : Bool :=
  character = ' ' || (9 ≤ character.toNat && character.toNat ≤ 13)

/-- The numbers of lines, words and octets of a text, and the length of its longest line. -/
def counts (text : Text) : List Nat :=
  let words := text.foldl
    (fun (count, inWord) character =>
      if isGap character then (count, false)
      else if inWord then (count, true)
      else (count + 1, true))
    (0, false)
  let longest := ((Text.segments text).map List.length).foldl max 0
  [text.count '\n', words.1, text.length, text.length, longest]

def countLetters : List Char := ['l', 'w', 'm', 'c', 'L']

/-- A line of counts, with a name if there is one. -/
def countLine (width : Nat) (numbers : List Nat) (name : Option Text) : Text :=
  let column (number : Nat) : Text :=
    let digits := Text.decimal number
    List.replicate (width - digits.length) ' ' ++ digits
  let named := match name with
    | some name => ' ' :: name
    | none => []
  Text.joinWith [' '] (numbers.map column) ++ named ++ ['\n']

/-- Counts lines, words and octets. -/
def count (invocation : Invocation) : Action Nat :=
  invocation.withGiven
    ⟨countLetters.map (·, false),
      [("lines", 'l', false), ("words", 'w', false), ("chars", 'm', false),
        ("bytes", 'c', false), ("max-line-length", 'L', false)],
      false⟩ 1
    fun given => do
      let letters := if given.options.isEmpty then ['l', 'w', 'c'] else given.options.map Prod.fst
      let select (numbers : List Nat) : List Nat :=
        (countLetters.zip numbers).filterMap fun (letter, number) =>
          if letters.contains letter then some number else none
      let names := if given.operands.isEmpty then [['-']] else given.operands
      let tree ← Action.reply .look
      let standing ← Action.reply (.standing 0)
      let sizes := names.map fun name =>
        if name = ['-'] then standing.map (·.size)
        else if tree.isFile name then ((tree.readOctets name).toOption).map List.length
        else none
      let isSingle := names.length = 1 ∧ (select [0, 0, 0, 0, 0]).length = 1
      let total := sizes.foldl (fun total size => total + size.getD 0) 0
      let allKnown := (names.zip sizes).all fun (name, size) =>
        size.isSome || (name ≠ ['-'] && (tree.find name).toOption.isNone)
      let width :=
        if isSingle then 1
        else if allKnown then (Text.decimal total).length
        else max 7 (Text.decimal total).length
      let step (entry : List Nat × Nat) (name : Text) : Action (List Nat × Nat) := do
        let (sums, status) := entry
        let shown := if given.operands.isEmpty then none else some (shownName name)
        match ← readOperand name with
        | .ok text =>
          let numbers := counts text
          invocation.write (countLine width (select numbers) shown)
          let sum := (sums.zip numbers).zipIdx.map fun ((left, right), index) =>
            if index = 4 then max left right else left + right
          return (sum, status)
        | .error (isOpening, fault) =>
          invocation.complain (shownName name ++ ": ".toList ++ fault.words)
          if isOpening = false then
            invocation.write (countLine width (select [0, 0, 0, 0, 0]) shown)
          return (sums, 1)
      let (sums, status) ← names.foldlM step ([0, 0, 0, 0, 0], 0)
      if 1 < names.length then
        invocation.write (countLine width (select sums) (some "total".toList))
      return status

/-- How lines are compared. -/
structure Ordering_ where
  isNumeric : Bool
  foldsCase : Bool
  skipsBlanks : Bool
  isReversed : Bool

/-- The part of lines that is compared: the fields from one number to another. -/
structure SortKey where
  first : Nat
  last : Option Nat
  ordering : Ordering_

/-- A small letter as the capital one. -/
def capital (character : Char) : Char :=
  if 'a' ≤ character ∧ character ≤ 'z' then Char.ofNat (character.toNat - 32) else character

/-- The number at the beginning of a text, in parts of a million. -/
def leadingNumber (text : Text) : Int :=
  let trimmed := text.dropWhile fun character => character = ' ' || character = '\t'
  let (negative, digits) := match trimmed with
    | '-' :: rest => (true, rest)
    | rest => (false, rest)
  let whole := digits.takeWhile Char.isDigit
  let fraction := match digits.drop whole.length with
    | '.' :: rest => rest.takeWhile Char.isDigit
    | _ => []
  let parts := (fraction ++ List.replicate 6 '0').take 6
  let size : Int := Text.digitsValue whole * 1000000 + Text.digitsValue parts
  if negative then -size else size

def compareTexts (ordering : Ordering_) (left right : Text) : Ordering :=
  let trimmed (text : Text) : Text :=
    if ordering.skipsBlanks then
      text.dropWhile fun character => character = ' ' || character = '\t'
    else text
  let folded (text : Text) : Text :=
    if ordering.foldsCase then (trimmed text).map capital else trimmed text
  let found :=
    if ordering.isNumeric then compare (leadingNumber left) (leadingNumber right)
    else if folded left < folded right then .lt
    else if folded right < folded left then .gt
    else .eq
  if ordering.isReversed then found.swap else found

/-- The fields of a line. Where no separator is given, blanks stand in front of fields. -/
def lineFields (separator : Option Char) (line : Text) : List Text :=
  match separator with
  | some separator => Text.pieces separator line
  | none => blankFields line.length line
where
  /-- The fields with the blanks in front of them. The bound is the length of the line. -/
  blankFields : Nat → Text → List Text
    | _, [] => []
    | 0, _ => []
    | bound + 1, text =>
      let isBlank (character : Char) : Bool := character = ' ' || character = '\t'
      let blanks := text.takeWhile isBlank
      let word := (text.drop blanks.length).takeWhile fun character => !isBlank character
      (blanks ++ word) :: blankFields bound (text.drop (blanks.length + word.length))

def keyPart (separator : Option Char) (key : SortKey) (line : Text) : Text :=
  let fields := lineFields separator line
  let wanted := match key.last with
    | some last => (fields.take last).drop (key.first - 1)
    | none => fields.drop (key.first - 1)
  Text.joinWith (separator.toList) wanted

def orderingOf (letters : Text) : Ordering_ :=
  ⟨letters.contains 'n' || letters.contains 'g', letters.contains 'f', letters.contains 'b',
    letters.contains 'r'⟩

/-- The key that a value of an option asks for. Where it has no letters, those of the whole
apply. -/
def keyOf (whole : Text) (value : Text) : SortKey :=
  let (first, last) := match Text.pieces ',' value with
    | first :: last :: _ => (first, some last)
    | [first] => (first, none)
    | [] => (value, none)
  let isLetter (character : Char) : Bool := character.isAlpha
  let letters := value.filter isLetter
  let number (text : Text) : Nat := Text.digitsValue (text.takeWhile Char.isDigit)
  ⟨number first, last.map number, orderingOf (if letters.isEmpty then whole else letters)⟩

/-- Lines of which none compares as equal to the one before it. -/
def distinctLines (compares : Text → Text → Ordering) : List Text → List Text
  | [] => []
  | [line] => [line]
  | first :: second :: rest =>
    if compares first second = .eq then distinctLines compares (first :: rest)
    else first :: distinctLines compares (second :: rest)

/-- Reads operands, unless one of them cannot be read, which is complained about. -/
def readOrderly (invocation : Invocation) : List Text → Action (Option (List Text))
  | [] => return some []
  | operand :: rest => do
    match ← readOperand operand with
    | .ok text => return (← readOrderly invocation rest).map (text :: ·)
    | .error (isOpening, fault) =>
      let words := if isOpening then "cannot read: " else "read failed: "
      invocation.complain (words.toList ++ shownName operand ++ ": ".toList ++ fault.words)
      return none

/-- Puts lines in order. -/
def sort (invocation : Invocation) : Action Nat :=
  invocation.withGiven
    ⟨"nrufbsgcdiVhM".toList.map (·, false) ++ [('k', true), ('t', true), ('o', true)],
      [("numeric-sort", 'n', false), ("reverse", 'r', false), ("unique", 'u', false),
        ("ignore-case", 'f', false), ("ignore-leading-blanks", 'b', false),
        ("stable", 's', false), ("key", 'k', true), ("field-separator", 't', true),
        ("output", 'o', true)],
      false⟩ 2
    fun given => do
      let names := if given.operands.isEmpty then [['-']] else given.operands
      let some texts ← readOrderly invocation names
        | return 2
      let letters := given.options.map Prod.fst
      let separator := (given.value? 't').bind List.head?
      let keys := (given.options.filter fun (letter, _) => letter = 'k').map fun (_, value) =>
        keyOf letters value
      let whole := orderingOf letters
      let byKeys (left right : Text) : Ordering :=
        if keys.isEmpty then compareTexts whole left right
        else keys.foldl
          (fun found key => found.then (compareTexts key.ordering
            (keyPart separator key left) (keyPart separator key right)))
          .eq
      let last (left right : Text) : Ordering :=
        if given.has 'u' ∨ given.has 's' then .eq
        else compareTexts ⟨false, false, false, whole.isReversed⟩ left right
      let lines := texts.flatMap fun text => (closedLines text).map withoutFeed
      let sorted := lines.mergeSort fun left right =>
        ((byKeys left right).then (last left right)) ≠ .gt
      let shown := if given.has 'u' then distinctLines byKeys sorted else sorted
      let text := shown.flatMap fun line => line ++ ['\n']
      match given.value? 'o' with
      | none => invocation.write text
      | some path =>
        let _ ← Action.reply (.openFile path .replace operandDescriptor)
        let _ ← Action.reply (.write operandDescriptor text)
      return 0

/-- Groups of neighbouring lines that are the same to a key, each with its first line. -/
def lineGroups (key : Text → Text) (lines : List Text) : List (Text × Nat) :=
  (lines.foldl
    (fun groups line =>
      match groups with
      | (first, count) :: rest =>
        if key first = key line then (first, count + 1) :: rest else (line, 1) :: groups
      | [] => [(line, 1)])
    []).reverse

/-- Leaves out lines that repeat their neighbours. -/
def unique (invocation : Invocation) : Action Nat :=
  invocation.withGiven
    ⟨[('c', false), ('d', false), ('u', false), ('i', false)],
      [("count", 'c', false), ("repeated", 'd', false), ("unique", 'u', false),
        ("ignore-case", 'i', false)],
      false⟩ 1
    fun given => do
      let (texts, status) ← readOperands invocation "" shownName
        [given.operands.headD ['-']]
      if status ≠ 0 then return status
      let lines := texts.flatMap fun text => (closedLines text).map withoutFeed
      let key (line : Text) : Text := if given.has 'i' then line.map capital else line
      let groups := (lineGroups key lines).filter fun (_, count) =>
        (!given.has 'd' || decide (1 < count)) && (!given.has 'u' || count = 1)
      let shown := groups.flatMap fun (line, count) =>
        let digits := Text.decimal count
        (if given.has 'c' then List.replicate (7 - digits.length) ' ' ++ digits ++ [' ']
          else []) ++ line ++ ['\n']
      match given.operands with
      | [_, target] =>
        let _ ← Action.reply (.openFile target .replace operandDescriptor)
        let _ ← Action.reply (.write operandDescriptor shown)
      | _ => invocation.write shown
      return 0

/-- The characters that a set of `tr` stands for. The bound is the length of the set. -/
def setCharacters : Nat → Text → Text
  | 0, _ => []
  | _, [] => []
  | bound + 1, '\\' :: letter :: rest =>
    if '0' ≤ letter ∧ letter ≤ '7' then
      let digits := ((letter :: rest).take 3).takeWhile fun digit => '0' ≤ digit && digit ≤ '7'
      let value := digits.foldl (fun value digit => value * 8 + (digit.toNat - 48)) 0
      Char.ofNat (value % 256) :: setCharacters bound ((letter :: rest).drop digits.length)
    else
      let known : List (Char × Char) :=
        [('n', '\n'), ('t', '\t'), ('r', '\r'), ('a', '\x07'), ('b', '\x08'), ('f', '\x0c'),
          ('v', '\x0b')]
      (known.lookup letter).getD letter :: setCharacters bound rest
  | bound + 1, '[' :: ':' :: rest =>
    let name := rest.takeWhile Char.isAlpha
    match rest.drop name.length, Shell.Glob.classes.lookup name with
    | ':' :: ']' :: behind, some test =>
      ((List.range 256).map Char.ofNat).filter test ++ setCharacters bound behind
    | _, _ => '[' :: setCharacters bound (':' :: rest)
  | bound + 1, first :: '-' :: last :: rest =>
    if first ≤ last then
      ((List.range (last.toNat + 1 - first.toNat)).map fun offset =>
        Char.ofNat (first.toNat + offset)) ++ setCharacters bound rest
    else first :: setCharacters bound ('-' :: last :: rest)
  | bound + 1, character :: rest => character :: setCharacters bound rest

/-- Characters without those that follow one of the same kind out of a set. -/
def squeezed (set : Text) (text : Text) : Text :=
  (text.foldl
    (fun kept character =>
      if kept.head? = some character ∧ set.contains character then kept
      else character :: kept)
    []).reverse

/-- Passes on pieces of the input as a function rewrites them. -/
def rewriteInput (invocation : Invocation) (function : Text → Text) : Nat → Action Nat
  | 0 => return 0
  | bound + 1 => do
    let _ ← Action.reply .pause
    match ← Action.reply (.read 0 Action.pieceSize) with
    | .error fault =>
      invocation.complain ("read error: ".toList ++ fault.words)
      return 1
    | .ok [] => return 0
    | .ok piece =>
      invocation.write (function piece)
      rewriteInput invocation function bound

/-- Replaces or removes characters. -/
def translate (invocation : Invocation) : Action Nat :=
  invocation.withGiven
    ⟨"cCdst".toList.map (·, false),
      [("complement", 'c', false), ("delete", 'd', false), ("squeeze-repeats", 's', false)],
      true⟩ 1
    fun given => do
      let set (text : Text) : Text := setCharacters text.length text
      let from_ (text : Text) : Text :=
        if given.has 'c' ∨ given.has 'C' then
          ((List.range 256).map Char.ofNat).filter fun character =>
            (set text).contains character = false
        else set text
      match given.operands with
      | [] => invocation.missingOperand
      | [only] =>
        let first := from_ only
        if given.has 'd' then
          rewriteInput invocation (·.filter fun character => first.contains character = false)
            Action.roundLimit
        else if given.has 's' then
          rewriteInput invocation (squeezed first) Action.roundLimit
        else
          invocation.complain ("missing operand after ".toList ++ marked only)
          writeError ("Two strings must be given when translating.\nTry ".toList ++
            marked (invocation.name ++ " --help".toList) ++ " for more information.\n".toList)
          return 1
      | source :: target :: _ =>
        let first := from_ source
        let second := set target
        if given.has 'd' then
          rewriteInput invocation
            (fun text => squeezed (if given.has 's' then second else [])
              (text.filter fun character => first.contains character = false))
            Action.roundLimit
        else
          let padded := second ++
            List.replicate (first.length - second.length) (second.getLast?.getD ' ')
          let table := first.zip padded
          let replaced (text : Text) : Text :=
            text.map fun character =>
              ((table.reverse.lookup character)).getD character
          rewriteInput invocation
            (fun text =>
              if given.has 's' then squeezed second (replaced text) else replaced text)
            Action.roundLimit

/-- Ranges of numbers, without an end where everything behind counts. -/
def rangesOf? (text : Text) : Option (List (Nat × Option Nat)) :=
  (Text.pieces ',' text).mapM fun piece =>
    let first := piece.takeWhile Char.isDigit
    match piece.drop first.length with
    | [] => if first.isEmpty then none else
      some (Text.digitsValue first, some (Text.digitsValue first))
    | '-' :: last =>
      if last.all Char.isDigit = false ∨ (first.isEmpty ∧ last.isEmpty) then none
      else
        some (if first.isEmpty then 1 else Text.digitsValue first,
          if last.isEmpty then none else some (Text.digitsValue last))
    | _ => none

/-- The values whose numbers lie in ranges. -/
def inRanges {Value : Type} (ranges : List (Nat × Option Nat)) (values : List Value) :
    List Value :=
  (values.zipIdx.filter fun (_, index) =>
    ranges.any fun (first, last) =>
      decide (first ≤ index + 1) && (last.map fun last => decide (index + 1 ≤ last)).getD true).map
    Prod.fst

/-- Selects parts of lines. -/
def cut (invocation : Invocation) : Action Nat :=
  invocation.withGiven
    ⟨[('b', true), ('c', true), ('f', true), ('d', true), ('s', false), ('n', false)],
      [("bytes", 'b', true), ("characters", 'c', true), ("fields", 'f', true),
        ("delimiter", 'd', true), ("only-delimited", 's', false)],
      false⟩ 1
    fun given => do
      let separator := ((given.value? 'd').bind List.head?).getD '\t'
      let list := (given.value? 'f').or ((given.value? 'c').or (given.value? 'b'))
      match list.map rangesOf? with
      | none =>
        invocation.complainOfUse
          "you must specify a list of bytes, characters, or fields".toList
        return 1
      | some none =>
        invocation.complainOfUse "invalid field range".toList
        return 1
      | some (some ranges) =>
        let select (line : Text) : Option Text :=
          if (given.value? 'f').isNone then some (inRanges ranges line)
          else if line.contains separator = false then
            if given.has 's' then none else some line
          else some (Text.joinWith [separator] (inRanges ranges (Text.pieces separator line)))
        rewriting invocation given.operands fun text =>
          (((closedLines text).map withoutFeed).filterMap select).flatMap (· ++ ['\n'])

/-- Writes lines back to front. -/
def reverseLines (invocation : Invocation) : Action Nat :=
  rewriting invocation invocation.arguments fun text =>
    (closedLines text).flatMap fun line =>
      if line.getLast? = some '\n' then line.dropLast.reverse ++ ['\n'] else line.reverse

def lastLinesFirst (invocation : Invocation) : Action Nat :=
  rewriting invocation invocation.arguments fun text => (closedLines text).reverse.flatten

/-- Puts numbers in front of lines that are not empty. -/
def numberLines (invocation : Invocation) : Action Nat :=
  invocation.withGiven ⟨[('b', true)], [("body-numbering", 'b', true)], false⟩ 1 fun given =>
    let numbersAll := given.value? 'b' = some ['a']
    rewriting invocation given.operands fun text =>
      ((closedLines text).foldl
        (fun (shown, number) line =>
          if line = ['\n'] ∧ numbersAll = false then
            (shown ++ [List.replicate 7 ' ' ++ line], number)
          else (shown ++ [Showing.numberText number ++ line], number + 1))
        (([] : List Text), 1)).1.flatten

end ScriptDesk.Tool
