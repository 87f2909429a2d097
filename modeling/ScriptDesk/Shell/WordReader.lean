import ScriptDesk.Shell.Reader

/-!
# Reading words

A word is read one character after the other. What a character means depends on the marks
before it: quotation marks, braces around a parameter, and the brackets of a sum; each
opens a level of its own, or changes the one at hand. The parts that are open are kept in a
list, the innermost first. How a command within a word is read is given from outside.
-/

namespace ScriptDesk.Shell

/-- How many characters a script may have, those of aliases included. -/
def readingBound : Nat := 1000000000000

/-- What characters mean on a level. -/
inductive Level.Mode where
  | plain
  /-- Between quotation marks that let some characters keep their meaning. -/
  | double
  | single
  | sum
deriving DecidableEq

/-- A level of a word. -/
structure Level where
  mode : Level.Mode
  /-- Most characters keep a backslash that stands before them. -/
  keepsBackslash : Bool
  /-- How many parameters in braces are open. -/
  braces : Nat
  /-- How many of them began between quotation marks. -/
  quotedBraces : Nat
  /-- The level is between quotation marks within braces. -/
  isInner : Bool
  /-- The level ends with its last brace. -/
  endsWithBraces : Bool
  parentheses : Nat

/-- A level on which nothing is open. -/
def Level.start (mode : Level.Mode) (keepsBackslash : Bool) : Level :=
  ⟨mode, keepsBackslash, 0, 0, false, false, 0⟩

/-- What makes a part out of the word within it. -/
inductive Opening where
  | word
  | parameter (name : Text) (use : Word → Use) (quoted : Bool)
  | sum (quoted : Bool)

/-- A part that is open. Its own parts stand in reverse order, and so do the characters
behind them. -/
structure Frame where
  opening : Opening
  parts : List Part
  text : Text
  textIsQuoted : Bool
  /-- Everything in the part is quoted. -/
  isQuoted : Bool
  isBetweenMarks : Bool

namespace Frame

/-- A part in which there is nothing yet. -/
def start (opening : Opening) (isQuoted : Bool) : Frame :=
  ⟨opening, [], [], false, isQuoted, false⟩

/-- Whether what is added to the part is quoted. -/
def quotes (frame : Frame) : Bool :=
  frame.isQuoted || frame.isBetweenMarks

/-- The part with its characters as a part of its own. -/
def settled (frame : Frame) : Frame :=
  if frame.text.isEmpty then frame
  else
    let text := frame.text.reverse
    { frame with
      parts := (if frame.textIsQuoted then .quoted text else .bare text) :: frame.parts
      text := [] }

def add (frame : Frame) (part : Part) : Frame :=
  let settled := frame.settled
  { settled with parts := part :: settled.parts }

def put (frame : Frame) (character : Char) (quoted : Bool) : Frame :=
  let quoted := quoted || frame.quotes
  let settled := if frame.textIsQuoted = quoted then frame else frame.settled
  { settled with text := character :: settled.text, textIsQuoted := quoted }

/-- Adds a quotation mark. All parameters between two marks need no marks: where there are
none of them, there is no word either. -/
def mark (frame : Frame) : Frame :=
  let settled := frame.settled
  match settled.isBetweenMarks, settled.parts with
  | true, .parameter ['@'] .plain _ :: .edge :: parts =>
    { settled with
      parts := .parameter ['@'] .plain true :: parts
      isBetweenMarks := false }
  | _, _ =>
    { settled with
      parts := .edge :: settled.parts
      isBetweenMarks := !settled.isBetweenMarks }

def word (frame : Frame) : Word :=
  frame.settled.parts.reverse

/-- The part, if it is not the whole word. -/
def part? (frame : Frame) : Option Part :=
  match frame.opening with
  | .word => none
  | .parameter name use quoted => some (.parameter name (use frame.word) quoted)
  | .sum quoted => some (.sum frame.word quoted)

end Frame

/-- A word that is being read. -/
structure WordState where
  level : Level
  outerLevels : List Level
  frame : Frame
  outerFrames : List Frame
  /-- Something has been quoted. -/
  hasQuotes : Bool
  /-- The word is a document. -/
  isDocument : Bool

namespace WordState

/-- A word of which nothing has been read. -/
def start (mode : Level.Mode) (isDocument : Bool) : WordState where
  level := .start mode (mode = .double)
  outerLevels := []
  frame := .start .word isDocument
  outerFrames := []
  hasQuotes := false
  isDocument := isDocument

def put (state : WordState) (character : Char) (quoted : Bool) : WordState :=
  { state with frame := state.frame.put character quoted }

def add (state : WordState) (part : Part) : WordState :=
  { state with frame := state.frame.add part }

/-- Adds a quotation mark. In a document they have no meaning. -/
def mark (state : WordState) : WordState :=
  if state.isDocument then state else { state with frame := state.frame.mark }

def withLevel (state : WordState) (level : Level) : WordState :=
  { state with level := level }

def pushLevel (state : WordState) (level : Level) : WordState :=
  { state with level := level, outerLevels := state.level :: state.outerLevels }

def popLevel (state : WordState) : WordState :=
  match state.outerLevels with
  | [] => state
  | level :: levels => { state with level := level, outerLevels := levels }

def openFrame (state : WordState) (opening : Opening) (isQuoted : Bool) : WordState :=
  { state with
    frame := .start opening isQuoted
    outerFrames := state.frame :: state.outerFrames }

def closeFrame (state : WordState) : WordState :=
  match state.frame.part?, state.outerFrames with
  | some part, outer :: others =>
    { state with frame := outer.add part, outerFrames := others }
  | _, _ => state

/-- The word, once everything in it is closed. -/
def word (state : WordState) : Word :=
  state.frame.word

/-- A quotation mark that leaves characters no meaning begins. -/
def beginSingle (state : WordState) : WordState :=
  (state.withLevel { state.level with mode := .single }).mark

/-- Notes a quotation mark within braces. -/
def toggleInner (state : WordState) : WordState :=
  if 0 < state.level.braces then
    state.withLevel { state.level with isInner := !state.level.isInner }
  else state

/-- A quotation mark that leaves some characters their meaning begins. -/
def beginDouble (state : WordState) : WordState :=
  (state.withLevel { state.level with mode := .double, keepsBackslash := true }).toggleInner.mark

/-- A quotation mark ends. -/
def endQuotes (state : WordState) (character : Char) : WordState :=
  if state.isDocument ∧ state.level.braces = 0 then state.put character false
  else
    let left :=
      if state.level.quotedBraces = 0 then
        state.withLevel { state.level with mode := .plain, keepsBackslash := false }
      else state
    let noted := { left with hasQuotes := true }
    if character = '"' then noted.toggleInner.mark else noted.mark

def closeBrace (state : WordState) : WordState :=
  let level := state.level
  if level.isInner = false ∧ 0 < level.braces then
    let closed := state.withLevel { level with braces := level.braces - 1 }
    let left :=
      if level.braces = 1 ∧ level.endsWithBraces then closed.popLevel
      else if 0 < level.quotedBraces then
        closed.withLevel { closed.level with quotedBraces := level.quotedBraces - 1 }
      else closed
    left.closeFrame
  else state.put '}' false

/-- A parameter with a word behind it, which a brace is to close. -/
def openParameter (state : WordState) (name : Text) (use : Word → Use) (usesPlain : Bool)
    (keepsQuotes : Bool) : WordState :=
  let mode :=
    if usesPlain then .plain
    else if state.level.mode = .sum then .double
    else state.level.mode
  let leveled :=
    if mode ≠ state.level.mode ∨ state.level.isInner then
      state.pushLevel { Level.start mode (mode ≠ .plain) with endsWithBraces := true }
    else state
  let level := leveled.level
  let counted := leveled.withLevel { level with
    braces := level.braces + 1
    quotedBraces := level.quotedBraces + if level.keepsBackslash then 1 else 0 }
  let quoted := state.frame.quotes
  counted.openFrame (.parameter name use quoted) (keepsQuotes && quoted)

end WordState

namespace Reading

def isSpecialParameter (character : Char) : Bool :=
  "@*#?-$!0123456789".toList.contains character

/-- What a character behind the name of a parameter makes of it, without a colon. -/
def choiceOf? (character : Char) : Option Choice :=
  if character = '-' then some .default
  else if character = '+' then some .instead
  else if character = '?' then some .demand
  else if character = '=' then some .assign
  else none

/-- The name of a parameter in braces, the character behind it, and whether its length is
asked for. There is no name where there should be one. -/
def parameterName (first : Option Char) :
    Reading (Option Text × Option Char × Bool) := do
  match first with
  | none => return (none, none, false)
  | some letter =>
    if beginsName letter then
      let (name, following) ← joinedWhile isNameChar readingBound [] first
      return (some name, following, false)
    else if letter.isDigit then
      let (name, following) ← joinedWhile Char.isDigit readingBound [] first
      return (some name, following, false)
    else if letter = '}' then return (none, first, false)
    else if letter ≠ '#' then
      let following ← nextJoined
      return (if isSpecialParameter letter then some [letter] else none, following, false)
    else
      let second ← nextJoined
      match second with
      | none => return (some ['#'], none, false)
      | some letter =>
        if beginsName letter then
          let (name, following) ← joinedWhile isNameChar readingBound [] second
          return (some name, following, true)
        else if letter.isDigit then
          return (some [letter], ← nextJoined, true)
        else
          let third ← nextJoined
          if letter = '}' ∨ third ≠ some '}' then
            giveBack third
            return (some ['#'], second, false)
          else if isSpecialParameter letter then return (some [letter], third, true)
          else return (none, third, false)

/-- Reads what follows the name of a parameter in braces. -/
def parameterUse (state : WordState) (name : Text) (following : Option Char) :
    Reading WordState := do
  let unknown := state.openParameter name (fun _ => .unknown) false true
  match following with
  | none => return unknown
  | some '}' => return state.add (.parameter name .plain state.frame.quotes)
  | some ':' =>
    let letter ← nextJoined
    match letter with
    | some '}' => return state.openParameter name (fun _ => .plain) false true
    | letter =>
      match letter.bind choiceOf? with
      | some choice =>
        return state.openParameter name (.choice choice true) false
          (choice = .default ∨ choice = .instead)
      | none => return unknown
  | some letter =>
    if letter = '%' ∨ letter = '#' then
      let second ← nextJoined
      let longest := second = some letter
      if longest = false then giveBack second
      return state.openParameter name (.trimmed (letter = '#') longest) true false
    else
      match choiceOf? letter with
      | some choice =>
        return state.openParameter name (.choice choice false) false
          (choice = .default ∨ choice = .instead)
      | none => return unknown

def bracedParameter (state : WordState) : Reading WordState := do
  let (name, following, asksLength) ← parameterName (← nextJoined)
  match name, asksLength with
  | some name, false => parameterUse state name following
  | some name, true =>
    if following = some '}' then
      return state.add (.parameter name .length state.frame.quotes)
    else
      giveBack following
      return state.openParameter name (fun _ => .unknown) false true
  | none, _ =>
    giveBack following
    return state.openParameter [] (fun _ => .unknown) false true

/-- The text of a command between two grave accents. -/
def accentedText (keepsQuotes : Bool) : Nat → Text → Reading Text
  | 0, found => pure found.reverse
  | bound + 1, found => do
    match ← nextJoined with
    | none => fail "EOF in backquote substitution".toList
    | some '\\' =>
      match ← next with
      | none => accentedText keepsQuotes bound ('\\' :: found)
      | some letter =>
        if letter = '\\' ∨ letter = graveAccent ∨ letter = '$' ∨
            (keepsQuotes = true ∧ letter = '"') then
          accentedText keepsQuotes bound (letter :: found)
        else accentedText keepsQuotes bound (letter :: '\\' :: found)
    | some letter =>
      if letter = graveAccent then return found.reverse
      else
        if letter = '\n' then countLine
        accentedText keepsQuotes bound (letter :: found)

/-- Reads a command between two grave accents, whose lines are counted on their own. -/
def accentedCommand (readCommand : Reading (Option Command)) (keepsQuotes : Bool) :
    Reading (Option Command) := do
  let text ← accentedText keepsQuotes readingBound []
  let outer ← get
  set { Reader.start text 1 outer.aliases outer.nextDocument with
    documents := outer.documents, activeAliases := outer.activeAliases }
  let command ← readCommand
  modify fun inner => { outer with
    documents := inner.documents, nextDocument := inner.nextDocument, isPushedBack := false }
  return command

def afterDollar (readBracketed : Reading (Option Command)) (state : WordState) :
    Reading WordState := do
  let isMark := (← get).checks.endMark
  match ← nextJoined with
  | none => return state.put '$' false
  | some letter =>
    if isMark then
      giveBack (some letter)
      return state.put '$' false
    else if letter = '(' then
      let second ← nextJoined
      if second = some '(' then
        let quoted := state.frame.quotes
        return (state.pushLevel (.start .sum true)).openFrame (.sum quoted) false
      else
        giveBack second
        let command ← readBracketed
        return state.add (.output command state.frame.quotes)
    else if letter = '{' then bracedParameter state
    else if beginsName letter then
      let (name, following) ← joinedWhile isNameChar readingBound [] (some letter)
      giveBack following
      return state.add (.parameter name .plain state.frame.quotes)
    else if isSpecialParameter letter then
      return state.add (.parameter [letter] .plain state.frame.quotes)
    else
      giveBack (some letter)
      return state.put '$' false

def afterBackslash (state : WordState) : Reading WordState := do
  match ← next with
  | none => return state.put '\\' true
  | some letter =>
    let level := state.level
    let losesMark :=
      letter = '\\' ∨ letter = graveAccent ∨ letter = '$' ∨
        (letter = '"' ∧ ¬ (state.isDocument = true ∧ level.braces = 0)) ∨
        (letter = '}' ∧ 0 < level.braces)
    let kept :=
      if level.keepsBackslash = true ∧ ¬ losesMark then state.put '\\' true else state
    return { kept.put letter true with hasQuotes := true }

def closeSum (state : WordState) : Reading WordState := do
  let level := state.level
  if 0 < level.parentheses then
    return (state.put ')' false).withLevel { level with parentheses := level.parentheses - 1 }
  else
    let second ← nextJoined
    if second = some ')' then return state.popLevel.closeFrame
    else
      giveBack second
      return state.put ')' false

/-- Whether a character ends a word where it is not quoted. -/
def endsWord (character : Char) : Bool :=
  " \t\n<>();&|".toList.contains character || character = Reader.aliasEnd

/-- The text behind the mark that ends a document, if the mark stands alone in its line. -/
def behindEndMark? (document : AwaitedDocument) (text : Text) : Option Text :=
  match Text.dropLeading? document.endMark text with
  | some [] => some []
  | some ('\n' :: rest) => some rest
  | _ => none

/-- Begins a line of a document: tabs may be left out. Tells whether the document ends. -/
def beginLine (document : AwaitedDocument) : Reading Bool := do
  if document.isLiteral = false then
    modify fun reader =>
      let (count, rest) := skipContinuations 0 reader.rest
      { reader with rest := rest, line := reader.line + count }
  let reader ← get
  let text :=
    if document.stripsTabs then reader.rest.dropWhile (· = '\t') else reader.rest
  match behindEndMark? document text with
  | some rest =>
    set { reader with rest := rest, line := reader.line + 1 }
    return true
  | none =>
    set { reader with rest := text }
    return false

/-- The word at its end, if everything in it is closed. -/
def finish (state : WordState) : Reading WordState :=
  if state.level.mode = .sum then fail "Missing '))'".toList
  else if state.level.mode ≠ .plain ∧ state.isDocument = false then
    fail "Unterminated quoted string".toList
  else if state.level.braces ≠ 0 then fail "Missing '\x7d'".toList
  else pure state

/-- Reads a character of a word that does not end it. -/
def wordCharacter (readCommand readBracketed : Reading (Option Command))
    (state : WordState) (letter : Char) : Reading WordState :=
  let accent : Reading WordState := do
    if (← get).checks.endMark then return state.put letter false
    else
      let command ← accentedCommand readCommand state.level.keepsBackslash
      return state.add (.output command state.frame.quotes)
  match state.level.mode with
  | .single =>
    if letter = apostrophe then pure (state.endQuotes letter)
    else pure (state.put letter false)
  | .plain =>
    if letter = '\\' then afterBackslash state
    else if letter = apostrophe then pure state.beginSingle
    else if letter = '"' then pure state.beginDouble
    else if letter = graveAccent then accent
    else if letter = '$' then afterDollar readBracketed state
    else if letter = '}' then pure state.closeBrace
    else pure (state.put letter false)
  | .double =>
    if letter = '\\' then afterBackslash state
    else if letter = '"' then pure (state.endQuotes letter)
    else if letter = graveAccent then accent
    else if letter = '$' then afterDollar readBracketed state
    else if letter = '}' then pure state.closeBrace
    else pure (state.put letter false)
  | .sum =>
    if letter = '\\' then afterBackslash state
    else if letter = graveAccent then accent
    else if letter = '$' then afterDollar readBracketed state
    else if letter = '}' then pure state.closeBrace
    else if letter = '(' then
      let level := state.level
      pure ((state.put letter false).withLevel
        { level with parentheses := level.parentheses + 1 })
    else if letter = ')' then closeSum state
    else pure (state.put letter false)

/-- Reads a word from its first character on, and gives the character behind it. -/
def wordFrom (readCommand readBracketed : Reading (Option Command))
    (document : Option AwaitedDocument) :
    Nat → WordState → Option Char → Reading (WordState × Option Char)
  | 0, state, character => pure (state, character)
  | bound + 1, state, character => do
    match character with
    | none => return (← finish state, none)
    | some letter =>
      let isOpen := state.level.mode ≠ .plain ∨ state.level.braces ≠ 0
      if letter = Reader.aliasEnd ∧ isOpen then
        endAlias
        wordFrom readCommand readBracketed document bound state (← next)
      else if state.level.mode = .plain ∧ state.level.braces = 0 ∧ endsWord letter then
        return (← finish state, some letter)
      else if letter = '\n' then
        countLine
        let put := state.put letter false
        match document with
        | none => wordFrom readCommand readBracketed document bound put (← next)
        | some awaited =>
          if ← beginLine awaited then return (← finish put, none)
          else
            let following ← if awaited.isLiteral then next else nextJoined
            wordFrom readCommand readBracketed document bound put following
      else
        let state ← wordCharacter readCommand readBracketed state letter
        let following ← if state.level.mode = .single then next else nextJoined
        wordFrom readCommand readBracketed document bound state following

def readDocument (readCommand readBracketed : Reading (Option Command))
    (document : AwaitedDocument) : Reading Unit := do
  let word ←
    if ← beginLine document then pure []
    else
      let mode := if document.isLiteral then .single else .double
      let first ← if document.isLiteral then next else nextJoined
      let (state, _) ← wordFrom readCommand readBracketed (some document) readingBound
        (.start mode true) first
      pure state.word
  modify fun reader => { reader with documents := (document.number, word) :: reader.documents }

/-- Reads the documents that the line at hand has asked for. -/
def readDocuments (readCommand readBracketed : Reading (Option Command)) : Reading Unit := do
  let awaited := (← get).awaited
  modify fun reader => { reader with awaited := [] }
  awaited.forM (readDocument readCommand readBracketed)

end Reading

end ScriptDesk.Shell
