import ScriptDesk.Shell.WordReader

/-!
# The grammar of the shell

How commands are read. A script is read one line of commands after the other, so that each
of them can be run before the next one is read. Where something cannot be read, the fault
names the token that was not expected.

The functions take turns in calling each other; what they share is a bound on how deep
commands may be nested and how long they may be.
-/

namespace ScriptDesk.Shell.Reading

/-- Changes what the next token may be. -/
def expectChecks (checks : Checks) : Reading Unit :=
  modify fun reader => { reader with checks := checks }

def giveTokenBack : Reading Unit :=
  modify fun reader => { reader with isPushedBack := true }

/-- Gives up because of the last token. -/
def unexpected {Value : Type} (expected : Option Token) : Reading Value := do
  let found := (← get).token.shown.toList ++ " unexpected".toList
  match expected with
  | some token => fail (found ++ " (expecting ".toList ++ token.shown.toList ++ [')'])
  | none => fail found

def currentLine : Reading Nat :=
  return (← get).line

def found (token : Token) : Reading Token := do
  modify fun reader => { reader with token := token }
  return token

/-- An operator of one or of two characters. -/
def doubled (mark : Char) (once twice : Token) : Reading Token := do
  let following ← nextJoined
  if following = some mark then found twice
  else
    giveBack following
    found once

def redirectionFrom (descriptor : Option Nat) (mark : Char) : Reading Token := do
  let note (redirection : Word → Redirection) : Reading Token := do
    modify fun reader => { reader with redirection := redirection, document := none }
    found .redirection
  let following ← nextJoined
  if mark = '>' then
    let target := descriptor.getD 1
    match following with
    | some '>' => note (.file target .append)
    | some '|' => note (.file target .overwrite)
    | some '&' => note (.copy target)
    | other =>
      giveBack other
      note (.file target .output)
  else
    let source := descriptor.getD 0
    match following with
    | some '<' =>
      let hyphen ← nextJoined
      let stripsTabs := hyphen = some '-'
      if stripsTabs = false then giveBack hyphen
      modify fun reader => { reader with
        redirection := fun _ => .document source reader.nextDocument
        document := some stripsTabs }
      found .redirection
    | some '&' => note (.copy source)
    | some '>' => note (.file source .update)
    | other =>
      giveBack other
      note (.file source .input)

/-- The descriptor that is written in front of a redirection, or none; there is no answer
if the word is something else. -/
def descriptorOf? (state : WordState) : Option (Option Nat) :=
  if state.hasQuotes then none
  else
    match state.word with
    | [] => some none
    | [.bare [digit]] => if digit.isDigit then some (some (digit.toNat - 48)) else none
    | _ => none

/-- Reads a word, or the redirection that it turns out to begin. -/
def wordToken (readCommand readBracketed : Reading (Option Command)) (first : Char) :
    Reading Token := do
  let (state, following) ← wordFrom readCommand readBracketed none readingBound
    (.start .plain false) (some first)
  let isAngle := following = some '<' ∨ following = some '>'
  match following, descriptorOf? state with
  | some mark, some descriptor =>
    if isAngle then redirectionFrom descriptor mark
    else finishWord state following
  | _, _ => finishWord state following
where
  /-- Notes a word. -/
  finishWord (state : WordState) (following : Option Char) : Reading Token := do
    giveBack following
    modify fun reader => { reader with word := state.word, wordIsQuoted := state.hasQuotes }
    found .word

/-- Reads a token without looking whether it is a keyword. -/
def rawToken (readCommand readBracketed : Reading (Option Command)) :
    Nat → Reading Token
  | 0 => found .endOfFile
  | bound + 1 => do
    let reader ← get
    if reader.isPushedBack then
      set { reader with isPushedBack := false }
      return reader.token
    match ← nextJoined with
    | none => found .endOfFile
    | some letter =>
      if letter = ' ' ∨ letter = '\t' then rawToken readCommand readBracketed bound
      else if letter = Reader.aliasEnd then
        endAlias
        rawToken readCommand readBracketed bound
      else if letter = '#' then
        skipRemark
        rawToken readCommand readBracketed bound
      else if letter = '\n' then
        countLine
        found .lineEnd
      else if letter = '&' then doubled '&' .ampersand .conjunction
      else if letter = '|' then doubled '|' .bar .disjunction
      else if letter = ';' then doubled ';' .semicolon .caseEnd
      else if letter = '(' then found .opening
      else if letter = ')' then found .closing
      else wordToken readCommand readBracketed letter

def skipLineEnds (readCommand readBracketed : Reading (Option Command)) :
    Nat → Token → Reading Token
  | 0, token => pure token
  | bound + 1, token =>
    if token = .lineEnd then do
      readDocuments readCommand readBracketed
      expectChecks .none
      skipLineEnds readCommand readBracketed bound
        (← rawToken readCommand readBracketed readingBound)
    else pure token

/-- Lets the text of an alias stand in front of the rest. -/
def beginAlias (name value : Text) : Reading Unit :=
  modify fun reader =>
    if value.isEmpty then reader
    else
      let isOpen := value.getLast? = some ' ' ∨ value.getLast? = some '\t'
      let mark := if isOpen then Reader.openAliasEnd else Reader.aliasEnd
      { reader with
        rest := value ++ mark :: reader.rest
        activeAliases := name :: reader.activeAliases }

/-- Reads a token, which may be a keyword or stand for the text of an alias. -/
def tokenWith (readCommand readBracketed : Reading (Option Command)) :
    Nat → Checks → Reading Token
  | 0, _ => found .endOfFile
  | bound + 1, wanted => do
    let raw ← rawToken readCommand readBracketed readingBound
    let token ←
      if wanted.lineEnds then skipLineEnds readCommand readBracketed readingBound raw
      else pure raw
    let reader ← get
    let keywords := wanted.keywords || reader.checks.keywords
    let aliases := wanted.aliases || reader.checks.aliases
    expectChecks .none
    if token ≠ .word ∨ reader.wordIsQuoted then return token
    match plainText? reader.word with
    | none => return token
    | some text =>
      match if keywords then Token.keyword? text else none with
      | some keyword => found keyword
      | none =>
        match if aliases then reader.aliases.lookup text else none with
        | none => return token
        | some value =>
          if reader.activeAliases.contains text then return token
          else
            beginAlias text value
            tokenWith readCommand readBracketed bound
              { wanted with keywords := keywords, aliases := aliases }

def tokenOf (readCommand readBracketed : Reading (Option Command)) : Reading Token := do
  tokenWith readCommand readBracketed readingBound (← get).checks

def functionName? (word : Word) : Option Text :=
  (plainText? word).filter fun name => isName name && !isSpecial name

def allParameters : Word := [.parameter ['@'] .plain true]

mutual

def nextToken : Nat → Reading Token
  | 0 => found .endOfFile
  | bound + 1 => tokenOf (rowUntilEnd bound) (bracketed bound)

/-- Reads the documents that the line at hand has asked for. -/
def documentsHere : Nat → Reading Unit
  | 0 => pure ()
  | bound + 1 => readDocuments (rowUntilEnd bound) (bracketed bound)

/-- Reads commands up to a token that ends them, if there are any. -/
def rowUntilEnd : Nat → Reading (Option Command)
  | 0 => pure none
  | bound + 1 => rowFrom bound true true none

/-- Reads commands of which there must be at least one. -/
def row : Nat → Reading (Option Command)
  | 0 => pure none
  | bound + 1 => rowFrom bound true false none

def line : Nat → Reading (Option Command)
  | 0 => pure none
  | bound + 1 => rowFrom bound false false none

/-- Reads a command up to its closing bracket. Documents have no place behind that. -/
def bracketed : Nat → Reading (Option Command)
  | 0 => pure none
  | bound + 1 => do
    let awaited := (← get).awaited
    modify fun reader => { reader with awaited := [] }
    let command ← rowUntilEnd bound
    if (← nextToken bound) ≠ .closing then unexpected (some .closing)
    let rest := (← get).rest
    modify fun reader => { reader with rest := [] }
    let line ← currentLine
    documentsHere bound
    modify fun reader => { reader with rest := rest, awaited := awaited, line := line }
    return command

/-- Reads commands behind those that have been read. They may go on over several lines, and
may end where a token says so. -/
def rowFrom : Nat → Bool → Bool → Option Command → Reading (Option Command)
  | 0, _, _, before => pure before
  | bound + 1, crossesLines, mayEnd, before => do
    expectChecks (if crossesLines then .onNextLines else .here)
    let token ← nextToken bound
    if token = .lineEnd then
      documentsHere bound
      return before
    if token = .endOfFile then
      documentsHere bound
      giveTokenBack
      modify fun reader => { reader with token := .endOfFile }
      return before
    giveTokenBack
    if crossesLines ∧ mayEnd ∧ token.endsRow then return before
    let first ← junction bound
    let separator ← nextToken bound
    let separated :=
      if separator = .ampersand then
        match first with
        | .pipeline commands _ => .pipeline commands true
        | .redirected line command redirections => .background line command redirections
        | command => .background 0 (some command) []
      else first
    let all :=
      match before with
      | none => separated
      | some earlier => .sequence earlier separated
    match separator with
    | .endOfFile =>
      documentsHere bound
      giveTokenBack
      modify fun reader => { reader with token := .endOfFile }
      return some all
    | .lineEnd =>
      giveTokenBack
      rowFrom bound crossesLines true (some all)
    | .ampersand => rowFrom bound crossesLines true (some all)
    | .semicolon => rowFrom bound crossesLines true (some all)
    | _ =>
      if crossesLines = false then unexpected none
      giveTokenBack
      return some all

/-- Reads pipelines that depend on each other. -/
def junction : Nat → Reading Command
  | 0 => unexpected none
  | bound + 1 => do junctionFrom bound (← pipeline bound)

/-- Reads pipelines that depend on what has been read. -/
def junctionFrom : Nat → Command → Reading Command
  | 0, first => pure first
  | bound + 1, first => do
    let token ← nextToken bound
    if token = .conjunction ∨ token = .disjunction then
      expectChecks .onNextLines
      let second ← pipeline bound
      junctionFrom bound
        (if token = .conjunction then .both first second else .either first second)
    else
      giveTokenBack
      return first

def pipeline : Nat → Reading Command
  | 0 => unexpected none
  | bound + 1 => do
    let isNegated := (← nextToken bound) = .exclamation
    if isNegated then expectChecks .here else giveTokenBack
    let first ← command bound
    let piped ← pipedFrom bound [first]
    return if isNegated then .negated piped else piped

/-- Reads the commands of a pipeline behind those that have been read, which stand in
reverse order. -/
def pipedFrom : Nat → List Command → Reading Command
  | 0, _ => unexpected none
  | bound + 1, before => do
    if (← nextToken bound) = .bar then
      expectChecks .onNextLines
      pipedFrom bound ((← command bound) :: before)
    else
      giveTokenBack
      match before with
      | [only] => return only
      | several => return .pipeline several.reverse false

def demandToken : Nat → Token → Reading Unit
  | 0, _ => pure ()
  | bound + 1, wanted => do
    if (← nextToken bound) ≠ wanted then unexpected (some wanted)

def command : Nat → Reading Command
  | 0 => unexpected none
  | bound + 1 => do
    let line ← currentLine
    let finish (command : Command) (last : Token) : Reading Command := do
      demandToken bound last
      redirected bound line command
    match ← nextToken bound with
    | .if_ => finish (← branches bound) .fi
    | .while_ => finish (← loopOf bound true) .done
    | .until_ => finish (← loopOf bound false) .done
    | .for_ => finish (← each bound line) .done
    | .case_ =>
      demandToken bound .word
      let word := (← get).word
      expectChecks .onNextLines
      demandToken bound .in_
      expectChecks ⟨true, true, false, false⟩
      let cases ← casesFrom bound (← nextToken bound) []
      redirected bound line (.selection line word cases)
    | .opening =>
      let body ← row bound
      demandToken bound .closing
      match ← redirectionsHere bound [] with
      | redirections => return .subshell line body redirections
    | .openBrace =>
      let body ← row bound
      demandToken bound .closeBrace
      let redirections ← redirectionsHere bound []
      match body, redirections with
      | some command, [] => return command
      | _, _ => return .redirected line body redirections
    | .word =>
      giveTokenBack
      simple bound
    | .redirection =>
      giveTokenBack
      simple bound
    | _ => unexpected none

def redirected : Nat → Nat → Command → Reading Command
  | 0, _, command => pure command
  | bound + 1, line, command => do
    match ← redirectionsHere bound [] with
    | [] => return command
    | redirections => return .redirected line (some command) redirections

def redirectionsHere : Nat → List Redirection → Reading (List Redirection)
  | 0, before => pure before.reverse
  | bound + 1, before => do
    expectChecks .here
    if (← nextToken bound) = .redirection then
      redirectionsHere bound ((← redirectionTarget bound) :: before)
    else
      giveTokenBack
      return before.reverse

def redirectionTarget : Nat → Reading Redirection
  | 0 => unexpected none
  | bound + 1 => do
    let reader ← get
    let make := reader.redirection
    match reader.document with
    | none =>
      if (← nextToken bound) ≠ .word then unexpected none
      return make (← get).word
    | some stripsTabs =>
      expectChecks { Checks.none with endMark := true }
      if (← nextToken bound) ≠ .word then unexpected none
      let reader ← get
      let number := reader.nextDocument
      let endMark := reader.word.flatMap fun part =>
        match part with
        | .bare text => text
        | .quoted text => text
        | _ => []
      let document : AwaitedDocument := ⟨number, endMark, stripsTabs, reader.wordIsQuoted⟩
      set { reader with awaited := reader.awaited ++ [document], nextDocument := number + 1 }
      match make [] with
      | .document descriptor _ => return .document descriptor number
      | other => return other

def branches : Nat → Reading Command
  | 0 => unexpected none
  | bound + 1 => do
    let test ← row bound
    demandToken bound .then_
    let yes ← row bound
    match ← nextToken bound with
    | .elif => return .conditional test yes (some (← branches bound))
    | .else_ => return .conditional test yes (← row bound)
    | _ =>
      giveTokenBack
      return .conditional test yes none

def loopOf : Nat → Bool → Reading Command
  | 0, _ => unexpected none
  | bound + 1, while_ => do
    let test ← row bound
    demandToken bound .do_
    return .loop while_ test (← row bound)

/-- Reads a loop over words. -/
def each : Nat → Nat → Reading Command
  | 0, _ => unexpected none
  | bound + 1, line => do
    let token ← nextToken bound
    let reader ← get
    match (if token ≠ .word ∨ reader.wordIsQuoted then none
        else (plainText? reader.word).filter isName) with
    | none => fail "Bad for loop variable".toList
    | some name =>
      expectChecks .onNextLines
      let words ←
        match ← nextToken bound with
        | .in_ =>
          let words ← wordsHere bound []
          let last := (← get).token
          if last ≠ .lineEnd ∧ last ≠ .semicolon then unexpected none
          pure words
        | token =>
          if token ≠ .semicolon then giveTokenBack
          pure [allParameters]
      expectChecks .onNextLines
      demandToken bound .do_
      return .each line name words (← row bound)

def wordsHere : Nat → List Word → Reading (List Word)
  | 0, before => pure before.reverse
  | bound + 1, before => do
    if (← nextToken bound) = .word then wordsHere bound ((← get).word :: before)
    else return before.reverse

/-- Reads cases from a token on. Those that have been read stand in reverse order. -/
def casesFrom : Nat → Token → List (List Word × Option Command) →
    Reading (List (List Word × Option Command))
  | 0, _, before => pure before.reverse
  | bound + 1, token, before =>
    if token = .esac then pure before.reverse
    else do
      if token = .opening then let _ ← nextToken bound
      let patterns ← patternsHere bound []
      if (← get).token ≠ .closing then unexpected (some .closing)
      let body ← rowUntilEnd bound
      let cases := (patterns, body) :: before
      expectChecks ⟨true, true, false, false⟩
      let last ← nextToken bound
      if last = .esac then return cases.reverse
      else if last ≠ .caseEnd then unexpected (some .caseEnd)
      else
        expectChecks ⟨true, true, false, false⟩
        casesFrom bound (← nextToken bound) cases

/-- Reads the patterns of a case, of which the first one has been read. -/
def patternsHere : Nat → List Word → Reading (List Word)
  | 0, before => pure before.reverse
  | bound + 1, before => do
    let patterns := (← get).word :: before
    if (← nextToken bound) = .bar then
      let _ ← nextToken bound
      patternsHere bound patterns
    else return patterns.reverse

/-- Reads a simple command, or the definition of a function. -/
def simple : Nat → Reading Command
  | 0 => unexpected none
  | bound + 1 => do simpleFrom bound (← currentLine) [] [] []

/-- Reads the rest of a simple command. What has been read stands in reverse order. -/
def simpleFrom : Nat → Nat → List Word → List Word → List Redirection → Reading Command
  | 0, _, _, _, _ => unexpected none
  | bound + 1, line, assignments, words, redirections => do
    expectChecks { Checks.none with aliases := words.isEmpty }
    match ← nextToken bound with
    | .word =>
      let word := (← get).word
      if words.isEmpty ∧ (assignment? word).isSome then
        simpleFrom bound line (word :: assignments) words redirections
      else simpleFrom bound line assignments (word :: words) redirections
    | .redirection =>
      simpleFrom bound line assignments words ((← redirectionTarget bound) :: redirections)
    | token =>
      match token, words, assignments, redirections with
      | .opening, [word], [], [] =>
        demandToken bound .closing
        match functionName? word with
        | none => fail "Bad function name".toList
        | some name =>
          expectChecks .onNextLines
          let line ← currentLine
          return .definition line name (some (← command bound))
      | _, _, _, _ =>
        giveTokenBack
        return .simple line assignments.reverse words.reverse redirections.reverse

end

/-- How deep commands may be nested, and how long a row of them may be. -/
def nestingBound : Nat := 1000000000000

/-- Reads the commands of the next line, which may be none. The flag says whether there is
anything left. -/
def nextCommands : Reading (Option Command × Bool) := do
  modify fun reader => { reader with isPushedBack := false, checks := .none, awaited := [] }
  let command ← line nestingBound
  let reader ← get
  let isOver := reader.token = .endOfFile ∧ reader.isPushedBack
  return (command, isOver && command.isNone)

end ScriptDesk.Shell.Reading
