import ScriptDesk.Shell.Arithmetic
import ScriptDesk.Shell.Field
import ScriptDesk.Shell.Run

/-!
# Working out words

What the parts of a word stand for: the values of parameters, the output of commands, sums,
and home directories. A word is worked out to fields, to a text that is not cut, or to a
pattern.
-/

namespace ScriptDesk.Shell

/-- Where a tilde stands for a home directory. -/
inductive Tilde where
  | never
  /-- At the beginning of the word. -/
  | first
  /-- At the beginning of the word, and behind colons. -/
  | inList
deriving DecidableEq

/-- What a word is worked out for. -/
structure Purpose where
  /-- The word may be cut into fields. -/
  isCut : Bool
  tilde : Tilde
  /-- The word may be cut at the characters that stand in it. -/
  cutsText : Bool

namespace Purpose

def fields : Purpose := ⟨true, .first, false⟩

def text : Purpose := ⟨false, .first, false⟩

def value : Purpose := ⟨false, .inList, false⟩

def document : Purpose := ⟨false, .never, false⟩

end Purpose

/-- The home directories of the accounts that every system has. -/
def accountHomes : List (String × String) :=
  [("root", "/root"), ("daemon", "/usr/sbin"), ("bin", "/bin"), ("sys", "/dev"),
    ("sync", "/bin"), ("games", "/usr/games"), ("man", "/var/cache/man"),
    ("lp", "/var/spool/lpd"), ("mail", "/var/mail"), ("news", "/var/spool/news"),
    ("uucp", "/var/spool/uucp"), ("proxy", "/bin"), ("www-data", "/var/www"),
    ("backup", "/var/backups"), ("list", "/var/list"), ("irc", "/run/ircd"),
    ("nobody", "/nonexistent")]

/-- The home directory that a name behind a tilde stands for. -/
def homeOf? (state : State) (name : Text) : Option Text :=
  if name.isEmpty then state.value? "HOME".toList
  else (accountHomes.lookup (String.ofList name)).map String.toList

/-- The items of characters without quotation. -/
def bareItems (purpose : Purpose) (text : Text) : List Item :=
  if purpose.cutsText then Item.ofValue text false else Item.ofText text false

/-- The items of a text that begins where a tilde may stand for a home directory. The flag
says whether the word goes on behind the text. -/
def tildeItems (state : State) (purpose : Purpose) (goesOn : Bool) (text : Text) : List Item :=
  match text with
  | '~' :: rest =>
    let ends (character : Char) : Bool :=
      character = '/' || (character = ':' && purpose.tilde = .inList)
    let name := rest.takeWhile fun character => !ends character
    let behind := rest.drop name.length
    if behind.isEmpty ∧ goesOn then bareItems purpose text
    else
      match homeOf? state name with
      | some home => Item.ofText home true ++ bareItems purpose behind
      | none => bareItems purpose text
  | text => bareItems purpose text

/-- The pieces of a text, each of which begins where a tilde may stand for a home
directory. -/
def tildePieces (purpose : Purpose) (text : Text) : List Text :=
  if purpose.tilde ≠ .inList then [text] else pieces text
where
  /-- The pieces of a text that begin behind colons. -/
  pieces : Text → List Text
    | [] => [[]]
    | character :: rest =>
      if character = ':' then [character] :: pieces rest
      else Text.extendFirst character (pieces rest)

/-- The items of characters without quotation, given whether they begin the word and whether
it goes on behind them. -/
def textItems (state : State) (purpose : Purpose) (isFirst goesOn : Bool) (text : Text) :
    List Item :=
  if purpose.tilde = .never ∨ text.contains '~' = false then bareItems purpose text
  else
    match tildePieces purpose text with
    | [] => []
    | first :: others =>
      let count := others.length
      let head :=
        if isFirst then tildeItems state purpose (goesOn && count = 0) first
        else bareItems purpose first
      head ++ others.zipIdx.flatMap fun (piece, index) =>
        tildeItems state purpose (goesOn && index + 1 = count) piece

/-- What separates parameters that are joined. -/
def joint (state : State) : Text :=
  match state.value? "IFS".toList with
  | none => [' ']
  | some separators => separators.take 1

def parameterItems (state : State) (purpose : Purpose) (name : Text) (quoted : Bool)
    (parameters : List Text) : List Item :=
  if purpose.isCut ∧ quoted = true ∧ name = ['@'] then
    match parameters with
    | [] => []
    | first :: rest =>
      .seam true :: Item.ofText first true ++
        rest.flatMap fun parameter => .wall :: Item.ofText parameter true
  else if purpose.isCut ∧ quoted = false then
    match parameters with
    | [] => [.seam false]
    | first :: rest =>
      Item.ofValue first false ++
        rest.flatMap fun parameter => .border :: parameter.map .free
  else Item.ofValue (Text.joinWith (joint state) parameters) quoted

def standsForAll (name : Text) : Bool :=
  name = ['@'] || name = ['*']

/-- The value of a parameter as a text, if it is set. -/
def parameterText? (state : State) (name : Text) : Option Text :=
  if standsForAll name then some (Text.joinWith (joint state) state.parameters)
  else state.special? name

/-- The items of the value of a parameter, if it is set. -/
def valueItems? (state : State) (purpose : Purpose) (name : Text) (quoted : Bool) :
    Option (List Item) :=
  if standsForAll name then
    some (parameterItems state purpose name quoted state.parameters)
  else (state.special? name).map (Item.ofValue · quoted)

/-- All parameters without what a pattern matches at the front of the first or at the end of
the last one. -/
def trimmedParameters (front longest : Bool) (glob : List Glob) (parameters : List Text) :
    List Text :=
  if parameters.isEmpty then []
  else Text.pieces '\x00' (trimMatch front longest glob (Text.joinWith ['\x00'] parameters))

/-- Breaks off if a parameter is not set and has to be. -/
def demandSet (state : State) (name : Text) : Run Unit :=
  if state.has 'u' then Run.fail (name ++ ": parameter not set".toList) else Run.give ()

def withoutNul (text : Text) : Text :=
  text.filter (· ≠ '\x00')

def sumOf (text : Text) : Run Int := do
  let state ← Run.state
  match Arithmetic.evaluate ⟨text, state.value?, state.isReadOnly⟩ with
  | .error words => Run.fail words
  | .ok (value, values) =>
    Run.forEach values.reverse fun (name, value) => Run.assign name value false
    return value

/-- The words for a parameter that must be set. -/
def unsetWords (emptyToo : Bool) (word : Word) (text : Text) : Text :=
  if word.isEmpty = false then text
  else if emptyToo then "parameter not set or null".toList
  else "parameter not set".toList

/-- What gives the output of a command. -/
abbrev OutputReader := Option Command → Run Text

/-- Items, gathered in reverse order. -/
abbrev Gathered := List (List Item)

mutual

/-- Works out the parts of a word. What has been worked out stands in reverse order. The flag
says whether nothing stands before the parts. -/
def partItems (readOutput : OutputReader) (purpose : Purpose) (isFirst : Bool) :
    Word → Gathered → Run Gathered
  | [], gathered => pure gathered
  | .bare text :: rest, gathered => do
    let items := textItems (← Run.state) purpose isFirst (!rest.isEmpty) text
    partItems readOutput purpose false rest (items :: gathered)
  | .quoted text :: rest, gathered =>
    partItems readOutput purpose false rest (Item.ofText text true :: gathered)
  | .edge :: rest, gathered => partItems readOutput purpose false rest ([.edge] :: gathered)
  | .parameter name use quoted :: rest, gathered => do
    let items ← useItems readOutput purpose name quoted use
    partItems readOutput purpose false rest (items :: gathered)
  | .output command quoted :: rest, gathered => do
    let text ← readOutput command
    let shown := Text.dropTrailing (· = '\n') (withoutNul text)
    partItems readOutput purpose false rest (Item.ofValue shown quoted :: gathered)
  | .sum expression quoted :: rest, gathered => do
    let inner ← partItems readOutput .document false expression []
    let value ← sumOf (Item.text inner.reverse.flatten)
    let items := Item.ofValue (Text.signedDecimal value) quoted
    partItems readOutput purpose false rest (items :: gathered)

/-- Works out what is made of the value of a parameter. -/
def useItems (readOutput : OutputReader) (purpose : Purpose) (name : Text) (quoted : Bool) :
    Use → Run (List Item)
  | .plain => do
    let state ← Run.state
    match valueItems? state purpose name quoted with
    | some items => return items
    | none =>
      demandSet state name
      return []
  | .length => do
    let state ← Run.state
    match parameterText? state name with
    | some text => return Item.ofValue (Text.decimal text.length) quoted
    | none =>
      demandSet state name
      return Item.ofValue ['0'] quoted
  | .choice choice emptyToo word => do
    let state ← Run.state
    let isThere :=
      match parameterText? state name with
      | some text => !(emptyToo && text.isEmpty)
      | none => false
    let whole : Purpose := ⟨purpose.isCut, .first, purpose.isCut && !quoted⟩
    let value : Run (List Item) := do
      return (valueItems? (← Run.state) purpose name quoted).getD []
    match choice, isThere with
    | .default, true => value
    | .default, false => return (← partItems readOutput whole true word []).reverse.flatten
    | .instead, true => return (← partItems readOutput whole true word []).reverse.flatten
    | .instead, false => return []
    | .assign, true => value
    | .demand, true => value
    | .assign, false =>
      let inner ← partItems readOutput .text true word []
      if isName name = false then Run.fail (name ++ ": bad variable name".toList)
      Run.assign name (Item.text inner.reverse.flatten) false
      value
    | .demand, false =>
      let inner ← partItems readOutput .text true word []
      Run.fail (name ++ ": ".toList ++
        unsetWords emptyToo word (Item.text inner.reverse.flatten))
  | .trimmed front longest pattern => do
    let state ← Run.state
    match parameterText? state name with
    | none =>
      demandSet state name
      return []
    | some _ =>
      let inner ← partItems readOutput .text true pattern []
      let glob := readPattern (Item.field inner.reverse.flatten)
      let state ← Run.state
      if standsForAll name ∧ purpose.isCut ∧ ¬ (quoted ∧ name = ['*']) then
        return parameterItems state purpose name quoted
          (trimmedParameters front longest glob state.parameters)
      else
        let text := (parameterText? state name).getD []
        return Item.ofValue (trimMatch front longest glob text) quoted
  | .unknown => Run.fail "Bad substitution".toList

end

end ScriptDesk.Shell
