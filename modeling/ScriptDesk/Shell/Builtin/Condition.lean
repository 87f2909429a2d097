import ScriptDesk.FileTree
import ScriptDesk.Shell.Numeral

/-!
# Conditions

The conditions that `test` works out: comparisons of texts and of numbers, questions about
files, and what connects them. Where a word could be an operator, its neighbours decide.
-/

namespace ScriptDesk.Shell.Condition

/-- The kind of an operator. -/
inductive Kind where
  | unary
  | binary
  | negation
  | conjunction
  | disjunction
  | opening
  | closing
deriving DecidableEq

/-- The operators that stand in front of a word. -/
def unaryNames : List String :=
  ["-r", "-w", "-x", "-e", "-f", "-d", "-c", "-b", "-p", "-u", "-g", "-k", "-s", "-t", "-z",
    "-n", "-h", "-L", "-O", "-G", "-S"]

/-- The operators that stand between two words. -/
def binaryNames : List String :=
  ["=", "!=", "<", ">", "-eq", "-ne", "-ge", "-gt", "-le", "-lt", "-nt", "-ot", "-ef"]

/-- The kind of the operator that a text is, if it is one. -/
def kind? (text : Text) : Option Kind :=
  let name := String.ofList text
  if unaryNames.contains name then some .unary
  else if binaryNames.contains name then some .binary
  else ([("!", Kind.negation), ("-a", .conjunction), ("-o", .disjunction), ("(", .opening),
    (")", .closing)] : List (String × Kind)).lookup name

/-- What stands first in a row of words. -/
inductive Lexeme where
  | nothing
  | operand
  | operator (kind : Kind)
deriving DecidableEq

/-- Whether an operator in front of a word is itself a word, given what follows it. -/
def isOperand : List Text → Bool
  | [] => true
  | [_] => false
  | next :: _ => kind? next = some .binary

/-- What stands first in a row of words. -/
def lexeme : List Text → Lexeme
  | [] => .nothing
  | word :: rest =>
    match kind? word with
    | none => .operand
    | some kind =>
      if (kind = .unary ∧ isOperand rest) ∨ (kind = .opening ∧ rest.isEmpty) then .operand
      else .operator kind

def mistake (word : Text) (words : String) : Text :=
  if word.isEmpty then words.toList else word ++ ": ".toList ++ words.toList

def number (text : Text) : Except Text Int :=
  match Numeral.ofText? false text with
  | some number => .ok number
  | none => .error (Numeral.illegal text)

/-- What stands under a path, symbolic links not being followed. -/
def entry? (tree : FileTree) (path : Text) : Option Node :=
  (tree.place path).toOption.bind tree.node?

/-- Answers a question about a word. -/
def unary (tree : FileTree) (operator word : Text) : Except Text Bool :=
  let node := (tree.find word).toOption
  match String.ofList operator with
  | "-z" => .ok word.isEmpty
  | "-n" => .ok (word.isEmpty = false)
  | "-t" => (number word).map fun _ => false
  | "-f" => .ok (tree.isFile word)
  | "-d" => .ok (node = some .directory)
  | "-c" => .ok (match node with | some (.device _) => true | _ => false)
  | "-s" =>
    .ok (match node with
      | some (.file octets _) => octets.isEmpty = false
      | some (.tool _) => true
      | some .directory => true
      | _ => false)
  | "-x" => .ok (tree.isExecutable word || node = some .directory)
  | "-h" => .ok (match entry? tree word with | some (.link _) => true | _ => false)
  | "-L" => .ok (match entry? tree word with | some (.link _) => true | _ => false)
  | "-b" => .ok false
  | "-p" => .ok false
  | "-u" => .ok false
  | "-g" => .ok false
  | "-k" => .ok false
  | "-S" => .ok false
  | _ => .ok node.isSome

/-- Whether one text comes before another one. -/
def precedes (left right : Text) : Bool :=
  decide (left < right)

/-- Compares two words. -/
def binary (tree : FileTree) (left operator right : Text) : Except Text Bool := do
  match String.ofList operator with
  | "=" => return left = right
  | "!=" => return left ≠ right
  | "<" => return precedes left right
  | ">" => return precedes right left
  | "-eq" => return (← number left) = (← number right)
  | "-ne" => return (← number left) ≠ (← number right)
  | "-ge" => return (← number left) ≥ (← number right)
  | "-gt" => return (← number left) > (← number right)
  | "-le" => return (← number left) ≤ (← number right)
  | "-lt" => return (← number left) < (← number right)
  | "-ef" =>
    match tree.follow left, tree.follow right with
    | .ok first, .ok second => return first = second ∧ (tree.node? first).isSome
    | _, _ => return false
  | _ => return false

/-- An answer, with the rest of the words from the last one on that has been used. -/
abbrev Answer := Bool × List Text

mutual

/-- Works out conditions of which one has to hold. -/
def either : Nat → FileTree → Lexeme → List Text → Except Text Answer
  | 0, _, _, words => .ok (false, words)
  | bound + 1, tree, first, words => do
    let (holds, words) ← both bound tree first words
    if lexeme words.tail = .operator .disjunction then
      let rest := words.drop 2
      let (other, words) ← either bound tree (lexeme rest) rest
      return (holds || other, words)
    else return (holds, words)

/-- Works out conditions all of which have to hold. -/
def both : Nat → FileTree → Lexeme → List Text → Except Text Answer
  | 0, _, _, words => .ok (false, words)
  | bound + 1, tree, first, words => do
    let (holds, words) ← negated bound tree first words
    if lexeme words.tail = .operator .conjunction then
      let rest := words.drop 2
      let (other, words) ← both bound tree (lexeme rest) rest
      return (holds && other, words)
    else return (holds, words)

def negated : Nat → FileTree → Lexeme → List Text → Except Text Answer
  | 0, _, _, words => .ok (false, words)
  | bound + 1, tree, first, words => do
    if first = .operator .negation then
      let next := lexeme words.tail
      let (holds, words) ←
        negated bound tree next (if next = .nothing then words else words.tail)
      return (!holds, words)
    else single bound tree first words

def single : Nat → FileTree → Lexeme → List Text → Except Text Answer
  | 0, _, _, words => .ok (false, words)
  | bound + 1, tree, first, words => do
    match first, words with
    | .nothing, words => return (false, words)
    | _, [] => return (false, words)
    | .operator .opening, _ :: inner =>
      let next := lexeme inner
      if next = .operator .closing then return (false, inner)
      let (holds, words) ← either bound tree next inner
      if lexeme words.tail ≠ .operator .closing then
        throw "closing paren expected".toList
      return (holds, words.tail)
    | .operator .unary, operator :: rest =>
      match rest with
      | [] => throw (mistake operator "argument expected")
      | word :: _ => return (← unary tree operator word, rest)
    | _, word :: rest =>
      if lexeme rest = .operator .binary then
        match rest with
        | operator :: right :: _ =>
          return (← binary tree word operator right, rest.tail)
        | operator :: [] => throw (mistake operator "argument expected")
        | [] => return (false, rest)
      else return (word.isEmpty = false, word :: rest)

end

/-- Works out the condition that a row of words is. -/
def ofWords (tree : FileTree) (words : List Text) : Except Text Bool := do
  let (holds, rest) ← either (4 * words.length + 8) tree (start words) words
  match rest with
  | last :: _ :: _ => throw (mistake last "unexpected operator")
  | _ => return holds
where
  /-- What the first word counts as. Between two words, an operator always compares them. -/
  start : List Text → Lexeme
    | [left, operator, right] =>
      if kind? operator = some .binary then .operand else lexeme [left, operator, right]
    | words => lexeme words

/-- Works out a condition. The number of its words tells what brackets and negation apply to.
The bound is that number. -/
def evaluateFrom (tree : FileTree) : Nat → List Text → Except Text Bool
  | 0, _ => .ok false
  | bound + 1, words =>
    let isComparison :=
      match words with
      | [_, operator, _] => kind? operator = some .binary
      | _ => false
    let isShort := (words.length = 3 ∨ words.length = 4) ∧ isComparison = false
    if words.isEmpty then .ok false
    else if isShort = true ∧ words.head? = some ['('] ∧ words.getLast? = some [')'] then
      ofWords tree words.tail.dropLast
    else if isShort = true ∧ words.head? = some ['!'] then
      (evaluateFrom tree bound words.tail).map (!·)
    else ofWords tree words

def evaluate (tree : FileTree) (words : List Text) : Except Text Bool :=
  evaluateFrom tree (words.length + 1) words

end ScriptDesk.Shell.Condition
