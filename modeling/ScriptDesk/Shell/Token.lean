import ScriptDesk.Shell.Command

/-!
# Tokens of the shell

What a script is a row of, as far as its grammar is concerned: operators, line ends,
keywords and words; and the names that commands of the shell have.
-/

namespace ScriptDesk.Shell

/-- A token of a script. -/
inductive Token where
  | endOfFile
  | lineEnd
  | semicolon
  | ampersand
  | conjunction
  | disjunction
  | bar
  | opening
  | closing
  | caseEnd
  | redirection
  | word
  | exclamation
  | case_
  | do_
  | done
  | elif
  | else_
  | esac
  | fi
  | for_
  | if_
  | in_
  | then_
  | until_
  | while_
  | openBrace
  | closeBrace
deriving DecidableEq, Repr

namespace Token

/-- The words that are keywords where a command may begin. -/
def keywords : List (String × Token) :=
  [("!", .exclamation), ("case", .case_), ("do", .do_), ("done", .done), ("elif", .elif),
    ("else", .else_), ("esac", .esac), ("fi", .fi), ("for", .for_), ("if", .if_),
    ("in", .in_), ("then", .then_), ("until", .until_), ("while", .while_),
    ("\x7b", .openBrace), ("\x7d", .closeBrace)]

/-- The keyword that a text is, if it is one. -/
def keyword? (text : Text) : Option Token :=
  if text.length ≤ 5 then keywords.lookup (String.ofList text) else none

/-- The token as messages name it. -/
def shown : Token → String
  | .endOfFile => "end of file"
  | .lineEnd => "newline"
  | .semicolon => "\";\""
  | .ampersand => "\"&\""
  | .conjunction => "\"&&\""
  | .disjunction => "\"||\""
  | .bar => "\"|\""
  | .opening => "\"(\""
  | .closing => "\")\""
  | .caseEnd => "\";;\""
  | .redirection => "redirection"
  | .word => "word"
  | .exclamation => "\"!\""
  | .case_ => "\"case\""
  | .do_ => "\"do\""
  | .done => "\"done\""
  | .elif => "\"elif\""
  | .else_ => "\"else\""
  | .esac => "\"esac\""
  | .fi => "\"fi\""
  | .for_ => "\"for\""
  | .if_ => "\"if\""
  | .in_ => "\"in\""
  | .then_ => "\"then\""
  | .until_ => "\"until\""
  | .while_ => "\"while\""
  | .openBrace => "\"\x7b\""
  | .closeBrace => "\"\x7d\""

def endsRow (token : Token) : Bool :=
  [.endOfFile, .closing, .caseEnd, .do_, .done, .elif, .else_, .esac, .fi, .then_,
    .closeBrace].contains token

end Token

/-- The commands of the shell whose errors end it, and that functions cannot be named
after. -/
def specialNames : List String :=
  [".", ":", "break", "continue", "eval", "exec", "exit", "export", "local", "readonly",
    "return", "set", "shift", "times", "trap", "unset"]

/-- The further commands of the shell. -/
def ordinaryNames : List String :=
  ["[", "alias", "bg", "cd", "chdir", "command", "echo", "false", "fg", "getopts", "hash",
    "jobs", "kill", "printf", "pwd", "read", "test", "true", "type", "ulimit", "umask",
    "unalias", "wait"]

/-- Whether a name is one of a command of the shell whose errors end it. -/
def isSpecial (name : Text) : Bool :=
  specialNames.contains (String.ofList name)

/-- Whether a name is one of a command of the shell. -/
def isBuiltin (name : Text) : Bool :=
  isSpecial name || ordinaryNames.contains (String.ofList name)

end ScriptDesk.Shell
