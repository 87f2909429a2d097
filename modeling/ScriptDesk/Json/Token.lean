import ScriptDesk.Json.Numeral

/-!
# Tokens

A JSON text as its row of tokens. White space between tokens is left out. What is no token
ends the row, with its flaw as the last token; a string that is broken off also is the
last one.
-/

namespace ScriptDesk.Json

/-- A token of a JSON text. -/
inductive Token where
  | openBrace
  | closeBrace
  | openBracket
  | closeBracket
  | comma
  | colon
  | null
  | boolean (value : Bool)
  | numeral (numeral : Numeral)
  | string (spelling : Spelling)
  | broken (flaw : Flaw)
deriving DecidableEq, Repr

namespace Token

def isSpace (character : Char) : Bool :=
  character = ' ' || character = '\n' || character = '\t' || character = '\r'

def mark? (character : Char) : Option Token :=
  if character = '{' then some .openBrace
  else if character = '}' then some .closeBrace
  else if character = '[' then some .openBracket
  else if character = ']' then some .closeBracket
  else if character = ',' then some .comma
  else if character = ':' then some .colon
  else none

/-- The token of a word with a given first letter, and the letters that must follow. -/
def word? (character : Char) : Option (Token × Text) :=
  if character = 'n' then some (.null, "ull".toList)
  else if character = 't' then some (.boolean true, "rue".toList)
  else if character = 'f' then some (.boolean false, "alse".toList)
  else none

/-- What follows the letters of a word, or the fault of a word that is not completed. -/
def scanLetters : Text → Text → Except Fault Text
  | [], text => .ok text
  | _ :: _, [] => .error .unfinished
  | expected :: letters, character :: text =>
    if character = expected then scanLetters letters text else .error .malformed

def beginsNumeral (character : Char) : Bool :=
  character = '-' || Text.isAsciiDigit character

/-- The token that begins with a character, and what follows it. Nothing is read after a
flaw. -/
def scan (character : Char) (rest : Text) : Token × Text :=
  match mark? character with
  | some token => (token, rest)
  | none =>
    match word? character with
    | some (token, letters) =>
      match scanLetters letters rest with
      | .ok rest => (token, rest)
      | .error fault => (.broken ⟨fault, fault⟩, [])
    | none =>
      if character = '"' then
        let (spelling, rest) := Spelling.scan rest
        (.string spelling, rest)
      else if beginsNumeral character then
        match Numeral.scan (character :: rest) with
        | .ok (read, rest) => (.numeral read, rest)
        | .error flaw => (.broken flaw, [])
      else (.broken ⟨.malformed, .malformed⟩, [])

theorem length_scanLetters_le {letters text rest : Text}
    (scanned : scanLetters letters text = .ok rest) : rest.length ≤ text.length := by
  fun_induction scanLetters letters text with
  | case1 text => simp_all
  | case2 letter letters => simp at scanned
  | case3 letters text character shorter =>
    have within := shorter scanned
    simp only [List.length_cons]
    omega
  | case4 expected letters character text other => simp at scanned

/-- What follows a token is not longer than what follows its first character. -/
theorem length_scan_le (character : Char) (rest : Text) :
    (scan character rest).2.length ≤ rest.length := by
  unfold scan
  split
  · simp
  · split
    · split
      · rename_i scanned
        exact length_scanLetters_le scanned
      · simp
    · split
      · exact Spelling.length_scan_le rest
      · split
        · split
          · rename_i scanned
            have shorter := Numeral.length_scan_lt scanned
            exact Nat.le_of_lt_succ shorter
          · simp
        · simp

end Token

def tokens : Text → List Token
  | [] => []
  | character :: rest =>
    if Token.isSpace character then tokens rest
    else (Token.scan character rest).1 :: tokens (Token.scan character rest).2
termination_by text => text.length
decreasing_by
  · simp
  · have within := Token.length_scan_le character rest
    simp only [List.length_cons]
    omega

end ScriptDesk.Json
