import Mathlib.Tactic.IntervalCases
import ScriptDesk.Proofs.Json.Grammar

/-!
# Reading what is written

The reader of JSON texts gives back every value that the grammar writes.  Strings and
numbers are scanned up to their ends.  Values are read by induction on how they are
written: `Reads` says what the tokens of a text make of an expectation, whatever follows
the text.  What follows must not go on with a number that the text ends in, which holds
of white space and of all marks.
-/

namespace ScriptDesk.Json

variable {text rest : Text}

theorem HexDigit.hexValue?_eq {digit : Char} {value : Nat} (hexDigit : HexDigit digit value) :
    Text.hexValue? digit = some value := by
  rcases hexDigit with found | found
  all_goals
    obtain ⟨within, rfl⟩ := List.getElem?_eq_some_iff.mp found
    have small : value < 16 := within
    interval_cases value <;> rfl

theorem escaped?_of_mem_escapes {letter character : Char}
    (known : (letter, character) ∈ escapes) :
    letter ≠ 'u' ∧ Spelling.escaped? letter = some character := by
  simp only [escapes, List.mem_cons, Prod.mk.injEq, List.not_mem_nil, or_false] at known
  rcases known with ⟨rfl, rfl⟩ | ⟨rfl, rfl⟩ | ⟨rfl, rfl⟩ | ⟨rfl, rfl⟩ | ⟨rfl, rfl⟩ |
    ⟨rfl, rfl⟩ | ⟨rfl, rfl⟩ | ⟨rfl, rfl⟩ <;> exact ⟨by decide, rfl⟩

theorem Piece.Written.scan_eq {piece : Piece} (written : piece.Written text) (rest : Text) :
    Spelling.scan (text ++ rest) = Spelling.extend piece (Spelling.scan rest) := by
  cases written with
  | plain printable noMark noBackslash =>
      rw [List.singleton_append, Spelling.scan.eq_def]
      simp [noMark, noBackslash, Nat.not_lt.mpr printable]
  | escaped known =>
      obtain ⟨notUnit, found⟩ := escaped?_of_mem_escapes known
      rw [Spelling.scan.eq_def]
      simp [notUnit, found]
  | unit ofA ofB ofC ofD =>
      rw [Spelling.scan.eq_def]
      simp [Spelling.unit?, ofA.hexValue?_eq, ofB.hexValue?_eq,
        ofC.hexValue?_eq, ofD.hexValue?_eq]

theorem PiecesWritten.scan_eq {pieces : List Piece} (written : PiecesWritten pieces text)
    (rest : Text) : Spelling.scan (text ++ '"' :: rest) = (⟨pieces, none⟩, rest) := by
  induction written with
  | nil =>
      rw [List.nil_append, Spelling.scan.eq_def]
      simp
  | cons first later induction =>
      rw [List.append_assoc, first.scan_eq, induction]
      rfl

/-- A character is given by one unit unless its code is too large for that; codes of
halves of pairs are no characters. -/
theorem Spells.text_eq {pieces : List Piece} (spells : Spells pieces text) :
    (Spelling.mk pieces none).text = .ok text := by
  unfold Spelling.text
  induction spells with
  | nil => rfl
  | character character later induction => simp_all [Spelling.join, Except.map]
  | @unit character pieces text narrow later induction =>
      have valid := valid_toNat character
      have alone : Spelling.isTrailing character.toNat = false ∧
          Spelling.isLeading character.toNat = false := by
        simp only [Spelling.isTrailing, Spelling.isLeading, Bool.and_eq_false_iff,
          decide_eq_false_iff_not]
        omega
      rw [Spelling.join.eq_def]
      simp [alone, induction, Except.map]
  | @pair character pieces text wide later induction =>
      have valid := valid_toNat character
      have leading : Spelling.isTrailing (0xD800 + (character.toNat - 0x10000) / 0x400) = false ∧
          Spelling.isLeading (0xD800 + (character.toNat - 0x10000) / 0x400) = true := by
        simp only [Spelling.isTrailing, Spelling.isLeading, Bool.and_eq_false_iff,
          Bool.and_eq_true, decide_eq_false_iff_not, decide_eq_true_eq]
        omega
      have trailing :
          Spelling.isTrailing (0xDC00 + (character.toNat - 0x10000) % 0x400) = true := by
        simp only [Spelling.isTrailing, Bool.and_eq_true, decide_eq_true_eq]
        omega
      have whole : Spelling.paired (0xD800 + (character.toNat - 0x10000) / 0x400)
          (0xDC00 + (character.toNat - 0x10000) % 0x400) = character := by
        have code : (0xD800 + (character.toNat - 0x10000) / 0x400 - 0xD800) * 1024 +
            (0xDC00 + (character.toNat - 0x10000) % 0x400 - 0xDC00) + 0x10000 =
              character.toNat := by omega
        rw [Spelling.paired, code, Char.ofNat_toNat]
      rw [Spelling.join.eq_def]
      simp [leading, trailing, whole, induction, Except.map]

namespace Numeral

/-- The text does not go on with a number that stands in front of it. -/
structure Ends (text : Text) : Prop where
  noDigit : ∀ character ∈ text.head?, Text.isAsciiDigit character = false
  noPoint : '.' ∉ text.head?
  noMark : ∀ character ∈ text.head?, isExponentMark character = false

theorem DigitRow.isAsciiDigit {digits : Text} (row : DigitRow digits) :
    ∀ character ∈ digits, Text.isAsciiDigit character = true :=
  row.digits

theorem DigitRow.scanDigits_eq {digits : Text} (row : DigitRow digits)
    (noDigit : ∀ character ∈ rest.head?, Text.isAsciiDigit character = false) :
    scanDigits (digits ++ rest) = .ok (digits, rest) := by
  have stops : rest.takeWhile Text.isAsciiDigit = [] ∧
      rest.dropWhile Text.isAsciiDigit = rest := by
    cases rest with
    | nil => exact ⟨rfl, rfl⟩
    | cons character rest => simp [noDigit character rfl]
  have taken : (digits ++ rest).takeWhile Text.isAsciiDigit = digits := by
    rw [List.takeWhile_append_of_pos row.isAsciiDigit, stops.1, List.append_nil]
  have dropped : (digits ++ rest).dropWhile Text.isAsciiDigit = rest := by
    rw [List.dropWhile_append_of_pos row.isAsciiDigit, stops.2]
  simp [scanDigits, taken, dropped, row.nonempty]

theorem DigitRow.exists_cons {digits : Text} (row : DigitRow digits) :
    ∃ digit more, digits = digit :: more ∧ Text.isAsciiDigit digit = true := by
  obtain ⟨digit, more, rfl⟩ := List.exists_cons_of_ne_nil row.nonempty
  exact ⟨digit, more, rfl, row.isAsciiDigit digit List.mem_cons_self⟩

theorem SignWritten.scanMinus_eq {negative : Bool} {sign : Text}
    (written : SignWritten negative sign) (noMinus : '-' ∉ rest.head?) :
    scanMinus (sign ++ rest) = (negative, rest) := by
  cases written with
  | minus => rfl
  | unsigned =>
      change scanMinus rest = (false, rest)
      unfold scanMinus
      split
      · exact (noMinus rfl).elim
      · rfl

theorem ExponentSignWritten.scanSign_eq {negative : Bool} {sign : Text}
    (written : ExponentSignWritten negative sign) (noMinus : '-' ∉ rest.head?)
    (noPlus : '+' ∉ rest.head?) : scanSign (sign ++ rest) = (negative, rest) := by
  cases written with
  | minus => rfl
  | plus => rfl
  | unsigned =>
      change scanSign rest = (false, rest)
      unfold scanSign
      split
      · exact (noPlus rfl).elim
      · exact SignWritten.unsigned.scanMinus_eq noMinus

theorem FractionWritten.scanFraction_eq {fraction : Option Text}
    (written : FractionWritten fraction text)
    (noDigit : ∀ character ∈ rest.head?, Text.isAsciiDigit character = false)
    (noPoint : '.' ∉ rest.head?) : scanFraction (text ++ rest) = .ok (fraction, rest) := by
  cases written with
  | absent =>
      change scanFraction rest = .ok (none, rest)
      unfold scanFraction
      split
      · exact (noPoint rfl).elim
      · rfl
  | present row =>
      simp only [List.cons_append, scanFraction, row.scanDigits_eq noDigit]
      rfl

theorem ExponentWritten.scanExponent_eq {exponent : Option (Bool × Text)}
    (written : ExponentWritten exponent text) (ends : Ends rest) :
    scanExponent (text ++ rest) = .ok (exponent, rest) := by
  cases written with
  | absent =>
      cases rest with
      | nil => rfl
      | cons character rest => simp [scanExponent, ends.noMark character rfl]
  | @present mark negative sign digits known signed row =>
      have isMark : isExponentMark mark = true := by simpa [isExponentMark] using known
      obtain ⟨digit, more, rfl, isDigit⟩ := row.exists_cons
      have signs : scanSign (sign ++ (digit :: more ++ rest)) =
          (negative, digit :: more ++ rest) := by
        apply signed.scanSign_eq
        · rintro ⟨⟩
          cases isDigit
        · rintro ⟨⟩
          cases isDigit
      simp only [List.cons_append, List.append_assoc, scanExponent, isMark, if_true] at signs ⊢
      rw [signs]
      have digits := row.scanDigits_eq ends.noDigit
      simp only [List.cons_append] at digits
      rw [digits]
      rfl

theorem ExponentWritten.noDigit_noPoint {exponent : Option (Bool × Text)}
    (written : ExponentWritten exponent text) (ends : Ends rest) :
    (∀ character ∈ (text ++ rest).head?, Text.isAsciiDigit character = false) ∧
      '.' ∉ (text ++ rest).head? := by
  cases written with
  | absent => exact ⟨ends.noDigit, ends.noPoint⟩
  | present known signed row =>
      simp only [List.mem_cons, List.not_mem_nil, or_false] at known
      rcases known with rfl | rfl <;> simp [Text.isAsciiDigit]

theorem FractionWritten.noDigit {fraction : Option Text}
    (written : FractionWritten fraction text)
    (noDigit : ∀ character ∈ rest.head?, Text.isAsciiDigit character = false) :
    ∀ character ∈ (text ++ rest).head?, Text.isAsciiDigit character = false := by
  cases written with
  | absent => exact noDigit
  | present row => simp [Text.isAsciiDigit]

theorem DigitRow.scanWhole_eq {whole : Text} (row : DigitRow whole)
    (leading : whole.head? = some '0' → whole = ['0'])
    (noDigit : ∀ character ∈ rest.head?, Text.isAsciiDigit character = false) :
    scanWhole (whole ++ rest) = .ok (whole, rest) := by
  have zero : ¬(whole.length ≠ 1 ∧ whole.head? = some '0') := by
    rintro ⟨longer, first⟩
    exact longer (by rw [leading first]; rfl)
  simp only [scanWhole, row.scanDigits_eq noDigit, bind, Except.bind, if_neg zero]

theorem Written.scan_eq {numeral : Numeral} (written : numeral.Written text)
    (ends : Ends rest) : scan (text ++ rest) = .ok (numeral, rest) := by
  cases written with
  | @parts negative whole sign afterWhole atEnd fraction exponent signed row leading fractioned
      exponentiated =>
      obtain ⟨noDigit, noPoint⟩ := exponentiated.noDigit_noPoint ends
      obtain ⟨digit, more, rfl, isDigit⟩ := row.exists_cons
      have minus : scanMinus (sign ++ (digit :: more ++ (afterWhole ++ (atEnd ++ rest)))) =
          (negative, digit :: more ++ (afterWhole ++ (atEnd ++ rest))) := by
        apply signed.scanMinus_eq
        rintro ⟨⟩
        cases isDigit
      simp only [List.append_assoc, scan, minus]
      rw [row.scanWhole_eq leading (fractioned.noDigit noDigit)]
      simp only [bind, Except.bind, fractioned.scanFraction_eq noDigit noPoint,
        exponentiated.scanExponent_eq ends]

/-- A number begins with a minus sign or a digit. -/
theorem Written.exists_cons {numeral : Numeral} (written : numeral.Written text) :
    ∃ first more, text = first :: more ∧ Token.beginsNumeral first = true := by
  cases written with
  | parts signed row leading fractioned exponentiated =>
      obtain ⟨digit, more, rfl, isDigit⟩ := row.exists_cons
      cases signed with
      | minus => exact ⟨_, _, rfl, rfl⟩
      | unsigned => exact ⟨_, _, rfl, by simp [Token.beginsNumeral, isDigit]⟩

end Numeral

theorem tokens_spaces {spaces : Text} (blank : Spaces spaces) (rest : Text) :
    tokens (spaces ++ rest) = tokens rest := by
  induction spaces with
  | nil => rfl
  | cons character spaces induction =>
      have isSpace : Token.isSpace character = true := by
        simpa [Token.isSpace, or_assoc] using blank character List.mem_cons_self
      rw [List.cons_append, tokens, if_pos isSpace]
      exact induction fun other member => blank other (List.mem_cons_of_mem _ member)

theorem mem_of_mark? {character : Char} {token : Token}
    (marked : Token.mark? character = some token) :
    character ∈ ['{', '}', '[', ']', ',', ':'] := by
  by_contra other
  simp only [List.mem_cons, List.not_mem_nil, or_false, not_or] at other
  simp [Token.mark?, other] at marked

theorem mem_of_word? {character : Char} {word : Token × Text}
    (found : Token.word? character = some word) : character ∈ ['n', 't', 'f'] := by
  by_contra other
  simp only [List.mem_cons, List.not_mem_nil, or_false, not_or] at other
  simp [Token.word?, other] at found

theorem tokens_mark {character : Char} {token : Token}
    (marked : Token.mark? character = some token) (rest : Text) :
    tokens (character :: rest) = token :: tokens rest := by
  have notSpace : ∀ mark ∈ ['{', '}', '[', ']', ',', ':'], (!Token.isSpace mark) = true :=
    List.all_eq_true.mp rfl
  rw [tokens, if_neg (by simpa using notSpace character (mem_of_mark? marked))]
  simp [Token.scan, marked]

theorem Spelling.Written.tokens_eq {spelling : Spelling} (written : spelling.Written text)
    (rest : Text) : tokens (text ++ rest) = .string spelling :: tokens rest := by
  cases written with
  | @quoted pieces text inner =>
      have scanned := inner.scan_eq rest
      have quoted : Token.scan '"' (text ++ '"' :: rest) = (.string ⟨pieces, none⟩, rest) := by
        simp [Token.scan, Token.mark?, Token.word?, scanned]
      rw [List.cons_append, List.append_assoc, List.singleton_append, tokens,
        if_neg (by decide), quoted]

theorem of_beginsNumeral {first : Char} (begins : Token.beginsNumeral first = true) :
    Token.isSpace first = false ∧ Token.mark? first = none ∧ Token.word? first = none ∧
      first ≠ '"' := by
  have other : ∀ character, Token.beginsNumeral character = false → first ≠ character := by
    rintro character different rfl
    rw [begins] at different
    cases different
  refine ⟨?_, ?_, ?_, other '"' rfl⟩
  · simp [Token.isSpace, other ' ' rfl, other '\n' rfl, other '\t' rfl, other '\r' rfl]
  · simp [Token.mark?, other '{' rfl, other '}' rfl, other '[' rfl, other ']' rfl,
      other ',' rfl, other ':' rfl]
  · simp [Token.word?, other 'n' rfl, other 't' rfl, other 'f' rfl]

theorem Numeral.Written.tokens_eq {numeral : Numeral} (written : numeral.Written text)
    (ends : Numeral.Ends rest) : tokens (text ++ rest) = .numeral numeral :: tokens rest := by
  have scanned := written.scan_eq ends
  obtain ⟨first, more, rfl, begins⟩ := written.exists_cons
  obtain ⟨notSpace, notMark, notWord, notQuote⟩ := of_beginsNumeral begins
  rw [List.cons_append] at scanned ⊢
  have read : Token.scan first (more ++ rest) = (.numeral numeral, rest) := by
    simp [Token.scan, notMark, notWord, notQuote, begins, scanned]
  rw [tokens, if_neg (by simp [notSpace]), read]

theorem tokens_word {first : Char} {letters : Text} {token : Token}
    (word : Token.word? first = some (token, letters)) (rest : Text) :
    tokens (first :: (letters ++ rest)) = token :: tokens rest := by
  have spelled : Token.scanLetters letters (letters ++ rest) = .ok rest := by
    clear word
    induction letters with
    | nil => rfl
    | cons letter letters induction => simp [Token.scanLetters, induction]
  have other : ∀ letter ∈ ['n', 't', 'f'],
      (!Token.isSpace letter && (Token.mark? letter).isNone) = true :=
    List.all_eq_true.mp rfl
  obtain ⟨notSpace, notMark⟩ : Token.isSpace first = false ∧ Token.mark? first = none := by
    simpa using other first (mem_of_word? word)
  have read : Token.scan first (letters ++ rest) = (token, rest) := by
    simp [Token.scan, notMark, word, spelled]
  rw [tokens, if_neg (by simp [notSpace]), read]

open Expectation (deliver takeValue)

/-- The tokens of the text lead from one expectation to another, whatever follows. -/
def Reads (text : Text) (before after : Expectation) : Prop :=
  ∀ rest, Numeral.Ends rest →
    (tokens (text ++ rest)).foldl Expectation.take before = (tokens rest).foldl Expectation.take after

/-- A value may come next in the containers. -/
inductive Awaits : List Enclosure → Expectation → Prop where
  | value (around : List Enclosure) : Awaits around (.wantValue around)
  | item (around : List Enclosure) : Awaits (.list [] :: around) (.wantItemOrEnd around)

/-- A key may come next, behind the members. -/
inductive AwaitsKey : List (Spelling × Value) → List Enclosure → Expectation → Prop where
  | key (members : List (Spelling × Value)) (around : List Enclosure) :
      AwaitsKey members around (.wantKey members around)
  | keyOrEnd (around : List Enclosure) : AwaitsKey [] around (.wantKeyOrEnd around)

section

variable {around : List Enclosure} {members : List (Spelling × Value)}
  {before middle after expectation : Expectation}

theorem Awaits.take_eq (awaits : Awaits around expectation) (token : Token)
    (opens : token ≠ .closeBracket) : expectation.take token = takeValue around token := by
  cases awaits with
  | value => rfl
  | item =>
      cases token with
      | closeBracket => exact (opens rfl).elim
      | _ => rfl

theorem AwaitsKey.take_eq (awaits : AwaitsKey members around expectation) (key : Spelling) :
    expectation.take (.string key) = .wantColon members key around := by
  cases awaits <;> rfl

theorem Reads.behindMark {mark : Char} {token : Token} (marked : Token.mark? mark = some token)
    (reads : Reads text (before.take token) after) : Reads (mark :: text) before after := by
  intro rest ends
  rw [List.cons_append, tokens_mark marked, List.foldl_cons]
  exact reads rest ends

theorem Reads.behindSpaces {spaces : Text} (blank : Spaces spaces) (reads : Reads text before after) :
    Reads (spaces ++ text) before after := by
  intro rest ends
  rw [List.append_assoc, tokens_spaces blank]
  exact reads rest ends

theorem reads_spaces {spaces : Text} (blank : Spaces spaces) : Reads spaces before before := by
  intro rest ends
  rw [tokens_spaces blank]

theorem Spelling.Written.reads {spelling : Spelling} (written : spelling.Written text)
    (before : Expectation) : Reads text before (before.take (.string spelling)) := by
  intro rest ends
  rw [written.tokens_eq]
  rfl

/-- A text in front of which a number may end, if it may end behind the text. -/
def Separates (text : Text) : Prop :=
  ∀ rest, Numeral.Ends rest → Numeral.Ends (text ++ rest)

theorem ends_of_mem {character : Char}
    (known : character ∈ ['{', '}', '[', ']', ',', ':', ' ', '\n', '\t', '\r']) (rest : Text) :
    Numeral.Ends (character :: rest) := by
  have other : ∀ separator ∈ ['{', '}', '[', ']', ',', ':', ' ', '\n', '\t', '\r'],
      (!Text.isAsciiDigit separator && separator != '.' &&
        !Numeral.isExponentMark separator) = true :=
    List.all_eq_true.mp rfl
  obtain ⟨⟨noDigit, noPoint⟩, noMark⟩ : (Text.isAsciiDigit character = false ∧
      character ≠ '.') ∧ Numeral.isExponentMark character = false := by
    simpa using other character known
  constructor <;> simp [noDigit, noPoint, noMark]

theorem separates_mark {mark : Char} {token : Token} (marked : Token.mark? mark = some token)
    (text : Text) : Separates (mark :: text) := by
  intro rest ends
  refine ends_of_mem ?_ (text ++ rest)
  exact List.mem_append_left [' ', '\n', '\t', '\r'] (mem_of_mark? marked)

theorem Separates.behindSpaces {spaces : Text} (blank : Spaces spaces) (separates : Separates text) :
    Separates (spaces ++ text) := by
  intro rest ends
  cases spaces with
  | nil => exact separates rest ends
  | cons space spaces =>
      refine ends_of_mem ?_ (spaces ++ text ++ rest)
      exact List.mem_append_right ['{', '}', '[', ']', ',', ':'] (blank space List.mem_cons_self)

theorem separates_nil : Separates [] :=
  fun _ ends => ends

theorem Reads.append {further : Text} (first : Reads text before middle)
    (separates : Separates further) (second : Reads further middle after) :
    Reads (text ++ further) before after := by
  intro rest ends
  rw [List.append_assoc, first _ (separates rest ends)]
  exact second rest ends

theorem Reads.padded {ahead behind : Text} (spacesAhead : Spaces ahead)
    (reads : Reads text before after) (spacesBehind : Spaces behind) :
    Reads (ahead ++ (text ++ behind)) before after := by
  have separates := separates_nil.behindSpaces spacesBehind
  rw [List.append_nil] at separates
  exact .behindSpaces spacesAhead (reads.append separates (reads_spaces spacesBehind))

/-- What is read up to a mark, and goes on behind it. -/
theorem Reads.marked {mark : Char} {further : Text} (reads : Reads text before middle)
    (token : Token) (isMark : Token.mark? mark = some token)
    (later : Reads further (middle.take token) after) :
    Reads (text ++ mark :: further) before after :=
  reads.append (separates_mark isMark further) (.behindMark isMark later)

theorem Awaits.reads_word (awaits : Awaits around expectation) {first : Char} {letters : Text}
    (token : Token) (word : Token.word? first = some (token, letters))
    (opens : token ≠ .closeBracket) :
    Reads (first :: letters) expectation (takeValue around token) := by
  intro rest ends
  rw [List.cons_append, tokens_word word, List.foldl_cons, awaits.take_eq token opens]

theorem Awaits.reads_container (awaits : Awaits around expectation) {first last : Char}
    (opening closing : Token) (opens : Token.mark? first = some opening)
    (closes : Token.mark? last = some closing) (noEnd : opening ≠ .closeBracket)
    (reads : Reads text (takeValue around opening) after) :
    Reads (first :: (text ++ [last])) expectation (after.take closing) := by
  apply Reads.behindMark opens
  rw [awaits.take_eq opening noEnd]
  exact reads.marked closing closes fun _ _ => rfl

end

mutual

theorem Value.Written.reads {value : Value} {text : Text} (written : value.Written text)
    {around : List Enclosure} {expectation : Expectation} (awaits : Awaits around expectation) :
    Reads text expectation (deliver value around) := by
  cases written with
  | null => exact awaits.reads_word .null rfl nofun
  | yes => exact awaits.reads_word (.boolean true) rfl nofun
  | no => exact awaits.reads_word (.boolean false) rfl nofun
  | @numeral numeral text inner =>
      intro rest ends
      rw [inner.tokens_eq ends, List.foldl_cons, awaits.take_eq (.numeral numeral) nofun]
      rfl
  | @string spelling text inner =>
      have reads := inner.reads expectation
      rw [awaits.take_eq (.string spelling) nofun] at reads
      exact reads
  | emptyList spaces =>
      exact awaits.reads_container .openBracket .closeBracket rfl rfl nofun (reads_spaces spaces)
  | @list items text inner =>
      have reads : Reads ('[' :: (text ++ [']'])) expectation _ :=
        awaits.reads_container .openBracket .closeBracket rfl rfl nofun
          (ItemsWritten.reads inner (.item around))
      simp only [List.append_nil, Expectation.take, List.reverse_reverse] at reads
      exact reads
  | emptyRecord spaces =>
      exact awaits.reads_container .openBrace .closeBrace rfl rfl nofun (reads_spaces spaces)
  | @record members text inner =>
      have reads : Reads ('{' :: (text ++ ['}'])) expectation _ :=
        awaits.reads_container .openBrace .closeBrace rfl rfl nofun
          (MembersWritten.reads inner (.keyOrEnd around))
      simp only [List.append_nil, Expectation.take, List.reverse_reverse] at reads
      exact reads

theorem ItemsWritten.reads {items : List Value} {text : Text} (written : ItemsWritten items text)
    {done : List Value} {around : List Enclosure} {expectation : Expectation}
    (awaits : Awaits (.list done :: around) expectation) :
    Reads text expectation (.afterItem (items.reverse ++ done) around) := by
  cases written with
  | last spacesBefore item spacesAfter =>
      exact .padded spacesBefore (Value.Written.reads item awaits) spacesAfter
  | @more value items before text after rest spacesBefore item spacesAfter later =>
      have first := Value.Written.reads item awaits
      have others := ItemsWritten.reads later (.value (.list (value :: done) :: around))
      rw [List.reverse_cons, List.append_assoc items.reverse]
      exact (first.padded spacesBefore spacesAfter).marked .comma rfl others

theorem MemberWritten.reads {member : Spelling × Value} {text : Text}
    (written : MemberWritten member text) {members : List (Spelling × Value)}
    {around : List Enclosure} {expectation : Expectation}
    (awaits : AwaitsKey members around expectation) :
    Reads text expectation (.afterMember (member :: members) around) := by
  cases written with
  | @named key value _ _ _ _ _ _ spacesAhead key_written spacesBehind spacesBefore content
      spacesAfter =>
      have named := key_written.reads expectation
      have reads := Value.Written.reads content (.value (.record members key :: around))
      rw [awaits.take_eq] at named
      exact (named.padded spacesAhead spacesBehind).marked .colon rfl
        (reads.padded spacesBefore spacesAfter)

theorem MembersWritten.reads {members : List (Spelling × Value)} {text : Text}
    (written : MembersWritten members text) {done : List (Spelling × Value)}
    {around : List Enclosure} {expectation : Expectation}
    (awaits : AwaitsKey done around expectation) :
    Reads text expectation (.afterMember (members.reverse ++ done) around) := by
  cases written with
  | last only => exact MemberWritten.reads only awaits
  | @more member members text rest first later =>
      have firstReads := MemberWritten.reads first awaits
      have others := MembersWritten.reads later (.key (member :: done) around)
      rw [List.reverse_cons, List.append_assoc members.reverse]
      exact firstReads.marked .comma rfl others

end

/-- The value of a JSON text is read back, and nothing is left behind it. -/
theorem Value.Document.readValue_eq {value : Value} (document : value.Document text) :
    readValue (tokens text) = (value, false) := by
  cases document with
  | between spacesBefore inner spacesAfter =>
      have reads := (inner.reads (.value [])).padded spacesBefore spacesAfter []
        ⟨nofun, nofun, nofun⟩
      rw [List.append_nil] at reads
      rw [readValue, reads]
      simp [tokens, deliver, Expectation.conclude]

mutual

theorem Value.Written.fault?_eq_none {value : Value} {text : Text}
    (written : value.Written text) : value.fault? = none := by
  cases written with
  | null => rfl
  | yes => rfl
  | no => rfl
  | numeral => rfl
  | string inner =>
      cases inner
      rfl
  | emptyList => rfl
  | list inner =>
      have items := ItemsWritten.itemsFault?_eq_none inner
      simp [Value.fault?, items]
  | emptyRecord => rfl
  | record inner =>
      have members := MembersWritten.membersFault?_eq_none inner
      simp [Value.fault?, members]

theorem ItemsWritten.itemsFault?_eq_none {items : List Value} {text : Text}
    (written : ItemsWritten items text) : Value.itemsFault? items = none := by
  cases written with
  | last _ item _ =>
      have first := Value.Written.fault?_eq_none item
      simp [Value.itemsFault?, first]
  | more _ item _ later =>
      have first := Value.Written.fault?_eq_none item
      have others := ItemsWritten.itemsFault?_eq_none later
      simp [Value.itemsFault?, first, others]

theorem MemberWritten.fault?_eq_none {member : Spelling × Value} {text : Text}
    (written : MemberWritten member text) : member.1.fault = none ∧ member.2.fault? = none := by
  cases written with
  | named _ key_written _ _ content _ =>
      cases key_written
      exact ⟨rfl, Value.Written.fault?_eq_none content⟩

theorem MembersWritten.membersFault?_eq_none {members : List (Spelling × Value)} {text : Text}
    (written : MembersWritten members text) : Value.membersFault? members = none := by
  cases written with
  | last only =>
      have first := MemberWritten.fault?_eq_none only
      simp [Value.membersFault?, first]
  | more only later =>
      have first := MemberWritten.fault?_eq_none only
      have others := MembersWritten.membersFault?_eq_none later
      simp [Value.membersFault?, first, others]

end

theorem Value.Document.fault?_eq_none {value : Value} (document : value.Document text) :
    value.fault? = none := by
  cases document with
  | between _ inner _ => exact inner.fault?_eq_none

end ScriptDesk.Json
