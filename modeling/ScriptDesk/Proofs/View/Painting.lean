import ScriptDesk.Proofs.Session.Dispatching
import ScriptDesk.Proofs.Text.Boundary
import ScriptDesk.Proofs.Text.Decimal
import ScriptDesk.Proofs.View.Transcript

/-!
# Painted lines

Colour adds nothing but sequences that set attributes.  With the sequences taken out, a
painting in colour is the painting without.  A line is shown in the attributes of its tone,
and behind its text, before the line feed, the attributes are the default ones again.

A terminal with limited room takes a painting exactly if there is room for all of it, so
that no failure to write is passed over.
-/

namespace ScriptDesk

namespace Terminal

/-- A part of what is written: a character that is shown, or a sequence with its codes. -/
inductive Part where
  | shown (character : Char)
  | attributes (codes : Text)
deriving DecidableEq, Repr

/-- Whether a character may stand among the codes of a sequence. -/
def isCode (character : Char) : Bool :=
  Text.isAsciiDigit character || character = ';'

/-- The codes of a sequence at the beginning of a text, and what follows it. -/
def sequence? : Text → Option (Text × Text)
  | '\x1b' :: '[' :: rest =>
    match rest.dropWhile isCode with
    | 'm' :: behind => some (rest.takeWhile isCode, behind)
    | _ => none
  | _ => none

theorem length_sequence?_lt {text codes behind : Text}
    (found : sequence? text = some (codes, behind)) : behind.length < text.length := by
  unfold sequence? at found
  split at found
  · rename_i rest
    split at found
    · rename_i last
      cases found
      have within : (rest.dropWhile isCode).length ≤ rest.length :=
        (List.dropWhile_sublist isCode).length_le
      rw [last] at within
      simp only [List.length_cons] at within ⊢
      omega
    · cases found
  · cases found

def parts : Text → List Part
  | [] => []
  | character :: rest =>
    match _found : sequence? (character :: rest) with
    | some (codes, behind) => .attributes codes :: parts behind
    | none => .shown character :: parts rest
termination_by text => text.length
decreasing_by
  · exact length_sequence?_lt ‹_›
  · simp

def Part.shown? : Part → Option Char
  | .shown character => some character
  | .attributes _ => none

/-- What is left of a text without its sequences. -/
def erase (text : Text) : Text :=
  (parts text).filterMap Part.shown?

/-- How a terminal shows characters. -/
structure Attributes where
  colour : Option Nat
  underlined : Bool
deriving DecidableEq, Repr

namespace Attributes

/-- How characters are shown where nothing has been set. -/
def default : Attributes := ⟨none, false⟩

/-- The attributes after codes.  A code that is left out is zero. -/
def set (attributes : Attributes) : List Text → Attributes
  | [] => attributes
  | ['3', '8'] :: ['5'] :: colour :: rest =>
    set { attributes with colour := some (Text.digitsValue colour) } rest
  | ['4'] :: rest => set { attributes with underlined := true } rest
  | code :: rest => set (if code = ['0'] ∨ code = [] then default else attributes) rest

def pass (attributes : Attributes) : Part → Attributes
  | .shown _ => attributes
  | .attributes codes => attributes.set (codes.splitOn ';')

def after (attributes : Attributes) (text : Text) : Attributes :=
  (parts text).foldl pass attributes

end Attributes

/-- The attributes that a line of a tone is shown in. -/
def toneAttributes (coloured : Bool) (tone : Tone) : Attributes :=
  if coloured then ⟨tone.colour?, tone = .link⟩ else .default

variable {text codes rest : Text}

theorem parts_character {character : Char} (plain : character ≠ '\x1b') (rest : Text) :
    parts (character :: rest) = .shown character :: parts rest := by
  have none : sequence? (character :: rest) = none := by
    unfold sequence?
    split
    · rename_i same
      exact (plain (List.cons.inj same).1).elim
    · rfl
  rw [parts]
  split
  · rename_i found
    rw [none] at found
    cases found
  · rfl

theorem parts_text (plain : '\x1b' ∉ text) (rest : Text) :
    parts (text ++ rest) = text.map .shown ++ parts rest := by
  induction text with
  | nil => rfl
  | cons character text induction =>
      rw [List.mem_cons, not_or] at plain
      rw [List.cons_append, parts_character (Ne.symm plain.1), induction plain.2]
      rfl

theorem parts_attributes (known : codes.all isCode = true) (rest : Text) :
    parts (Terminal.attributes codes ++ rest) = .attributes codes :: parts rest := by
  have isCodes : ∀ character ∈ codes, isCode character = true := List.all_eq_true.mp known
  have ends : isCode 'm' = false := rfl
  have found : sequence? (Terminal.attributes codes ++ rest) = some (codes, rest) := by
    simp only [Terminal.attributes, List.cons_append, List.append_assoc, List.nil_append,
      sequence?, List.takeWhile_append_of_pos isCodes, List.dropWhile_append_of_pos isCodes]
    simp [ends]
  have unfolded : Terminal.attributes codes ++ rest =
      '\x1b' :: ('[' :: codes ++ ['m'] ++ rest) := rfl
  rw [unfolded] at found ⊢
  rw [parts]
  split
  · rename_i same
    rw [found] at same
    cases same
    rfl
  · rename_i none
    rw [found] at none
    cases none

/-- Sequences one after the other. -/
def sequences (codes : List Text) : Text :=
  codes.flatMap Terminal.attributes

/-- Sequences set the attributes of a line's tone before its text, and the default ones
after it. -/
structure Decorates (coloured : Bool) (line : ViewLine) (opening closing : List Text) :
    Prop where
  flatten_eq : (pieces coloured line).flatten =
    sequences opening ++ line.text ++ sequences closing ++ ['\n']
  known : ∀ codes ∈ opening ++ closing, codes.all isCode = true
  opens : (opening.map .attributes).foldl Attributes.pass .default =
    toneAttributes coloured line.tone
  closes : (closing.map .attributes).foldl Attributes.pass (toneAttributes coloured line.tone) =
    .default

theorem semicolon_not_mem_decimal (number : Nat) : ';' ∉ Text.decimal number := by
  intro member
  have digit := List.all_eq_true.mp (Text.all_isAsciiDigit_decimal number) _ member
  cases digit

theorem all_isCode_colourCodes (colour : Nat) : (colourCodes colour).all isCode = true := by
  have digits : (Text.decimal colour).all isCode = true := by
    rw [List.all_eq_true]
    intro character member
    have digit := List.all_eq_true.mp (Text.all_isAsciiDigit_decimal colour) _ member
    simp [isCode, digit]
  have parted : colourCodes colour = "38;5;".toList ++ Text.decimal colour := rfl
  rw [parted, List.all_append, digits]
  rfl

theorem pass_colourCodes (attributes : Attributes) (colour : Nat) :
    attributes.pass (.attributes (colourCodes colour)) =
      { attributes with colour := some colour } := by
  have split : (colourCodes colour).splitOn ';' = [['3', '8'], ['5'], Text.decimal colour] := by
    have parted : colourCodes colour =
        ['3', '8'] ++ ';' :: (['5'] ++ ';' :: Text.decimal colour) := rfl
    rw [parted, List.splitOn_append_cons_self, List.splitOn_append_cons_self,
      List.splitOn_eq_singleton (semicolon_not_mem_decimal colour)]
    rfl
  rw [Attributes.pass, split]
  simp [Attributes.set, Text.digitsValue_decimal]

theorem exists_decorates (coloured : Bool) (line : ViewLine) :
    ∃ opening closing, Decorates coloured line opening closing := by
  obtain ⟨tone, text⟩ := line
  cases shade : tone.colour?.filter fun _ => coloured with
  | none =>
      have same : toneAttributes coloured tone = .default := by
        cases coloured with
        | false => rfl
        | true => cases tone <;> first | rfl | cases shade
      refine ⟨[], [], ?_, nofun, same.symm, same⟩
      simp [pieces, shade, sequences]
  | some colour =>
      obtain ⟨hasColour, rfl⟩ := Option.filter_eq_some_iff.mp shade
      refine ⟨colourCodes colour :: if tone = .link then [['4']] else [], [['0'], ['0']],
        ?_, ?_, ?_, rfl⟩
      · simp only [pieces, shade]
        by_cases link : tone = .link <;> simp [sequences, link]
      · intro codes member
        rw [List.cons_append, List.mem_cons] at member
        rcases member with rfl | other
        · exact all_isCode_colourCodes colour
        · have plain : codes = ['4'] ∨ codes = ['0'] := by
            by_cases link : tone = .link <;> simp_all
          rcases plain with rfl | rfl <;> rfl
      · rw [List.map_cons, List.foldl_cons, pass_colourCodes]
        by_cases link : tone = .link
        · subst link
          cases hasColour
          rfl
        · rw [if_neg link, List.map_nil, List.foldl_nil]
          simp [toneAttributes, Attributes.default, hasColour, link]

theorem parts_sequences {row : List Text} (known : ∀ codes ∈ row, codes.all isCode = true)
    (rest : Text) : parts (sequences row ++ rest) = row.map .attributes ++ parts rest := by
  induction row with
  | nil => rfl
  | cons codes row induction =>
      have first := known codes List.mem_cons_self
      have later := induction fun other member => known other (List.mem_cons_of_mem _ member)
      rw [sequences, List.flatMap_cons, List.append_assoc, parts_attributes first]
      exact congrArg _ later

theorem filterMap_shown (text : Text) :
    (text.map Part.shown).filterMap Part.shown? = text := by
  rw [List.filterMap_map]
  exact List.filterMap_some

theorem filterMap_attributes (row : List Text) :
    (row.map Part.attributes).filterMap Part.shown? = [] := by
  rw [List.filterMap_map]
  exact List.filterMap_none row

theorem foldl_pass_shown (attributes : Attributes) (text : Text) :
    (text.map Part.shown).foldl Attributes.pass attributes = attributes := by
  induction text with
  | nil => rfl
  | cons character text induction => exact induction

namespace Decorates

variable {coloured : Bool} {line : ViewLine} {opening closing : List Text}

theorem parts_ahead (decorates : Decorates coloured line opening closing) (rest : Text) :
    parts (sequences opening ++ rest) = opening.map .attributes ++ parts rest :=
  parts_sequences (fun codes member => decorates.known codes (List.mem_append_left _ member)) rest

theorem parts_behind (decorates : Decorates coloured line opening closing) (rest : Text) :
    parts (sequences closing ++ rest) = closing.map .attributes ++ parts rest :=
  parts_sequences (fun codes member => decorates.known codes (List.mem_append_right _ member)) rest

theorem parts_eq (decorates : Decorates coloured line opening closing)
    (plain : '\x1b' ∉ line.text) (rest : Text) :
    parts ((pieces coloured line).flatten ++ rest) =
      opening.map .attributes ++ (line.text.map .shown ++
        (closing.map .attributes ++ .shown '\n' :: parts rest)) := by
  rw [decorates.flatten_eq, List.append_assoc, List.append_assoc, List.append_assoc,
    decorates.parts_ahead, parts_text plain, decorates.parts_behind, List.singleton_append,
    parts_character (by decide)]

end Decorates

variable {lines before after : List ViewLine} {line : ViewLine}

theorem painted_cons (coloured : Bool) (line : ViewLine) (lines : List ViewLine) :
    painted coloured (line :: lines) =
      (pieces coloured line).flatten ++ painted coloured lines := by
  simp [painted]

/-- Without sequences, every painting is the one without colour. -/
theorem erase_painted_append (plain : ∀ line ∈ lines, '\x1b' ∉ line.text) (coloured : Bool)
    (rest : Text) : erase (painted coloured lines ++ rest) = painted false lines ++ erase rest := by
  induction lines with
  | nil => rfl
  | cons line lines induction =>
      obtain ⟨opening, closing, decorates⟩ := exists_decorates coloured line
      have later := induction fun other member => plain other (List.mem_cons_of_mem _ member)
      rw [painted_cons, painted_cons, List.append_assoc, erase,
        decorates.parts_eq (plain line List.mem_cons_self)]
      simp only [List.filterMap_append, filterMap_attributes, filterMap_shown, List.nil_append,
        List.filterMap_cons_some (rfl : Part.shown? (.shown '\n') = some '\n'),
        View.pieces_uncoloured]
      rw [← erase, later]
      simp

theorem after_painted_append (plain : ∀ line ∈ lines, '\x1b' ∉ line.text) (coloured : Bool)
    (rest : Text) :
    Attributes.default.after (painted coloured lines ++ rest) = Attributes.default.after rest := by
  induction lines with
  | nil => rfl
  | cons line lines induction =>
      obtain ⟨opening, closing, decorates⟩ := exists_decorates coloured line
      have later := induction fun other member => plain other (List.mem_cons_of_mem _ member)
      rw [painted_cons, List.append_assoc, Attributes.after,
        decorates.parts_eq (plain line List.mem_cons_self), List.foldl_append, decorates.opens,
        List.foldl_append, foldl_pass_shown, List.foldl_append, decorates.closes]
      exact later

/-- How a line stands in a painting: what is written ahead of its text leads to the
attributes of its tone, and what is written behind it to the default ones. -/
structure Framed (coloured : Bool) (before : List ViewLine) (line : ViewLine)
    (after : List ViewLine) (ahead behind : Text) : Prop where
  painted_eq : painted coloured (before ++ line :: after) =
    ahead ++ line.text ++ behind ++ '\n' :: painted coloured after
  erase_ahead : erase ahead = painted false before
  erase_behind : erase behind = []
  shown : Attributes.default.after ahead = toneAttributes coloured line.tone
  ended : Attributes.default.after (ahead ++ line.text ++ behind) = .default

theorem exists_framed (plain : ∀ line ∈ before, '\x1b' ∉ line.text)
    (plainLine : '\x1b' ∉ line.text) (coloured : Bool) (after : List ViewLine) :
    ∃ ahead behind, Framed coloured before line after ahead behind := by
  obtain ⟨opening, closing, decorates⟩ := exists_decorates coloured line
  have nothing : parts [] = [] := by rw [parts]
  have ahead := decorates.parts_ahead []
  have behind := decorates.parts_behind []
  rw [List.append_nil, nothing, List.append_nil] at ahead behind
  refine ⟨painted coloured before ++ sequences opening, sequences closing, ?_, ?_, ?_, ?_, ?_⟩
  · rw [painted_append, painted_cons, decorates.flatten_eq]
    simp
  · rw [erase_painted_append plain, erase, ahead, filterMap_attributes, List.append_nil]
  · rw [erase, behind, filterMap_attributes]
  · rw [after_painted_append plain, Attributes.after, ahead]
    exact decorates.opens
  · rw [List.append_assoc, List.append_assoc, after_painted_append plain, Attributes.after,
      decorates.parts_ahead, parts_text plainLine, behind, List.foldl_append, List.foldl_append,
      decorates.opens, foldl_pass_shown, decorates.closes]

theorem writeAll_of_fits (written : Text) {octets : Nat} {texts : List Text}
    (fits : Utf8.size texts.flatten ≤ octets) :
    (Terminal.mk written (some octets)).writeAll texts =
      (⟨written ++ texts.flatten, some (octets - Utf8.size texts.flatten)⟩, none) := by
  induction texts generalizing written octets with
  | nil => simp [writeAll, Utf8.size]
  | cons piece texts induction =>
      rw [List.flatten_cons, Utf8.size_append] at fits ⊢
      have room : Utf8.size piece ≤ octets := by omega
      simp only [writeAll, write, if_pos room]
      rw [induction _ (by omega), List.append_assoc, Nat.sub_sub]

theorem writeAll_of_exceeds (written : Text) {octets : Nat} {texts : List Text}
    (exceeds : octets < Utf8.size texts.flatten) :
    ((Terminal.mk written (some octets)).writeAll texts).2 = some full := by
  induction texts generalizing written octets with
  | nil => cases exceeds
  | cons piece texts induction =>
      rw [List.flatten_cons, Utf8.size_append] at exceeds
      by_cases room : Utf8.size piece ≤ octets
      · simp only [writeAll, write, if_pos room]
        exact induction _ (by omega)
      · simp only [writeAll, write, if_neg room]

/-- Colour is decoration, and no failure to write is passed over.  With its sequences taken
out a painting in colour is the one without, and at the end of every line the attributes
are the default ones.  A terminal with limited room takes a painting exactly if there is
room for all of it, and then holds all of it. -/
theorem colour_decorates (lines : List ViewLine) :
    ((∀ line ∈ lines, '\x1b' ∉ line.text) →
      erase (painted true lines) = painted false lines ∧
      ∀ coloured before line after, lines = before ++ line :: after →
        ∃ ahead behind, Framed coloured before line after ahead behind) ∧
    ∀ coloured, unlimited.paint coloured lines = (⟨painted coloured lines, none⟩, none) ∧
      ∀ octets,
        (((limited octets).paint coloured lines).2 = none ↔
          (Utf8.encode (painted coloured lines)).length ≤ octets) ∧
        (((limited octets).paint coloured lines).2 = none →
          ((limited octets).paint coloured lines).1.written = painted coloured lines) := by
  constructor
  · intro plain
    constructor
    · have erased := erase_painted_append plain true []
      have nothing : erase [] = [] := by
        rw [erase, parts]
        rfl
      rwa [nothing, List.append_nil, List.append_nil] at erased
    · rintro coloured before line after rfl
      apply exists_framed
      · exact fun other member => plain other (List.mem_append_left _ member)
      · exact plain line (List.mem_append_right _ List.mem_cons_self)
  · intro coloured
    refine ⟨paint_unlimited [] coloured lines, fun octets => ?_⟩
    rw [Utf8.length_encode]
    constructor
    · constructor
      · intro taken
        by_contra exceeds
        have refused := writeAll_of_exceeds [] (Nat.lt_of_not_le exceeds)
        cases refused.symm.trans taken
      · intro fits
        exact congrArg Prod.snd (writeAll_of_fits [] fits)
    · intro taken
      exact (written_writeAll (limited octets) _ taken).trans (List.nil_append _)

/-- A line in two attributes, with a character of two octets, and a line in none. -/
def linkLines : List ViewLine :=
  [⟨.link, ['é']⟩, ⟨.plain, ['b']⟩]

/-- The sequences take 22 octets and the rest takes 5. -/
theorem colour_decorates_link :
    erase (painted true linkLines) = "é\nb\n".toList ∧
      (∃ ahead behind, Framed true [] ⟨.link, ['é']⟩ [⟨.plain, ['b']⟩] ahead behind) ∧
      ((limited 27).paint true linkLines).1.written = painted true linkLines ∧
      ((limited 26).paint true linkLines).2 ≠ none := by
  obtain ⟨decorates, written⟩ := colour_decorates linkLines
  obtain ⟨erased, framed⟩ := decorates (by decide)
  have number : Text.decimal 14 = ['1', '4'] := (Text.decimal_eq_toDigits 14).trans rfl
  have painting : painted true linkLines =
      attributes ("38;5;".toList ++ Text.decimal 14) ++
        (attributes ['4'] ++ "é\x1b[0m\x1b[0m\nb\n".toList) :=
    rfl
  have octets : (Utf8.encode (painted true linkLines)).length = 27 := by
    rw [painting, number]
    decide
  have takes := ((written true).2 27).1.mpr (Nat.le_of_eq octets)
  refine ⟨erased, framed true [] _ _ rfl, ((written true).2 27).2 takes, fun taken => ?_⟩
  have fits := ((written true).2 26).1.mp taken
  rw [octets] at fits
  exact absurd fits (by decide)

end Terminal

end ScriptDesk
