import ScriptDesk.Json.Value

/-!
# How JSON texts are written

The grammar of JSON as a relation between values and texts.  A value keeps how its
strings are spelled and which digits its numbers have, so of the text it leaves open
only the white space, the case of hexadecimal digits and of exponent marks, and a plus
sign in front of an exponent.  Only values without a fault are written.

What the pieces of a string stand for is said apart.  A string that is passed over may
have units in it that stand for no character.
-/

namespace ScriptDesk.Json

/-- White space between tokens. -/
def Spaces (text : Text) : Prop :=
  ∀ character ∈ text, character ∈ [' ', '\n', '\t', '\r']

/-- A hexadecimal digit, in lower or upper case, with its value. -/
def HexDigit (digit : Char) (value : Nat) : Prop :=
  "0123456789abcdef".toList[value]? = some digit ∨
    "0123456789ABCDEF".toList[value]? = some digit

/-- The letters that may stand behind a backslash, each with its character. -/
def escapes : List (Char × Char) :=
  [('"', '"'), ('\\', '\\'), ('/', '/'), ('b', '\x08'), ('f', '\x0c'), ('n', '\n'),
    ('r', '\r'), ('t', '\t')]

/-- How a piece of a string is written. -/
inductive Piece.Written : Piece → Text → Prop where
  | plain {character : Char} (printable : 0x20 ≤ character.toNat)
      (noMark : character ≠ '"') (noBackslash : character ≠ '\\') :
      Written (.character character) [character]
  | escaped {letter character : Char} (known : (letter, character) ∈ escapes) :
      Written (.character character) ['\\', letter]
  | unit {a b c d : Char} {first second third fourth : Nat} (ofA : HexDigit a first)
      (ofB : HexDigit b second) (ofC : HexDigit c third) (ofD : HexDigit d fourth) :
      Written (.unit (((first * 16 + second) * 16 + third) * 16 + fourth))
        ['\\', 'u', a, b, c, d]

/-- How the pieces of a string are written one after the other. -/
inductive PiecesWritten : List Piece → Text → Prop where
  | nil : PiecesWritten [] []
  | cons {piece : Piece} {pieces : List Piece} {text rest : Text}
      (first : piece.Written text) (later : PiecesWritten pieces rest) :
      PiecesWritten (piece :: pieces) (text ++ rest)

/-- How a string is written. -/
inductive Spelling.Written : Spelling → Text → Prop where
  | quoted {pieces : List Piece} {text : Text} (inner : PiecesWritten pieces text) :
      Written ⟨pieces, none⟩ ('"' :: (text ++ ['"']))

/-- The pieces stand for a text.  A character is a piece of its own or is given by its
code, which takes one unit or a pair of them. -/
inductive Spells : List Piece → Text → Prop where
  | nil : Spells [] []
  | character (character : Char) {pieces : List Piece} {text : Text}
      (later : Spells pieces text) :
      Spells (.character character :: pieces) (character :: text)
  | unit {character : Char} {pieces : List Piece} {text : Text}
      (narrow : character.toNat < 0x10000) (later : Spells pieces text) :
      Spells (.unit character.toNat :: pieces) (character :: text)
  | pair {character : Char} {pieces : List Piece} {text : Text}
      (wide : 0x10000 ≤ character.toNat) (later : Spells pieces text) :
      Spells
        (.unit (0xD800 + (character.toNat - 0x10000) / 0x400) ::
          .unit (0xDC00 + (character.toNat - 0x10000) % 0x400) :: pieces)
        (character :: text)

theorem spells_characters (text : Text) : Spells (text.map .character) text := by
  induction text with
  | nil => exact .nil
  | cons character text induction => exact .character character induction

theorem piecesWritten_characters {text : Text}
    (plain : (text.all fun character =>
      0x20 ≤ character.toNat ∧ character ≠ '"' ∧ character ≠ '\\') = true) :
    PiecesWritten (text.map .character) text := by
  induction text with
  | nil => exact .nil
  | cons character text induction =>
      rw [List.all_cons, Bool.and_eq_true, decide_eq_true_eq] at plain
      obtain ⟨⟨printable, noMark, noBackslash⟩, others⟩ := plain
      exact .cons (.plain printable noMark noBackslash) (induction others)

theorem exists_hexDigit {value : Nat} (small : value < 16) : ∃ digit, HexDigit digit value :=
  ⟨"0123456789abcdef".toList[value], .inl (List.getElem?_eq_getElem small)⟩

theorem exists_unit_written {code : Nat} (small : code < 0x10000) :
    ∃ text, (Piece.unit code).Written text := by
  obtain ⟨a, first⟩ := exists_hexDigit (Nat.div_lt_of_lt_mul small : code / 0x1000 < 16)
  obtain ⟨b, second⟩ := exists_hexDigit (Nat.mod_lt (code / 0x100) (by decide))
  obtain ⟨c, third⟩ := exists_hexDigit (Nat.mod_lt (code / 0x10) (by decide))
  obtain ⟨d, fourth⟩ := exists_hexDigit (Nat.mod_lt code (by decide))
  have value : ((code / 0x1000 * 16 + code / 0x100 % 16) * 16 + code / 0x10 % 16) * 16 +
      code % 16 = code := by omega
  rw [← value]
  exact ⟨_, .unit first second third fourth⟩

theorem valid_toNat (character : Char) :
    character.toNat < 0xD800 ∨ 0xDFFF < character.toNat ∧ character.toNat < 0x110000 :=
  character.valid

/-- Every text can be spelled, whatever characters it has. -/
theorem exists_spelled (text : Text) :
    ∃ pieces written, Spells pieces text ∧ PiecesWritten pieces written := by
  induction text with
  | nil => exact ⟨[], [], .nil, .nil⟩
  | cons character text induction =>
      obtain ⟨pieces, written, spells, later⟩ := induction
      rcases Nat.lt_or_ge character.toNat 0x10000 with narrow | wide
      · obtain ⟨code, unit⟩ := exists_unit_written narrow
        exact ⟨_, _, .unit narrow spells, .cons unit later⟩
      · have valid := valid_toNat character
        obtain ⟨leading, first⟩ := exists_unit_written
          (by omega : 0xD800 + (character.toNat - 0x10000) / 0x400 < 0x10000)
        obtain ⟨trailing, second⟩ := exists_unit_written
          (by omega : 0xDC00 + (character.toNat - 0x10000) % 0x400 < 0x10000)
        exact ⟨_, _, .pair wide spells, .cons first (.cons second later)⟩

namespace Numeral

/-- A row of at least one digit. -/
structure DigitRow (text : Text) : Prop where
  nonempty : text ≠ []
  digits : ∀ character ∈ text, character.isDigit = true

/-- How the sign of a number is written. -/
inductive SignWritten : Bool → Text → Prop where
  | minus : SignWritten true ['-']
  | unsigned : SignWritten false []

/-- How the sign of an exponent is written. -/
inductive ExponentSignWritten : Bool → Text → Prop where
  | minus : ExponentSignWritten true ['-']
  | plus : ExponentSignWritten false ['+']
  | unsigned : ExponentSignWritten false []

/-- How the fraction of a number is written. -/
inductive FractionWritten : Option Text → Text → Prop where
  | absent : FractionWritten none []
  | present {digits : Text} (row : DigitRow digits) :
      FractionWritten (some digits) ('.' :: digits)

/-- How the exponent of a number is written. -/
inductive ExponentWritten : Option (Bool × Text) → Text → Prop where
  | absent : ExponentWritten none []
  | present {mark : Char} {negative : Bool} {sign digits : Text} (known : mark ∈ ['e', 'E'])
      (signed : ExponentSignWritten negative sign) (row : DigitRow digits) :
      ExponentWritten (some (negative, digits)) (mark :: (sign ++ digits))

/-- How a number is written.  Its whole part has no leading zero. -/
inductive Written : Numeral → Text → Prop where
  | parts {negative : Bool} {whole sign afterWhole atEnd : Text} {fraction : Option Text}
      {exponent : Option (Bool × Text)} (signed : SignWritten negative sign)
      (row : DigitRow whole) (leading : whole.head? = some '0' → whole = ['0'])
      (fractioned : FractionWritten fraction afterWhole)
      (exponentiated : ExponentWritten exponent atEnd) :
      Written ⟨negative, whole, fraction, exponent⟩ (sign ++ (whole ++ (afterWhole ++ atEnd)))

end Numeral

mutual

/-- How a value is written. -/
inductive Value.Written : Value → Text → Prop where
  | null : Value.Written .null "null".toList
  | yes : Value.Written (.boolean true) "true".toList
  | no : Value.Written (.boolean false) "false".toList
  | numeral {numeral : Numeral} {text : Text} (inner : numeral.Written text) :
      Value.Written (.numeral numeral) text
  | string {spelling : Spelling} {text : Text} (inner : spelling.Written text) :
      Value.Written (.string spelling) text
  | emptyList {between : Text} (spaces : Spaces between) :
      Value.Written (.list [] none) ('[' :: (between ++ [']']))
  | list {items : List Value} {text : Text} (inner : ItemsWritten items text) :
      Value.Written (.list items none) ('[' :: (text ++ [']']))
  | emptyRecord {between : Text} (spaces : Spaces between) :
      Value.Written (.record [] none) ('{' :: (between ++ ['}']))
  | record {members : List (Spelling × Value)} {text : Text}
      (inner : MembersWritten members text) :
      Value.Written (.record members none) ('{' :: (text ++ ['}']))

/-- How the items of a list are written. -/
inductive ItemsWritten : List Value → Text → Prop where
  | last {value : Value} {before text after : Text} (spacesBefore : Spaces before)
      (item : value.Written text) (spacesAfter : Spaces after) :
      ItemsWritten [value] (before ++ (text ++ after))
  | more {value : Value} {items : List Value} {before text after rest : Text}
      (spacesBefore : Spaces before) (item : value.Written text) (spacesAfter : Spaces after)
      (later : ItemsWritten items rest) :
      ItemsWritten (value :: items) (before ++ (text ++ after) ++ ',' :: rest)

/-- How a member of a record is written. -/
inductive MemberWritten : Spelling × Value → Text → Prop where
  | named {key : Spelling} {value : Value} {ahead name behind before text after : Text}
      (spacesAhead : Spaces ahead) (key_written : key.Written name)
      (spacesBehind : Spaces behind) (spacesBefore : Spaces before)
      (content : value.Written text) (spacesAfter : Spaces after) :
      MemberWritten (key, value)
        (ahead ++ (name ++ behind) ++ ':' :: (before ++ (text ++ after)))

/-- How the members of a record are written. -/
inductive MembersWritten : List (Spelling × Value) → Text → Prop where
  | last {member : Spelling × Value} {text : Text} (only : MemberWritten member text) :
      MembersWritten [member] text
  | more {member : Spelling × Value} {members : List (Spelling × Value)} {text rest : Text}
      (first : MemberWritten member text) (later : MembersWritten members rest) :
      MembersWritten (member :: members) (text ++ ',' :: rest)

end

/-- How a JSON text is written: a value with white space around it. -/
inductive Value.Document : Value → Text → Prop where
  | between {value : Value} {before text after : Text} (spacesBefore : Spaces before)
      (inner : value.Written text) (spacesAfter : Spaces after) :
      Value.Document value (before ++ (text ++ after))

theorem spaces_nil : Spaces [] :=
  nofun

theorem Value.exists_list_written {items : List Value}
    (each : ∀ item ∈ items, ∃ text, item.Written text) :
    ∃ text, (Value.list items none).Written text := by
  have inner : items ≠ [] → ∃ text, ItemsWritten items text := by
    induction items with
    | nil => exact fun nonempty => (nonempty rfl).elim
    | cons item items induction =>
        intro _
        obtain ⟨text, written⟩ := each item List.mem_cons_self
        have later := induction fun other member => each other (List.mem_cons_of_mem _ member)
        cases items with
        | nil => exact ⟨_, .last spaces_nil written spaces_nil⟩
        | cons =>
            obtain ⟨rest, others⟩ := later (List.cons_ne_nil _ _)
            exact ⟨_, .more spaces_nil written spaces_nil others⟩
  by_cases empty : items = []
  · subst empty
    exact ⟨_, .emptyList spaces_nil⟩
  · obtain ⟨text, written⟩ := inner empty
    exact ⟨_, .list written⟩

theorem Value.exists_record_written {members : List (Spelling × Value)}
    (each : ∀ member ∈ members, ∃ text, MemberWritten member text) :
    ∃ text, (Value.record members none).Written text := by
  have inner : members ≠ [] → ∃ text, MembersWritten members text := by
    induction members with
    | nil => exact fun nonempty => (nonempty rfl).elim
    | cons member members induction =>
        intro _
        obtain ⟨text, written⟩ := each member List.mem_cons_self
        have later := induction fun other found => each other (List.mem_cons_of_mem _ found)
        cases members with
        | nil => exact ⟨_, .last written⟩
        | cons =>
            obtain ⟨rest, others⟩ := later (List.cons_ne_nil _ _)
            exact ⟨_, .more written others⟩
  by_cases empty : members = []
  · subst empty
    exact ⟨_, .emptyRecord spaces_nil⟩
  · obtain ⟨text, written⟩ := inner empty
    exact ⟨_, .record written⟩

theorem PiecesWritten.member {pieces : List Piece} {name text : Text} {value : Value}
    (named : PiecesWritten pieces name) (written : value.Written text) :
    ∃ text, MemberWritten (⟨pieces, none⟩, value) text :=
  ⟨_, .named spaces_nil (.quoted named) spaces_nil spaces_nil written spaces_nil⟩

end ScriptDesk.Json
