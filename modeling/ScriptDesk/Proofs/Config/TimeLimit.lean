import ScriptDesk.Config.Loading
import ScriptDesk.Proofs.CommandLine.Writing
import ScriptDesk.Proofs.Config.Writing
import ScriptDesk.Proofs.Text.Decimal

/-!
# Ways to set the time limit

The time limit is set in a file, by a variable or on the command line, and each of the three
has a reader of numbers of its own.  A number in base ten means the same to all of them:
they take it if it fits 64 bits and refuse it otherwise, and a limit of zero is none.
-/

namespace ScriptDesk

variable {number : Nat} {before after : Text} {arguments : List Text}

namespace Text

theorem exists_toDigits_eq_cons (number : Nat) :
    ∃ first rest, Nat.toDigits 10 number = first :: rest ∧ isAsciiDigit first = true := by
  have digits := all_isAsciiDigit_decimal number
  obtain ⟨first, rest, split⟩ := List.exists_cons_of_ne_nil (decimal_ne_nil number)
  rw [split, List.all_cons, Bool.and_eq_true] at digits
  exact ⟨first, rest, (decimal_eq_toDigits number).symm.trans split, digits.1⟩

theorem readDigits?_toDigits (number : Nat) :
    readDigits? (Nat.toDigits 10 number) = if number < 2 ^ 64 then some number else none := by
  rw [← decimal_eq_toDigits]
  by_cases fits : number < 2 ^ 64
  · rw [if_pos fits, readDigits?_decimal fits]
  · rw [if_neg fits, readDigits?_decimal_eq_none (Nat.le_of_not_lt fits)]

theorem readWord?_toDigits (number : Nat) :
    readWord? (Nat.toDigits 10 number) = if number < 2 ^ 64 then some number else none := by
  rw [← readDigits?_toDigits]
  obtain ⟨first, rest, split, digit⟩ := exists_toDigits_eq_cons number
  rw [split]
  unfold readWord?
  split
  · rename_i digits same
    obtain rfl : first = '+' := (List.cons.inj same).1
    cases digit
  · rfl

theorem isBlank_of_isAsciiDigit {character : Char} (digit : isAsciiDigit character = true) :
    isBlank character = false := by
  simp only [isAsciiDigit, Bool.and_eq_true, decide_eq_true_eq] at digit
  have outside : ∀ range ∈ blankRanges, range.last < 48 ∨ 57 < range.first := by decide
  unfold isBlank CodeRange.holds
  rw [List.any_eq_false]
  intro range member contained
  simp only [CodeRange.contains, Bool.and_eq_true, decide_eq_true_eq] at contained
  have apart := outside range member
  omega

/-- A numeral between white space is what is left when the white space is trimmed. -/
theorem core_toDigits (number : Nat)
    (blankBefore : ∀ character ∈ before, isBlank character = true)
    (blankAfter : ∀ character ∈ after, isBlank character = true) :
    Core (before ++ Nat.toDigits 10 number ++ after) (Nat.toDigits 10 number) := by
  have kept : ∀ character ∈ Nat.toDigits 10 number, isBlank character = false := by
    intro character member
    rw [← decimal_eq_toDigits] at member
    exact isBlank_of_isAsciiDigit
      (List.all_eq_true.mp (all_isAsciiDigit_decimal number) character member)
  refine ⟨⟨before, after, rfl, blankBefore, blankAfter⟩, ?_, ?_⟩
  · exact fun character first => kept character (List.mem_of_head? first)
  · exact fun character last => kept character (List.mem_of_getLast? last)

end Text

namespace CommandLine

/-- The arguments for a time limit and nothing else. -/
inductive LimitArguments (number : Nat) : List Text → Prop where
  | apart : LimitArguments number ["--timeout".toList, Nat.toDigits 10 number]
  | attached : LimitArguments number ["--timeout=".toList ++ Nat.toDigits 10 number]

theorem store_timeout (line : CommandLine) (number : Nat) :
    Reading.store line (Nat.toDigits 10 number) .timeout =
      if number < 2 ^ 64 then .ok { line with timeout := some number }
      else .error .notANumber := by
  unfold Reading.store
  rw [Text.readWord?_toDigits]
  by_cases fits : number < 2 ^ 64
  · rw [if_pos fits, if_pos fits]
  · rw [if_neg fits, if_neg fits]

/-- A numeral is not taken for an option. -/
theorem Reading.readArgument_toDigits {reading : Reading} (options : reading.onlyFiles = false)
    (number : Nat) :
    reading.readArgument (Nat.toDigits 10 number) =
      reading.readPlain (Nat.toDigits 10 number) := by
  obtain ⟨first, rest, split, digit⟩ := Text.exists_toDigits_eq_cons number
  have noDash : first ≠ '-' := by
    rintro rfl
    cases digit
  unfold readArgument
  rw [options, split]
  simp [noDash]

theorem LimitArguments.read_eq (limits : LimitArguments number arguments) :
    read arguments =
      if number < 2 ^ 64 then .ok { empty with timeout := some number }
      else .error .notANumber := by
  have used : Reading.start.useValue .timeout (Nat.toDigits 10 number) =
      if number < 2 ^ 64 then
        .ok { Reading.start with
          line := { empty with timeout := some number }
          slots := [.timeout] }
      else .error .notANumber := by
    simp only [Reading.useValue, Reading.start, List.not_mem_nil, if_false, store_timeout]
    split <;> rfl
  cases limits with
  | apart =>
      have opened : Reading.start.readArgument "--timeout".toList =
          .ok { Reading.start with kept := some ⟨.timeout, none⟩ } := by
        decide
      have kept : ({ Reading.start with kept := some ⟨.timeout, none⟩ } : Reading).readArgument
            (Nat.toDigits 10 number) =
          .ok { Reading.start with kept := some ⟨.timeout, some (Nat.toDigits 10 number)⟩ } :=
        Reading.readArgument_toDigits rfl number
      have settled : ({ Reading.start with
            kept := some ⟨.timeout, some (Nat.toDigits 10 number)⟩ } : Reading).settle =
          Reading.start.useValue .timeout (Nat.toDigits 10 number) :=
        rfl
      simp only [read, Reading.readAll, List.foldlM_cons, List.foldlM_nil, opened, kept, settled,
        used, bind, Except.bind, pure, Except.pure]
      by_cases fits : number < 2 ^ 64
      · simp only [if_pos fits]
      · simp only [if_neg fits]
  | attached =>
      have attached : Reading.start.readArgument ("--timeout=".toList ++ Nat.toDigits 10 number) =
          Reading.start.useValue .timeout (Nat.toDigits 10 number) :=
        Reading.open_start.readArgument_attached "timeout".toList (by decide) rfl _
      simp only [read, Reading.readAll, List.foldlM_cons, List.foldlM_nil, attached, used,
        bind, Except.bind, pure, Except.pure]
      by_cases fits : number < 2 ^ 64
      · simp only [if_pos fits]
        rfl
      · simp only [if_neg fits]

end CommandLine

namespace Config

variable {overrides : Overrides}

theorem applyOverrides_toDigits (config : Config)
    (blankBefore : ∀ character ∈ before, Text.isBlank character = true)
    (blankAfter : ∀ character ∈ after, Text.isBlank character = true)
    (setting : overrides.timeout = some (before ++ Nat.toDigits 10 number ++ after)) :
    config.applyOverrides overrides =
      if number < 2 ^ 64 then
        ({ config.applyInterpreter overrides with timeoutSeconds := some number }, none)
      else
        (config.applyInterpreter overrides,
          some (.invalidTimeout (before ++ Nat.toDigits 10 number ++ after))) := by
  have trimmed := (Text.core_toDigits number blankBefore blankAfter).trim_eq
  simp only [applyOverrides, applyTimeout, setting, trimmed, Text.readWord?_toDigits]
  by_cases fits : number < 2 ^ 64
  · rw [if_pos fits, if_pos fits]
  · rw [if_neg fits, if_neg fits]

/-- What a file begins with that has a time limit and nothing else. -/
def limitOpening : Text :=
  "\x7b\"interpreter\":\x7b\"timeout_secs\":".toList

/-- What such a file ends with. -/
def limitClosing : Text :=
  "\x7d\x7d".toList

/-- A file with a time limit and nothing else. -/
def limitText (number : Nat) : Text :=
  limitOpening ++ Nat.toDigits 10 number ++ limitClosing

/-- The number of such a file. -/
def limitNumeral (number : Nat) : Json.Value :=
  .numeral ⟨false, Nat.toDigits 10 number, none, none⟩

/-- The members of such a file. -/
def limitMembers (number : Nat) : List (Json.Spelling × Json.Value) :=
  [(⟨interpreterName.map .character, none⟩,
    .record [(⟨(Field.name .timeoutSeconds).map .character, none⟩, limitNumeral number)] none)]

theorem written_member (name : Text) {text : Text} {value : Json.Value}
    (plain : (name.all fun character =>
      0x20 ≤ character.toNat ∧ character ≠ '"' ∧ character ≠ '\\') = true)
    (written : value.Written text) :
    (Json.Value.record [(⟨name.map .character, none⟩, value)] none).Written
      ("\x7b\"".toList ++ name ++ "\":".toList ++ text ++ ['\x7d']) := by
  have member := Json.MemberWritten.named Json.spaces_nil
    (.quoted (Json.piecesWritten_characters plain)) Json.spaces_nil Json.spaces_nil written
    Json.spaces_nil
  simpa using Json.Value.Written.record (.last member)

theorem document_limitText (number : Nat) :
    (Json.Value.record (limitMembers number) none).Document (limitText number) := by
  have numeral : (limitNumeral number).Written (Nat.toDigits 10 number) := by
    unfold limitNumeral
    rw [← Text.decimal_eq_toDigits]
    exact .numeral (decimal_written number)
  have description := written_member (Field.name .timeoutSeconds) (by decide) numeral
  have whole := written_member interpreterName (by decide) description
  have document := Json.Value.Document.between Json.spaces_nil whole Json.spaces_nil
  rw [List.append_nil, List.nil_append] at document
  have opening : limitOpening =
      "\x7b\"".toList ++ interpreterName ++ "\":".toList ++
        ("\x7b\"".toList ++ Field.name .timeoutSeconds ++ "\":".toList) := by
    decide
  have closing : limitClosing = ['\x7d'] ++ ['\x7d'] := rfl
  rw [limitText, opening, closing]
  simp only [List.append_assoc] at document ⊢
  exact document

theorem asCount_limitNumeral (number : Nat) :
    (limitNumeral number).asCount =
      if number < 2 ^ 64 then .ok (some number) else .error (limitNumeral number).mismatch := by
  simp only [limitNumeral, Json.Value.asCount, Json.Numeral.natural?, and_self, if_true,
    Text.readDigits?_toDigits]
  by_cases fits : number < 2 ^ 64
  · rw [if_pos fits, if_pos fits]
  · rw [if_neg fits, if_neg fits]

/-- A record with one member is read as its value. -/
theorem Shape.read_member {Label Target : Type} [DecidableEq Label] {shape : Shape Label Target}
    {name : Text} {label : Label} (known : shape.ofName? name = some label) (target : Target)
    (value : Json.Value) :
    shape.read target (.record [(⟨name.map .character, none⟩, value)] none) =
      shape.set target value label := by
  have text : Json.Spelling.text ⟨name.map .character, none⟩ = .ok name :=
    (Json.spells_characters name).text_eq
  simp only [read, readMembers, text, known, List.not_mem_nil, if_false, bind, Except.bind, pure,
    Except.pure]
  cases shape.set target value label <;> rfl

theorem decode_limitText (number : Nat) :
    decode (limitText number) =
      if number < 2 ^ 64 then .ok { builtIn with timeoutSeconds := some number }
      else .error (limitNumeral number).mismatch := by
  have set : documentShape.read builtIn (.record (limitMembers number) none) =
      (limitNumeral number).asCount.map
        fun count => { builtIn with timeoutSeconds := count } := calc
    _ = interpreterShape.read builtIn (.record [(⟨(Field.name .timeoutSeconds).map .character,
          none⟩, limitNumeral number)] none) :=
        Shape.read_member (named_documentShape.known ()) builtIn _
    _ = _ := Shape.read_member (named_interpreterShape.known .timeoutSeconds) builtIn _
  simp only [decode, (document_limitText number).readValue_eq, set, asCount_limitNumeral]
  by_cases fits : number < 2 ^ 64
  · rw [if_pos fits, if_pos fits]
    rfl
  · rw [if_neg fits, if_neg fits]
    rfl

/-- A way to set the time limit takes the numbers that fit 64 bits and refuses the others.
A configuration that comes of it has the number as its limit, unless the number is zero. -/
structure SetsLimit (number : Nat) (takes : Config → Prop) (refuses : Prop) : Prop where
  taken_iff : (∃ result, takes result) ↔ number < 2 ^ 64
  refused_iff : refuses ↔ 2 ^ 64 ≤ number
  seconds : ∀ result, takes result → result.timeoutSeconds = some number
  limit : ∀ result, takes result →
    result.timeLimit? = if number = 0 then none else some number

namespace SetsLimit

variable {takes : Config → Prop} {refuses : Prop}

theorem of_fits (config : Config) (fits : number < 2 ^ 64)
    (takes_iff : ∀ result, takes result ↔ { config with timeoutSeconds := some number } = result)
    (accepted : ¬ refuses) : SetsLimit number takes refuses where
  taken_iff := ⟨fun _ => fits, fun _ => ⟨_, (takes_iff _).mpr rfl⟩⟩
  refused_iff := ⟨fun refused => absurd refused accepted, fun large => by omega⟩
  seconds := by
    intro result taken
    rw [← (takes_iff result).mp taken]
  limit := by
    intro result taken
    rw [← (takes_iff result).mp taken]
    cases number <;> rfl

theorem of_large (large : ¬ number < 2 ^ 64) (untaken : ∀ result, ¬ takes result)
    (refused : refuses) : SetsLimit number takes refuses where
  taken_iff := ⟨fun ⟨result, taken⟩ => absurd taken (untaken result), fun fits => absurd fits large⟩
  refused_iff := ⟨fun _ => Nat.le_of_not_lt large, fun _ => refused⟩
  seconds := fun result taken => absurd taken (untaken result)
  limit := fun result taken => absurd taken (untaken result)

end SetsLimit

theorem setsLimit_ofFile {tree : FileTree} {path : Text}
    (stored : FileTree.readText tree path = .ok (limitText number)) :
    SetsLimit number (fun result => ofFile tree path = .ok result)
      (∃ fault, ofFile tree path = .error (.invalid path fault)) := by
  have decoded := decode_limitText number
  by_cases fits : number < 2 ^ 64
  · rw [if_pos fits] at decoded
    have loaded : ofFile tree path = .ok { builtIn with timeoutSeconds := some number } := by
      simp only [ofFile, stored, decoded]
    apply SetsLimit.of_fits builtIn fits <;> simp [loaded]
  · rw [if_neg fits] at decoded
    have failed : ofFile tree path = .error (.invalid path (limitNumeral number).mismatch) := by
      simp only [ofFile, stored, decoded]
    apply SetsLimit.of_large fits <;> simp [failed]

theorem setsLimit_applyOverrides (config : Config)
    (blankBefore : ∀ character ∈ before, Text.isBlank character = true)
    (blankAfter : ∀ character ∈ after, Text.isBlank character = true)
    (setting : overrides.timeout = some (before ++ Nat.toDigits 10 number ++ after)) :
    SetsLimit number (fun result => config.applyOverrides overrides = (result, none))
      (∃ left, config.applyOverrides overrides =
        (left, some (.invalidTimeout (before ++ Nat.toDigits 10 number ++ after)))) := by
  have applied := applyOverrides_toDigits config blankBefore blankAfter setting
  by_cases fits : number < 2 ^ 64
  · rw [if_pos fits] at applied
    apply SetsLimit.of_fits (config.applyInterpreter overrides) fits <;> simp [applied]
  · rw [if_neg fits] at applied
    apply SetsLimit.of_large fits <;> simp [applied]

theorem setsLimit_overrideConfig (config : Config)
    (limits : CommandLine.LimitArguments number arguments) :
    SetsLimit number
      (fun result => (CommandLine.read arguments).map (·.overrideConfig config) = .ok result)
      (CommandLine.read arguments = .error .notANumber) := by
  have said := limits.read_eq
  by_cases fits : number < 2 ^ 64
  · rw [if_pos fits] at said
    have overridden : (CommandLine.read arguments).map (·.overrideConfig config) =
        .ok { config with timeoutSeconds := some number } := by
      rw [said]
      rfl
    apply SetsLimit.of_fits config fits
    · simp [overridden]
    · simp [said]
  · rw [if_neg fits] at said
    apply SetsLimit.of_large fits
    · simp [said, Except.map]
    · exact said

/-- All ways to set the time limit agree: a file that sets it, the variable with white space
around the number, and the command line. -/
theorem setsLimit_agree (number : Nat) :
    (∀ tree path, FileTree.readText tree path = .ok (limitText number) →
      SetsLimit number (fun result => ofFile tree path = .ok result)
        (∃ fault, ofFile tree path = .error (.invalid path fault))) ∧
    (∀ (config : Config) (overrides : Overrides) (before after : Text),
      (∀ character ∈ before, Text.isBlank character = true) →
      (∀ character ∈ after, Text.isBlank character = true) →
      overrides.timeout = some (before ++ Nat.toDigits 10 number ++ after) →
      SetsLimit number (fun result => config.applyOverrides overrides = (result, none))
        (∃ left, config.applyOverrides overrides =
          (left, some (.invalidTimeout (before ++ Nat.toDigits 10 number ++ after))))) ∧
    ∀ (config : Config) (arguments : List Text), CommandLine.LimitArguments number arguments →
      SetsLimit number
        (fun result => (CommandLine.read arguments).map (·.overrideConfig config) = .ok result)
        (CommandLine.read arguments = .error .notANumber) :=
  ⟨fun _ _ stored => setsLimit_ofFile stored,
    fun config _ _ _ blankBefore blankAfter setting =>
      setsLimit_applyOverrides config blankBefore blankAfter setting,
    fun config _ limits => setsLimit_overrideConfig config limits⟩

/-- A directory with a file that sets the time limit. -/
def limitTree (number : Nat) : FileTree :=
  (⟨[], ["desk".toList]⟩ : FileTree).enterDeep ["desk".toList, "config.json".toList]
    (.file (Utf8.encode (limitText number)) false)

theorem setsLimit_agree_boundary :
    (∃ fault, ofFile (limitTree (2 ^ 64)) "config.json".toList =
      .error (.invalid "config.json".toList fault)) ∧
    (∃ result, builtIn.applyOverrides ⟨none, some " 18446744073709551615\n".toList⟩ =
      (result, none)) ∧
    ∀ result, (CommandLine.read ["--timeout".toList, "0".toList]).map
      (·.overrideConfig builtIn) = .ok result → result.timeLimit? = none := by
  obtain ⟨inFile, -, -⟩ := setsLimit_agree (2 ^ 64)
  obtain ⟨-, inVariable, -⟩ := setsLimit_agree (2 ^ 64 - 1)
  obtain ⟨-, -, said⟩ := setsLimit_agree 0
  have stored : FileTree.readText (limitTree (2 ^ 64)) "config.json".toList =
      .ok (limitText (2 ^ 64)) := by
    decide +kernel
  have file := inFile _ _ stored
  have padded := inVariable builtIn ⟨none, some " 18446744073709551615\n".toList⟩ [' '] ['\n']
    (List.forall_mem_singleton.mpr rfl) (List.forall_mem_singleton.mpr rfl) (by decide +kernel)
  have apart := said builtIn _ .apart
  exact ⟨file.refused_iff.mpr (by decide), padded.taken_iff.mpr (by decide), apart.limit⟩

end Config

end ScriptDesk
