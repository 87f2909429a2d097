import ScriptDesk.Config.Loading
import ScriptDesk.Proofs.Config.Document
import ScriptDesk.Proofs.Json.Reading

/-!
# Configurations that are written down

A configuration is written in many ways.  Any of its fields may be left out, the fields
that are given stand in any order, members with other names stand among them, and the
texts are spelled and spaced in any way that the grammar allows.  Whatever is written is
read back, with built-in content in the fields that are left out.

The members of a record are described by `Members` once for both levels of a file, as
the records of both levels are read by one function.
-/

namespace ScriptDesk.Config

/-- Members of a record.  Some of them are about labels, at most one about each; the names
of the others are those of no label. -/
inductive Members {Label : Type} (name : Label → Text) (writes : Label → Json.Value → Prop) :
    List Label → List (Json.Spelling × Json.Value) → Prop where
  | nil : Members name writes [] []
  | about {label : Label} {labels : List Label} {pieces : List Json.Piece} {value : Json.Value}
      {members : List (Json.Spelling × Json.Value)} (named : Json.Spells pieces (name label))
      (written : writes label value) (fresh : label ∉ labels)
      (later : Members name writes labels members) :
      Members name writes (label :: labels) ((⟨pieces, none⟩, value) :: members)
  | other {labels : List Label} {pieces : List Json.Piece} {text : Text} {value : Json.Value}
      {members : List (Json.Spelling × Json.Value)} (named : Json.Spells pieces text)
      (unknown : ∀ label, text ≠ name label) (later : Members name writes labels members) :
      Members name writes labels ((⟨pieces, none⟩, value) :: members)

/-- How the content of a field is written. -/
inductive Field.Writes : (field : Field) → field.Content → Json.Value → Prop where
  | program {pieces : List Json.Piece} {text : Text} (spells : Json.Spells pieces text) :
      Writes .program text (.string ⟨pieces, none⟩)
  | scriptArguments {rows : List (List Json.Piece)} {texts : List Text}
      (spells : List.Forall₂ Json.Spells rows texts) :
      Writes .scriptArguments texts
        (.list (rows.map fun pieces => .string ⟨pieces, none⟩) none)
  | extension {pieces : List Json.Piece} {text : Text} (spells : Json.Spells pieces text) :
      Writes .extension text (.string ⟨pieces, none⟩)
  | filePrefix {pieces : List Json.Piece} {text : Text} (spells : Json.Spells pieces text) :
      Writes .filePrefix text (.string ⟨pieces, none⟩)
  | unlimited : Writes .timeoutSeconds none .null
  | limited {seconds : Nat} (fits : seconds < 2 ^ 64) :
      Writes .timeoutSeconds (some seconds)
        (.numeral ⟨false, Text.decimal seconds, none, none⟩)

/-- A record with the given fields of a configuration. -/
inductive Describes (config : Config) (fields : List Field) : Json.Value → Prop where
  | record {members : List (Json.Spelling × Json.Value)}
      (inner : Members Field.name (fun field => field.Writes (field.get config)) fields members) :
      Describes config fields (.record members none)

/-- The members of a file that gives fields of a configuration.  If it gives none, it need
not describe the interpreter. -/
inductive Gives (config : Config) : List Field → List (Json.Spelling × Json.Value) → Prop where
  | described {fields : List Field} {members : List (Json.Spelling × Json.Value)}
      (inner : Members (fun _ : Unit => interpreterName)
        (fun _ => Describes config fields) [()] members) :
      Gives config fields members
  | undescribed {members : List (Json.Spelling × Json.Value)}
      (inner : Members (fun _ : Unit => interpreterName)
        (fun _ => Describes config []) [] members) :
      Gives config [] members

/-- A text that gives fields of a configuration, in the order of the list. -/
def Written (config : Config) (fields : List Field) (text : Text) : Prop :=
  ∃ members, Gives config fields members ∧ (Json.Value.record members none).Document text

/-- In a record without a fault, no value has one. -/
theorem Members.sound {Label : Type} {name : Label → Text} {writes : Label → Json.Value → Prop}
    {labels : List Label} {members : List (Json.Spelling × Json.Value)}
    (given : Members name writes labels members)
    (sound : Json.Value.membersFault? members = none) :
    Members name (fun label value => writes label value ∧ value.fault? = none) labels members := by
  induction given with
  | nil => exact .nil
  | about named written fresh later induction =>
      simp only [Json.Value.membersFault?, Option.or_eq_none_iff] at sound
      exact .about named ⟨written, sound.2.1⟩ fresh (induction sound.2.2)
  | other named unknown later induction =>
      simp only [Json.Value.membersFault?, Option.or_eq_none_iff] at sound
      exact .other named unknown (induction sound.2.2)

namespace Shape

variable {Label Target : Type} [DecidableEq Label] {shape : Shape Label Target}
  {name : Label → Text} {writes : Label → Json.Value → Prop} {labels seen : List Label}
  {members : List (Json.Spelling × Json.Value)}

/-- The labels of a record are known by their names. -/
structure NamedBy (shape : Shape Label Target) (name : Label → Text) : Prop where
  known : ∀ label, shape.ofName? (name label) = some label
  unknown : ∀ text, (∀ label, text ≠ name label) → shape.ofName? text = none

theorem exists_readMembers (named : shape.NamedBy name)
    (sets : ∀ target label value, writes label value →
      ∃ next, shape.set target value label = .ok next)
    (given : Members name writes labels members) (fresh : ∀ label ∈ labels, label ∉ seen)
    (sound : Json.Value.membersFault? members = none) (target : Target) :
    ∃ result, shape.readMembers seen target members = .ok result := by
  induction given generalizing seen target with
  | nil => exact ⟨target, rfl⟩
  | @about label labels pieces value members spells written distinct later induction =>
      have soundLater : Json.Value.membersFault? members = none := by
        simp only [Json.Value.membersFault?, Option.or_eq_none_iff] at sound
        exact sound.2.2
      obtain ⟨next, set⟩ := sets target label value written
      have freshLater : ∀ other ∈ labels, other ∉ label :: seen := by
        intro other member seenNow
        rcases List.mem_cons.mp seenNow with rfl | before
        · exact distinct member
        · exact fresh other (List.mem_cons_of_mem _ member) before
      obtain ⟨result, read⟩ := induction freshLater soundLater next
      have unseen : label ∉ seen := fresh label List.mem_cons_self
      refine ⟨result, ?_⟩
      simp [readMembers, spells.text_eq, named.known, unseen, set, read, bind, Except.bind]
  | @other labels pieces text value members spells unknown later induction =>
      simp only [Json.Value.membersFault?, Option.or_eq_none_iff] at sound
      obtain ⟨-, whole, soundLater⟩ := sound
      obtain ⟨result, read⟩ := induction fresh soundLater target
      refine ⟨result, ?_⟩
      simp [readMembers, spells.text_eq, named.unknown text unknown, whole, read, bind,
        Except.bind]

omit [DecidableEq Label] in
theorem isKeyOf_eq [DecidableEq Label] {label : Label} {pieces : List Json.Piece} {text : Text}
    (spells : Json.Spells pieces text) :
    shape.isKeyOf label ⟨pieces, none⟩ = decide (shape.ofName? text = some label) := by
  simp [isKeyOf, spells.text_eq]

/-- A label has the value of its member, if there is one. -/
theorem member?_of_members (named : shape.NamedBy name)
    (given : Members name writes labels members) (label : Label) :
    (label ∈ labels → ∃ value, shape.member? label members = some value ∧ writes label value) ∧
      (label ∉ labels → shape.member? label members = none) := by
  induction given with
  | nil => exact ⟨nofun, fun _ => rfl⟩
  | @about first labels pieces value members spells written distinct later induction =>
      rw [member?_cons, isKeyOf_eq spells, named.known]
      by_cases same : first = label
      · subst same
        exact ⟨fun _ => ⟨value, by simp, written⟩, fun absent => (absent List.mem_cons_self).elim⟩
      · have different : ¬ label = first := Ne.symm same
        simpa [same, different] using induction
  | @other labels pieces text value members spells unknown later induction =>
      rw [member?_cons, isKeyOf_eq spells, named.unknown text unknown]
      simpa using induction

end Shape

theorem named_interpreterShape : interpreterShape.NamedBy Field.name where
  known := by
    intro field
    cases field <;> decide
  unknown := by
    intro text other
    simp only [interpreterShape, Field.ofName?, List.find?_eq_none, decide_eq_true_eq]
    intro field _ same
    exact other field same.symm

theorem named_documentShape : documentShape.NamedBy fun _ => interpreterName where
  known := by
    intro label
    simp [documentShape]
  unknown := fun _ other => if_neg (other ())

theorem texts_eq {rows : List (List Json.Piece)} {texts : List Text}
    (spells : List.Forall₂ Json.Spells rows texts) :
    (Json.Value.list (rows.map fun pieces => .string ⟨pieces, none⟩) none).asTexts =
      .ok texts := by
  have read : (rows.map fun pieces => Json.Value.string ⟨pieces, none⟩).mapM
      Json.Value.asText = .ok texts := by
    induction spells with
    | nil => rfl
    | cons first later induction =>
        simp [List.mapM_cons, Json.Value.asText, first.text_eq, induction, bind, Except.bind,
          pure, Except.pure]
  simp [Json.Value.asTexts, read, bind, Except.bind, pure, Except.pure]

/-- What is written for a field is read as its content. -/
theorem Field.Writes.read_eq {field : Field} {content : field.Content} {value : Json.Value}
    (writes : field.Writes content value) : field.read value = .ok content := by
  cases writes with
  | program spells => exact spells.text_eq
  | scriptArguments spells => exact texts_eq spells
  | extension spells => exact spells.text_eq
  | filePrefix spells => exact spells.text_eq
  | unlimited => rfl
  | limited fits =>
      simp [Field.read, Json.Value.asCount, Json.Numeral.natural?,
        Text.readDigits?_decimal fits]

theorem Field.exists_set {field : Field} {content : field.Content} {value : Json.Value}
    (read : field.read value = .ok content) (config : Config) :
    ∃ next, field.set config value = .ok next := by
  cases field <;> simp_all [Field.read, Field.set, Except.map]

/-- The fields that are given have the content of one configuration, the others that of
another. -/
def Takes (result config base : Config) (fields : List Field) : Prop :=
  ∀ field : Field, field.get result =
    if field ∈ fields then field.get config else field.get base

variable {config base : Config} {fields : List Field}

theorem Describes.read_eq {value : Json.Value} (describes : Describes config fields value)
    (sound : value.fault? = none) (target : Config) :
    ∃ result, interpreterShape.read target value = .ok result ∧
      Takes result config target fields := by
  cases describes with
  | @record members inner =>
      have soundMembers : Json.Value.membersFault? members = none := by
        simpa [Json.Value.fault?] using sound
      obtain ⟨result, read⟩ := Shape.exists_readMembers named_interpreterShape
        (fun target label value writes => Field.exists_set writes.read_eq target) inner
        (fun _ _ => List.not_mem_nil) soundMembers target
      refine ⟨result, by simp [Shape.read, read, bind, Except.bind, pure, Except.pure], ?_⟩
      intro field
      have filled := (fieldView.filled_readMembers read).2 field List.not_mem_nil
      obtain ⟨present, absent⟩ := Shape.member?_of_members named_interpreterShape inner field
      by_cases given : field ∈ fields
      · obtain ⟨value, found, writes⟩ := present given
        rw [found] at filled
        have same := writes.read_eq.symm.trans filled
        rw [if_pos given]
        exact (Except.ok.inj same).symm
      · rw [absent given] at filled
        rw [if_neg given]
        exact filled

theorem Gives.read_eq {members : List (Json.Spelling × Json.Value)}
    (gives : Gives config fields members)
    (sound : Json.Value.membersFault? members = none) :
    ∃ result, documentShape.read builtIn (.record members none) = .ok result ∧
      Takes result config builtIn fields := by
  obtain ⟨labels, inner, silent⟩ : ∃ labels, Members (fun _ : Unit => interpreterName)
      (fun _ => Describes config fields) labels members ∧ (() ∉ labels → fields = []) := by
    cases gives with
    | described inner => exact ⟨[()], inner, fun absent => (absent List.mem_cons_self).elim⟩
    | undescribed inner => exact ⟨[], inner, fun _ => rfl⟩
  have soundInner := inner.sound sound
  obtain ⟨result, read⟩ := Shape.exists_readMembers named_documentShape
    (fun target _ value ⟨describes, whole⟩ =>
      (describes.read_eq whole target).imp fun _ both => both.1)
    soundInner (fun _ _ => List.not_mem_nil) sound builtIn
  refine ⟨result, by simp [Shape.read, read, bind, Except.bind, pure, Except.pure], ?_⟩
  have filled := (wholeView.filled_readMembers read).2 () List.not_mem_nil
  obtain ⟨present, absent⟩ := Shape.member?_of_members named_documentShape soundInner ()
  by_cases given : () ∈ labels
  · obtain ⟨value, found, describes, whole⟩ := present given
    obtain ⟨described, readValue, takes⟩ := describes.read_eq whole builtIn
    rw [found] at filled
    cases readValue.symm.trans filled
    exact takes
  · rw [absent given] at filled
    have same : result = builtIn := filled
    intro field
    rw [silent given, if_neg List.not_mem_nil, same]

theorem Written.decode_eq {text : Text} (written : Written config fields text) :
    ∃ result, decode text = .ok result ∧ Takes result config builtIn fields := by
  obtain ⟨members, gives, document⟩ := written
  have sound : Json.Value.membersFault? members = none := by
    simpa [Json.Value.fault?] using document.fault?_eq_none
  obtain ⟨result, read, takes⟩ := gives.read_eq sound
  refine ⟨result, ?_, takes⟩
  simp [decode, document.readValue_eq, read, bind, Except.bind, pure, Except.pure]

theorem decimal_noLeadingZero (number : Nat) (zero : (Text.decimal number).head? = some '0') :
    Text.decimal number = ['0'] := by
  revert zero
  fun_induction Text.decimal number with
  | case1 number small =>
      intro zero
      rw [Option.some.inj zero]
  | case2 number large earlier =>
      intro zero
      rw [List.head?_append_of_ne_nil _ (Text.decimal_ne_nil _)] at zero
      have value := Text.digitsValue_decimal (number / 10)
      rw [earlier zero] at value
      have none : number / 10 = 0 := value.symm
      omega

theorem decimal_written (number : Nat) :
    (Json.Numeral.mk false (Text.decimal number) none none).Written (Text.decimal number) := by
  have row : Json.Numeral.DigitRow (Text.decimal number) :=
    ⟨Text.decimal_ne_nil number, List.all_eq_true.mp (Text.all_isAsciiDigit_decimal number)⟩
  have written := Json.Numeral.Written.parts .unsigned row (decimal_noLeadingZero number)
    .absent .absent
  rwa [List.append_nil, List.append_nil, List.nil_append] at written

theorem exists_string_written (text : Text) :
    ∃ pieces written, Json.Spells pieces text ∧
      (Json.Value.string ⟨pieces, none⟩).Written written := by
  obtain ⟨pieces, written, spells, inner⟩ := Json.exists_spelled text
  exact ⟨pieces, _, spells, .string (.quoted inner)⟩

theorem exists_list_written (texts : List Text) :
    ∃ rows written, List.Forall₂ Json.Spells rows texts ∧
      (Json.Value.list (rows.map fun pieces => .string ⟨pieces, none⟩) none).Written written := by
  choose pieces written spells inner using exists_string_written
  have each : ∀ item ∈ (texts.map pieces).map fun pieces => Json.Value.string ⟨pieces, none⟩,
      ∃ text, item.Written text := by
    intro item member
    rw [List.map_map] at member
    obtain ⟨text, -, rfl⟩ := List.mem_map.mp member
    exact ⟨_, inner text⟩
  obtain ⟨text, listed⟩ := Json.Value.exists_list_written each
  refine ⟨texts.map pieces, text, ?_, listed⟩
  rw [List.forall₂_map_left_iff, List.forall₂_same]
  exact fun text _ => spells text

theorem Field.exists_written (field : Field)
    (fits : ∀ seconds, config.timeoutSeconds = some seconds → seconds < 2 ^ 64) :
    ∃ value text, field.Writes (field.get config) value ∧ value.Written text := by
  cases field with
  | program =>
      obtain ⟨pieces, text, spells, inner⟩ := exists_string_written config.program
      exact ⟨_, text, .program spells, inner⟩
  | scriptArguments =>
      obtain ⟨rows, text, spells, inner⟩ := exists_list_written config.scriptArguments
      exact ⟨_, text, .scriptArguments spells, inner⟩
  | extension =>
      obtain ⟨pieces, text, spells, inner⟩ := exists_string_written config.extension
      exact ⟨_, text, .extension spells, inner⟩
  | filePrefix =>
      obtain ⟨pieces, text, spells, inner⟩ := exists_string_written config.filePrefix
      exact ⟨_, text, .filePrefix spells, inner⟩
  | timeoutSeconds =>
      cases limit : config.timeoutSeconds with
      | none => exact ⟨.null, _, by rw [Field.get, limit]; exact .unlimited, .null⟩
      | some seconds =>
          refine ⟨_, _, ?_, .numeral (decimal_written seconds)⟩
          rw [Field.get, limit]
          exact .limited (fits seconds limit)

theorem exists_describes (distinct : fields.Nodup)
    (fits : ∀ seconds, config.timeoutSeconds = some seconds → seconds < 2 ^ 64) :
    ∃ value text, Describes config fields value ∧ value.Written text := by
  have inner : ∃ members, Members Field.name (fun field => field.Writes (field.get config))
      fields members ∧ ∀ member ∈ members, ∃ text, Json.MemberWritten member text := by
    induction fields with
    | nil => exact ⟨[], .nil, nofun⟩
    | cons field fields induction =>
        obtain ⟨fresh, distinctLater⟩ := List.nodup_cons.mp distinct
        obtain ⟨members, given, each⟩ := induction distinctLater
        obtain ⟨value, text, writes, written⟩ := field.exists_written fits
        obtain ⟨pieces, name, spells, named⟩ := Json.exists_spelled field.name
        refine ⟨_, .about spells writes fresh given, ?_⟩
        intro member found
        rcases List.mem_cons.mp found with rfl | later
        · exact named.member written
        · exact each member later
  obtain ⟨members, given, each⟩ := inner
  obtain ⟨text, written⟩ := Json.Value.exists_record_written each
  exact ⟨_, text, .record given, written⟩

theorem exists_written (distinct : fields.Nodup)
    (fits : ∀ seconds, config.timeoutSeconds = some seconds → seconds < 2 ^ 64) :
    ∃ text, Written config fields text := by
  obtain ⟨value, text, describes, written⟩ := exists_describes distinct fits
  obtain ⟨pieces, name, spells, named⟩ := Json.exists_spelled interpreterName
  have members : Gives config fields [(⟨pieces, none⟩, value)] :=
    .described (.about spells describes List.not_mem_nil .nil)
  obtain ⟨whole, document⟩ := Json.Value.exists_record_written
    (List.forall_mem_singleton.mpr (named.member written))
  exact ⟨_, _, members, .between Json.spaces_nil document Json.spaces_nil⟩

/-- Decoding undoes writing.  Every configuration can be written with any of its fields,
in any order.  And however it is written, a file with the text is loaded, each field that
is given has its content, and each other field has its built-in content. -/
theorem ofFile_undoes_writing (config : Config) (fields : List Field) (distinct : fields.Nodup)
    (fits : ∀ seconds, config.timeoutSeconds = some seconds → seconds < 2 ^ 64) :
    (∃ text, Written config fields text) ∧
    ∀ text tree path, Written config fields text → FileTree.readText tree path = .ok text →
      ∃ result, ofFile tree path = .ok result ∧
        ∀ field : Field, field.get result =
          if field ∈ fields then field.get config else field.get builtIn := by
  refine ⟨exists_written distinct fits, ?_⟩
  intro text tree path written stored
  obtain ⟨result, decoded, takes⟩ := written.decode_eq
  exact ⟨result, by simp [ofFile, stored, decoded], takes⟩

/-- A configuration without a time limit, whose extension is spelled in several ways. -/
def spelledConfig : Config :=
  ⟨"sh".toList, [], "kt😀".toList, "t".toList, none⟩

/-- A file that gives the time limit and the extension, with another member first. -/
def spelledText : Text :=
  ("\x7b\"x\":[-1.5E+2,\x7b\x7d],\"interpreter\" :\n\x7b\"timeout_secs\":null," ++
    "\"extension\":\"\\u006Bt\\ud83d\\uDE00\"\x7d\x7d").toList

def spelledMembers : List (Json.Spelling × Json.Value) :=
  [(⟨[.character 'x'], none⟩,
      .list [.numeral ⟨true, ['1'], some ['5'], some (false, ['2'])⟩, .record [] none] none),
    (⟨interpreterName.map .character, none⟩,
      .record [(⟨(Field.name .timeoutSeconds).map .character, none⟩, .null),
        (⟨(Field.name .extension).map .character, none⟩,
          .string ⟨[.unit 0x6B, .character 't', .unit 0xD83D, .unit 0xDE00], none⟩)] none)]

theorem gives_spelledMembers :
    Gives spelledConfig [.timeoutSeconds, .extension] spelledMembers := by
  have spells : Json.Spells [.unit 0x6B, .character 't', .unit 0xD83D, .unit 0xDE00]
      "kt😀".toList :=
    @Json.Spells.unit 'k' _ _ (by decide)
      (.character 't' (@Json.Spells.pair '😀' [] [] (by decide) .nil))
  have described := @Describes.record spelledConfig [.timeoutSeconds, .extension] _
    (.about (Json.spells_characters (Field.name .timeoutSeconds)) .unlimited (by decide)
      (.about (Json.spells_characters (Field.name .extension)) (.extension spells)
        List.not_mem_nil .nil))
  exact .described (.other (Json.spells_characters ['x']) (fun _ => by decide)
    (.about (Json.spells_characters interpreterName) described List.not_mem_nil .nil))

theorem document_spelledText : (Json.Value.record spelledMembers none).Document spelledText := by
  have digits : Json.HexDigit '0' 0 ∧ Json.HexDigit '6' 6 ∧ Json.HexDigit 'B' 11 ∧
      Json.HexDigit 'd' 13 ∧ Json.HexDigit '8' 8 ∧ Json.HexDigit '3' 3 ∧
      Json.HexDigit 'D' 13 ∧ Json.HexDigit 'E' 14 := by
    unfold Json.HexDigit
    decide
  obtain ⟨ofZero, ofSix, ofB, ofD, ofEight, ofThree, ofUpperD, ofE⟩ := digits
  have extension : Json.PiecesWritten
      [.unit 0x6B, .character 't', .unit 0xD83D, .unit 0xDE00]
      "\\u006Bt\\ud83d\\uDE00".toList :=
    .cons (.unit ofZero ofZero ofSix ofB) (.cons (.plain (by decide) (by decide) (by decide))
      (.cons (.unit ofD ofEight ofThree ofD) (.cons (.unit ofUpperD ofE ofZero ofZero) .nil)))
  have row (digit : Char) (ascii : digit.isDigit = true) : Json.Numeral.DigitRow [digit] :=
    ⟨List.cons_ne_nil _ _, List.forall_mem_singleton.mpr ascii⟩
  have word (text : Text)
      (plain : (text.all fun character =>
        0x20 ≤ character.toNat ∧ character ≠ '"' ∧ character ≠ '\\') = true) :
      (Json.Spelling.mk (text.map .character) none).Written ('"' :: (text ++ ['"'])) :=
    .quoted (Json.piecesWritten_characters plain)
  have blank (character : Char) (known : character ∈ [' ', '\n', '\t', '\r']) :
      Json.Spaces [character] :=
    List.forall_mem_singleton.mpr known
  have skipped : (Json.Value.list
      [.numeral ⟨true, ['1'], some ['5'], some (false, ['2'])⟩, .record [] none] none).Written
      "[-1.5E+2,\x7b\x7d]".toList :=
    .list (.more Json.spaces_nil
      (.numeral (.parts .minus (row '1' rfl) nofun (.present (row '5' rfl))
        (.present (by decide) .plus (row '2' rfl))))
      Json.spaces_nil (.last Json.spaces_nil (.emptyRecord Json.spaces_nil) Json.spaces_nil))
  exact .between Json.spaces_nil
    (.record (.more
      (.named Json.spaces_nil (word ['x'] (by decide)) Json.spaces_nil Json.spaces_nil skipped
        Json.spaces_nil)
      (.last (.named Json.spaces_nil (word interpreterName (by decide))
        (blank ' ' (by decide)) (blank '\n' (by decide))
        (.record (.more
          (.named Json.spaces_nil (word (Field.name .timeoutSeconds) (by decide))
            Json.spaces_nil Json.spaces_nil .null Json.spaces_nil)
          (.last (.named Json.spaces_nil (word (Field.name .extension) (by decide))
            Json.spaces_nil Json.spaces_nil (.string (.quoted extension)) Json.spaces_nil))))
        Json.spaces_nil))))
    Json.spaces_nil

def spelledTree : FileTree :=
  (⟨[], ["desk".toList]⟩ : FileTree).enterDeep ["desk".toList, "config.json".toList]
    (.file (Utf8.encode spelledText) false)

theorem ofFile_undoes_writing_spelled :
    ofFile spelledTree "config.json".toList = .ok ⟨"kotlinc".toList, ["-script".toList],
      "kt😀".toList, "temp_script".toList, none⟩ := by
  obtain ⟨-, loads⟩ := ofFile_undoes_writing spelledConfig [.timeoutSeconds, .extension]
    (by decide) (by decide)
  have stored : FileTree.readText spelledTree "config.json".toList = .ok spelledText := by
    decide +kernel
  obtain ⟨⟨program, scriptArguments, ext, filePrefix, limit⟩, loaded, content⟩ :=
    loads _ _ _ ⟨_, gives_spelledMembers, document_spelledText⟩ stored
  obtain rfl : program = builtIn.program := (content .program).trans (if_neg (by decide))
  obtain rfl : scriptArguments = builtIn.scriptArguments :=
    (content .scriptArguments).trans (if_neg (by decide))
  obtain rfl : ext = spelledConfig.extension :=
    (content .extension).trans (if_pos (by decide))
  obtain rfl : filePrefix = builtIn.filePrefix :=
    (content .filePrefix).trans (if_neg (by decide))
  obtain rfl : limit = none := (content .timeoutSeconds).trans (if_pos (by decide))
  exact loaded

end ScriptDesk.Config
