import Mathlib.Data.List.Forall2
import Mathlib.Data.List.Nodup
import ScriptDesk.CommandLine.Reading
import ScriptDesk.Proofs.Text.Trimming

/-!
# Command lines that are written down

What a command line says is cut into parts, each of which is written in an argument of
its own.  The parts stand in any order, and a file comes last, behind an argument after
which there are only files.  Whatever is written is read back.

A value is attached to its option with an equals sign, so that nothing in it is taken for
anything else.
-/

namespace ScriptDesk.CommandLine

/-- A part of what a command line says, the file apart. -/
inductive Part where
  | interactive
  | gotoError
  | noColour
  | config (path : Text)
  | interpreter (name : Text)
  | timeout (seconds : Nat)
deriving DecidableEq, Repr

namespace Part

/-- The arguments for a part. -/
inductive Written : Part → Text → Prop where
  | interactive : Written .interactive "--interactive".toList
  | interactiveLetter : Written .interactive "-i".toList
  | gotoError : Written .gotoError "--goto-error".toList
  | gotoErrorLetter : Written .gotoError "-g".toList
  | noColour : Written .noColour "--no-color".toList
  | config (path : Text) : Written (.config path) ("--config=".toList ++ path)
  | interpreter (name : Text) : Written (.interpreter name) ("--interpreter=".toList ++ name)
  | timeout (seconds : Nat) :
      Written (.timeout seconds) ("--timeout=".toList ++ Text.decimal seconds)

def option : Part → Name
  | interactive => .switch .interactive
  | gotoError => .switch .gotoError
  | noColour => .switch .noColour
  | config _ => .slot .config
  | interpreter _ => .slot .interpreter
  | timeout _ => .slot .timeout

def add (line : CommandLine) : Part → CommandLine
  | interactive => { line with interactive := true }
  | gotoError => { line with gotoError := true }
  | noColour => { line with noColour := true }
  | config path => { line with config := some path }
  | interpreter name => { line with interpreter := some name }
  | timeout seconds => { line with timeout := some seconds }

/-- A path is not empty, and a number of seconds fits 64 bits. -/
def Fits : Part → Prop
  | config path => path ≠ []
  | timeout seconds => seconds < 2 ^ 64
  | _ => True

end Part

def parts (line : CommandLine) : List Part :=
  (if line.interactive then [.interactive] else []) ++
    ((if line.gotoError then [.gotoError] else []) ++
      ((if line.noColour then [.noColour] else []) ++
        ((line.config.map .config).toList ++
          ((line.interpreter.map .interpreter).toList ++
            (line.timeout.map .timeout).toList))))

def fileArguments (line : CommandLine) : List Text :=
  match line.file with
  | none => []
  | some path => [['-', '-'], path]

/-- An option is said at most once. -/
theorem nodup_option_parts (line : CommandLine) : (line.parts.map Part.option).Nodup := by
  have switches (said : Bool) (part : Part) :
      ((if said then [part] else []).map Part.option).Sublist [part.option] := by
    cases said with
    | false => exact List.nil_sublist _
    | true => exact List.Sublist.refl _
  have slots {Value : Type} (value : Option Value) (part : Value → Part) (slot : Slot)
      (same : ∀ value, (part value).option = .slot slot) :
      ((value.map part).toList.map Part.option).Sublist [.slot slot] := by
    cases value with
    | none => exact List.nil_sublist _
    | some value => simp [same]
  have ordered : (line.parts.map Part.option).Sublist
      [.switch .interactive, .switch .gotoError, .switch .noColour, .slot .config,
        .slot .interpreter, .slot .timeout] := by
    simp only [parts, List.map_append]
    exact (switches _ .interactive).append ((switches _ .gotoError).append
      ((switches _ .noColour).append ((slots _ .config _ fun _ => rfl).append
        ((slots _ .interpreter _ fun _ => rfl).append (slots _ .timeout _ fun _ => rfl)))))
  exact ordered.nodup (by decide)

theorem foldl_add_parts (line : CommandLine) :
    line.parts.foldl Part.add empty = { line with file := none } := by
  obtain ⟨file, interactive, gotoError, config, interpreter, timeout, noColour⟩ := line
  cases interactive <;> cases gotoError <;> cases noColour <;> cases config <;>
    cases interpreter <;> cases timeout <;> rfl

theorem Part.add_comm {first second : Part} (different : first.option ≠ second.option)
    (line : CommandLine) :
    Part.add (Part.add line first) second = Part.add (Part.add line second) first := by
  cases first <;> cases second <;> first | rfl | exact absurd rfl different

theorem foldl_add_perm {line : CommandLine} {order : List Part}
    (permuted : order.Perm line.parts) :
    order.foldl Part.add empty = { line with file := none } := by
  rw [← foldl_add_parts, permuted.foldl_eq']
  intro first firstMember second secondMember line
  by_cases same : first = second
  · rw [same]
  · apply Part.add_comm
    intro sameOption
    have distinct : (order.map Part.option).Nodup :=
      (permuted.map Part.option).nodup_iff.mpr (nodup_option_parts _)
    exact same (List.inj_on_of_nodup_map distinct firstMember secondMember sameOption)

theorem Part.fits_of_mem {line : CommandLine}
    (config_nonempty : ∀ path, line.config = some path → path ≠ [])
    (timeout_fits : ∀ seconds, line.timeout = some seconds → seconds < 2 ^ 64)
    {part : Part} (member : part ∈ line.parts) : part.Fits := by
  cases part with
  | config path =>
      apply config_nonempty
      simpa [parts] using member
  | timeout seconds =>
      apply timeout_fits
      simpa [parts] using member
  | _ => trivial

theorem Part.exists_written (order : List Part) :
    ∃ options, List.Forall₂ Part.Written order options := by
  induction order with
  | nil => exact ⟨[], .nil⟩
  | cons part order induction =>
      obtain ⟨options, later⟩ := induction
      have first : ∃ argument, part.Written argument := by
        cases part <;> exact ⟨_, by constructor⟩
      obtain ⟨argument, written⟩ := first
      exact ⟨argument :: options, .cons written later⟩

namespace Reading

/-- Options and a file may follow, and no value is kept. -/
structure Open (reading : Reading) : Prop where
  kept : reading.kept = none
  options : reading.onlyFiles = false
  noFile : reading.hasFile = false
  unfilled : .file ∉ reading.slots

/-- An option that has been read. -/
def Seen (reading : Reading) : Name → Prop
  | .switch switch => switch ∈ reading.switches
  | .slot slot => slot ∈ reading.slots

def add (reading : Reading) (part : Part) : Reading :=
  match part.option with
  | .switch switch =>
    { reading with line := part.add reading.line, switches := switch :: reading.switches }
  | .slot slot =>
    { reading with line := part.add reading.line, slots := slot :: reading.slots }

variable {reading : Reading} {part : Part}

theorem Open.add (isOpen : reading.Open) (part : Part) : (reading.add part).Open := by
  cases part <;> refine ⟨isOpen.kept, isOpen.options, isOpen.noFile, ?_⟩ <;>
    simpa [Reading.add, Part.option] using isOpen.unfilled

theorem line_add (reading : Reading) (part : Part) :
    (reading.add part).line = Part.add reading.line part := by
  cases part <;> rfl

theorem seen_add (reading : Reading) (part : Part) (name : Name) :
    (reading.add part).Seen name ↔ name = part.option ∨ reading.Seen name := by
  cases part <;> cases name <;> simp [Reading.add, Seen, Part.option]

theorem Open.settle_eq (isOpen : reading.Open) : reading.settle = .ok reading := by
  unfold settle
  rw [isOpen.kept]

theorem not_seen_start (name : Name) : ¬ start.Seen name := by
  cases name <;> exact List.not_mem_nil

theorem splitName_attached {name : Text} (simple : '=' ∉ name) (value : Text) :
    splitName (name ++ '=' :: value) = (name, some value) := by
  have before : ∀ character ∈ name, decide (character ≠ '=') = true := by
    intro character member
    exact decide_eq_true (ne_of_mem_of_not_mem member simple)
  unfold splitName
  rw [List.takeWhile_append_of_pos before, List.dropWhile_append_of_pos before]
  simp

theorem Open.raise_eq (isOpen : reading.Open) {switch : Switch}
    (unseen : switch ∉ reading.switches) {line : CommandLine}
    (known : turnOn reading.line switch = .ok line) :
    reading.raise switch =
      .ok { reading with line := line, switches := switch :: reading.switches } := by
  simp [raise, isOpen.settle_eq, unseen, known, bind, Except.bind, pure, Except.pure]

theorem Open.attach_eq (isOpen : reading.Open) {slot : Slot} {value : Text}
    (unseen : slot ∉ reading.slots) {line : CommandLine}
    (stored : store reading.line value slot = .ok line) :
    reading.attach slot value =
      .ok { reading with line := line, slots := slot :: reading.slots } := by
  simp [attach, isOpen.settle_eq, useValue, unseen, stored, bind, Except.bind, Except.map]

theorem Open.readArgument_long (isOpen : reading.Open) {text : Text} (nonempty : text ≠ []) :
    reading.readArgument ('-' :: '-' :: text) = reading.readLong text := by
  unfold readArgument
  rw [isOpen.options]
  cases text with
  | nil => exact absurd rfl nonempty
  | cons first rest => rfl

theorem Open.readArgument_attached (isOpen : reading.Open) (name : Text) (simple : '=' ∉ name)
    {slot : Slot} (known : longName? name = some (.slot slot)) (value : Text) :
    reading.readArgument ('-' :: '-' :: (name ++ '=' :: value)) = reading.attach slot value := by
  rw [isOpen.readArgument_long (by simp), readLong, splitName_attached simple]
  simp only [known]

theorem Open.readArgument_letter (isOpen : reading.Open) {letter : Char} {switch : Switch}
    (different : letter ≠ '-') (known : letter? letter = some (.switch switch)) :
    reading.readArgument ['-', letter] = reading.raise switch := by
  unfold readArgument
  rw [isOpen.options]
  have letters : reading.readLetters [letter] = reading.raise switch := by
    simp only [readLetters, known]
    cases reading.raise switch <;> rfl
  rw [← letters]
  simp [different]

theorem Open.readArgument_eq (isOpen : reading.Open) (unseen : ¬ reading.Seen part.option)
    (fits : part.Fits) {argument : Text} (written : part.Written argument) :
    reading.readArgument argument = .ok (reading.add part) := by
  cases written with
  | interactive =>
      exact (isOpen.readArgument_long (by decide)).trans (isOpen.raise_eq unseen rfl)
  | interactiveLetter =>
      exact (isOpen.readArgument_letter (by decide) rfl).trans (isOpen.raise_eq unseen rfl)
  | gotoError =>
      exact (isOpen.readArgument_long (by decide)).trans (isOpen.raise_eq unseen rfl)
  | gotoErrorLetter =>
      exact (isOpen.readArgument_letter (by decide) rfl).trans (isOpen.raise_eq unseen rfl)
  | noColour =>
      exact (isOpen.readArgument_long (by decide)).trans (isOpen.raise_eq unseen rfl)
  | config path =>
      have stored : store reading.line path .config =
          .ok (Part.add reading.line (.config path)) := by
        have nonempty : path ≠ [] := fits
        simp [store, readPath, nonempty, Except.map, Part.add]
      exact (isOpen.readArgument_attached "config".toList (by decide) rfl path).trans
        (isOpen.attach_eq unseen stored)
  | interpreter name =>
      exact (isOpen.readArgument_attached "interpreter".toList (by decide) rfl name).trans
        (isOpen.attach_eq unseen rfl)
  | timeout seconds =>
      have stored : store reading.line (Text.decimal seconds) .timeout =
          .ok (Part.add reading.line (.timeout seconds)) := by
        have row := Text.readDigits?_eq_some_iff.mp (Text.readDigits?_decimal fits)
        have read := Text.readWord?_eq_some_iff.mpr ⟨_, .inl rfl, row⟩
        simp [store, read, Part.add]
      exact (isOpen.readArgument_attached "timeout".toList (by decide) rfl _).trans
        (isOpen.attach_eq unseen stored)

theorem Open.exists_readAll (isOpen : reading.Open) {order : List Part} {options : List Text}
    (written : List.Forall₂ Part.Written order options) (distinct : (order.map Part.option).Nodup)
    (unseen : ∀ part ∈ order, ¬ reading.Seen part.option) (fits : ∀ part ∈ order, part.Fits) :
    ∃ result, reading.readAll options = .ok result ∧ result.Open ∧
      result.line = order.foldl Part.add reading.line := by
  induction written generalizing reading with
  | nil => exact ⟨reading, rfl, isOpen, rfl⟩
  | @cons part argument order options first later induction =>
      obtain ⟨fresh, distinctLater⟩ := List.nodup_cons.mp distinct
      have read := isOpen.readArgument_eq (unseen part List.mem_cons_self)
        (fits part List.mem_cons_self) first
      have unseenLater : ∀ other ∈ order, ¬ (reading.add part).Seen other.option := by
        intro other member
        rw [seen_add, not_or]
        refine ⟨?_, unseen other (List.mem_cons_of_mem _ member)⟩
        exact fun same => fresh (List.mem_map.mpr ⟨other, member, same⟩)
      obtain ⟨result, rest, stillOpen, line⟩ := induction (isOpen.add part) distinctLater
        unseenLater fun other member => fits other (List.mem_cons_of_mem _ member)
      refine ⟨result, ?_, stillOpen, ?_⟩
      · unfold readAll at rest ⊢
        rw [List.foldlM_cons, read]
        exact rest
      · rw [line, line_add, List.foldl_cons]

/-- A reading that has come to the file. The path is kept until the end. -/
def withFile (reading : Reading) (path : Text) : Reading :=
  { reading with kept := some ⟨.file, some path⟩, hasFile := true, onlyFiles := true }

theorem Open.readAll_file (isOpen : reading.Open) (path : Text) :
    reading.readAll [['-', '-'], path] = .ok (reading.withFile path) := by
  have marked : reading.readArgument ['-', '-'] = .ok { reading with onlyFiles := true } := by
    unfold readArgument
    rw [isOpen.options]
    rfl
  have opened : ({ reading with onlyFiles := true }).readArgument path =
      .ok (reading.withFile path) := by
    simp [readArgument, readFile, expect, settle, withFile, isOpen.kept, isOpen.noFile, bind,
      Except.bind, pure, Except.pure]
  simp [readAll, marked, opened, bind, Except.bind, pure, Except.pure]

theorem Open.exists_settle_withFile (isOpen : reading.Open) {path : Text} (nonempty : path ≠ []) :
    ∃ settled, (reading.withFile path).settle = .ok settled ∧
      settled.line = { reading.line with file := some path } := by
  have stored : store reading.line path .file =
      .ok { reading.line with file := some path } := by
    simp [store, readPath, nonempty, Except.map]
  have used : (reading.withFile path).settle =
      .ok { reading.withFile path with
        line := { reading.line with file := some path }
        slots := .file :: reading.slots
        kept := none } := by
    simp [settle, withFile, useValue, isOpen.unfilled, stored, Except.map]
  exact ⟨_, used, rfl⟩

theorem open_start : start.Open :=
  ⟨rfl, rfl, rfl, List.not_mem_nil⟩

end Reading

theorem read_append_eq {options files : List Text} {reading result settled : Reading}
    (before : Reading.start.readAll options = .ok reading)
    (behind : reading.readAll files = .ok result) (ends : result.settle = .ok settled) :
    read (options ++ files) = .ok settled.line := by
  unfold Reading.readAll at before behind
  simp [read, Reading.readAll, List.foldlM_append, before, behind, ends, bind, Except.bind, pure,
    Except.pure]

/-- Reading undoes writing.  The parts of a command line can be written in every order,
and however they are written, the command line is read. -/
theorem read_undoes_writing (line : CommandLine)
    (file_nonempty : ∀ path, line.file = some path → path ≠ [])
    (config_nonempty : ∀ path, line.config = some path → path ≠ [])
    (timeout_fits : ∀ seconds, line.timeout = some seconds → seconds < 2 ^ 64)
    (order : List Part) (permuted : order.Perm line.parts) :
    (∃ options, List.Forall₂ Part.Written order options) ∧
    ∀ options, List.Forall₂ Part.Written order options →
      read (options ++ line.fileArguments) = .ok line := by
  refine ⟨Part.exists_written order, ?_⟩
  intro options written
  have distinct : (order.map Part.option).Nodup :=
    (permuted.map Part.option).nodup_iff.mpr (nodup_option_parts line)
  have fits : ∀ part ∈ order, part.Fits := fun part member =>
    Part.fits_of_mem config_nonempty timeout_fits (permuted.mem_iff.mp member)
  obtain ⟨reading, before, isOpen, said⟩ := Reading.open_start.exists_readAll written distinct
    (fun part _ => Reading.not_seen_start part.option) fits
  have said : reading.line = { line with file := none } := said.trans (foldl_add_perm permuted)
  unfold fileArguments
  cases filed : line.file with
  | none =>
      rw [read_append_eq before rfl isOpen.settle_eq, said, ← filed]
  | some path =>
      obtain ⟨settled, ends, line⟩ := isOpen.exists_settle_withFile (file_nonempty path filed)
      rw [read_append_eq before (isOpen.readAll_file path) ends, line, said, ← filed]

/-- A command line whose values look like options. -/
def dashedLine : CommandLine :=
  ⟨some "--".toList, true, true, some "-x=--config".toList, some "--help".toList,
    some (2 ^ 64 - 1), false⟩

theorem read_undoes_writing_dashed :
    read ["--interpreter=--help".toList, "-g".toList,
        "--timeout=".toList ++ Text.decimal (2 ^ 64 - 1), "--interactive".toList,
        "--config=-x=--config".toList, "--".toList, "--".toList] =
      .ok ⟨some "--".toList, true, true, some "-x=--config".toList, some "--help".toList,
        some (2 ^ 64 - 1), false⟩ := by
  obtain ⟨-, reads⟩ := read_undoes_writing dashedLine (by decide) (by decide) (by decide)
    [.interpreter "--help".toList, .gotoError, .timeout (2 ^ 64 - 1), .interactive,
      .config "-x=--config".toList] (by decide)
  exact reads _ (.cons (.interpreter _) (.cons .gotoErrorLetter (.cons (.timeout _)
    (.cons .interactive (.cons (.config _) .nil)))))

end ScriptDesk.CommandLine
