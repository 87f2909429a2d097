import ScriptDesk.Config.Loading
import ScriptDesk.Proofs.Config.Document
import ScriptDesk.Proofs.Text.Trimming

/-!
# Which value counts

A field of the configuration gets its content from the first of several places that says
something: the command line, an environment variable, the chosen file, and what is built
in.  There is only one chosen file.  What is wrong with a place counts even where another
place comes before it.
-/

namespace ScriptDesk

namespace Config

variable {tree : FileTree} {environment : Environment} {overrides : Overrides}
  {explicit path? : Option Text} {path value : Text} {config : Config}

/-- The file that is chosen for a path on the command line, if there is one. -/
inductive Chooses (tree : FileTree) (environment : Environment) :
    Option Text → Option Text → Prop where
  | explicit (path : Text) : Chooses tree environment (some path) (some path)
  | default :
      environment.homeDirectory ≠ [] →
      tree.isFile (Utf8.octetText (defaultPath environment)) = true →
      Chooses tree environment none (some (defaultPath environment))
  | homeless : environment.homeDirectory = [] → Chooses tree environment none none
  | absent :
      tree.isFile (Utf8.octetText (defaultPath environment)) = false →
      Chooses tree environment none none

/-- The name that the variable for the interpreter gives, if it gives one. -/
inductive Names : Option Text → Option Text → Prop where
  | unset : Names none none
  | blank {value : Text} :
      (∀ character ∈ value, Text.isBlank character = true) → Names (some value) none
  | named {value name : Text} :
      (∃ character ∈ value, Text.isBlank character = false) → Text.Core value name →
      Names (some value) (some name)

/-- The number that the variable for the time limit gives, if it is set. -/
inductive Limits : Option Text → Option Nat → Prop where
  | unset : Limits none none
  | seconds {value core : Text} {seconds : Nat} :
      Text.Core value core → Text.Word core seconds → Limits (some value) (some seconds)

/-- What the chosen file says about a field, if there is such a file. -/
inductive Files (tree : FileTree) (field : Field) :
    Option Text → Option field.Content → Prop where
  | unchosen : Files tree field none none
  | chosen {path text : Text} {content? : Option field.Content} :
      tree.readText path = .ok text → Says text field content? →
      Files tree field (some path) content?

/-- The file cannot be read or holds no configuration. -/
def Unusable (tree : FileTree) (path : Text) : Prop :=
  (∃ fault, tree.readText path = .error fault) ∨
    ∃ text fault, tree.readText path = .ok text ∧ decode text = .error fault

/-- The variable for the time limit is set, but not to a number. -/
def Unlimiting (overrides : Overrides) : Prop :=
  ∃ value core, overrides.timeout = some value ∧ Text.Core value core ∧
    ∀ seconds, ¬ Text.Word core seconds

theorem chooses_chosenPath? (tree : FileTree) (environment : Environment)
    (explicit : Option Text) :
    Chooses tree environment explicit (chosenPath? tree environment explicit) := by
  cases explicit with
  | some path => exact .explicit path
  | none =>
      by_cases found : hasDefault tree environment = true
      · have parts := Bool.and_eq_true_iff.mp found
        simp only [chosenPath?, if_pos found]
        exact .default (by simpa using parts.1) parts.2
      · simp only [chosenPath?, if_neg found]
        by_cases home : environment.homeDirectory = []
        · exact .homeless home
        · exact .absent (by simpa [hasDefault, home] using found)

theorem Chooses.eq_chosenPath? (chooses : Chooses tree environment explicit path?) :
    path? = chosenPath? tree environment explicit := by
  cases chooses with
  | explicit path => rfl
  | default home file => simp [chosenPath?, hasDefault, home, file]
  | homeless home => simp [chosenPath?, hasDefault, home]
  | absent file => simp [chosenPath?, hasDefault, file]

theorem core_eq_nil_iff {core : Text} (isCore : Text.Core value core) :
    core = [] ↔ ∀ character ∈ value, Text.isBlank character = true := by
  obtain ⟨before, after, rfl, blankBefore, blankAfter⟩ := isCore.split
  constructor
  · rintro rfl character member
    rcases List.mem_append.mp member with leading | following
    · exact blankBefore character (by simpa using leading)
    · exact blankAfter character following
  · intro blank
    cases core with
    | nil => rfl
    | cons first rest =>
        have kept := isCore.first first rfl
        rw [blank first (by simp)] at kept
        cases kept

theorem names_namedInterpreter? (overrides : Overrides) :
    Names overrides.interpreter (namedInterpreter? overrides) := by
  unfold namedInterpreter?
  cases overrides.interpreter with
  | none => exact .unset
  | some value =>
      have isCore := Text.core_trim value
      rw [Option.map_some]
      by_cases empty : Text.trim value = []
      · rw [Option.filter_some_neg (by simp [empty])]
        exact .blank ((core_eq_nil_iff isCore).mp empty)
      · rw [Option.filter_some_pos (by simp [empty])]
        refine .named ?_ isCore
        rw [core_eq_nil_iff isCore] at empty
        simpa using empty

theorem applyInterpreter_eq (config : Config) (overrides : Overrides) :
    config.applyInterpreter overrides =
      { config with program := (namedInterpreter? overrides).getD config.program } := by
  unfold applyInterpreter
  cases namedInterpreter? overrides <;> rfl

/-- The time limit of the variable, unless it is no number. -/
theorem applyTimeout_cases (config : Config) (overrides : Overrides) :
    (∃ limit?, Limits overrides.timeout limit? ∧ ¬ Unlimiting overrides ∧
        config.applyTimeout overrides =
          ({ config with timeoutSeconds := limit?.or config.timeoutSeconds }, none)) ∨
      Unlimiting overrides ∧ ∃ value, overrides.timeout = some value ∧
        config.applyTimeout overrides = (config, some (.invalidTimeout value)) := by
  unfold applyTimeout
  cases setting : overrides.timeout with
  | none =>
      refine .inl ⟨none, .unset, ?_, rfl⟩
      rintro ⟨value, core, set, _⟩
      rw [setting] at set
      cases set
  | some value =>
      have isCore := Text.core_trim value
      cases number : Text.readWord? (Text.trim value) with
      | some seconds =>
          have word := Text.readWord?_eq_some_iff.mp number
          refine .inl ⟨some seconds, .seconds isCore word, ?_, by simp [number]⟩
          rintro ⟨other, core, set, otherCore, refused⟩
          cases setting.symm.trans set
          rw [← otherCore.trim_eq] at refused
          exact refused seconds word
      | none =>
          have refused := Text.readWord?_eq_none_iff.mp number
          exact .inr ⟨⟨value, _, setting, isCore, refused⟩, value, rfl, by simp [number]⟩

theorem ofFile_cases (tree : FileTree) (path : Text) :
    (∃ text config, tree.readText path = .ok text ∧ decode text = .ok config ∧
        ofFile tree path = .ok config ∧ ¬ Unusable tree path) ∨
      Unusable tree path ∧ ∃ error, ofFile tree path = .error error := by
  unfold ofFile
  cases read : tree.readText path with
  | error fault => exact .inr ⟨.inl ⟨fault, read⟩, _, rfl⟩
  | ok text =>
      cases decoded : decode text with
      | error fault =>
          exact .inr ⟨.inr ⟨text, fault, read, decoded⟩, .invalid path fault, by simp [decoded]⟩
      | ok config =>
          refine .inl ⟨text, config, rfl, decoded, by simp [decoded], ?_⟩
          rintro (⟨fault, unread⟩ | ⟨other, fault, readOther, refused⟩)
          · rw [read] at unread
            cases unread
          · cases read.symm.trans readOther
            rw [decoded] at refused
            cases refused

/-- The configuration of the chosen file, or what is built in. -/
def fileConfig (tree : FileTree) : Option Text → Except ConfigError Config
  | some path => ofFile tree path
  | none => .ok builtIn

/-- Every field of the configuration is as the file says, or built in. -/
def Filed (tree : FileTree) (path? : Option Text) (config : Config) : Prop :=
  ∀ field : Field, ∃ content?, Files tree field path? content? ∧
    field.get config = content?.getD (field.get builtIn)

theorem fileConfig_cases (tree : FileTree) (path? : Option Text) :
    (∃ config, fileConfig tree path? = .ok config ∧ Filed tree path? config ∧
        ∀ path, path? = some path → ¬ Unusable tree path) ∨
      (∃ path, path? = some path ∧ Unusable tree path) ∧
        ∃ error, fileConfig tree path? = .error error := by
  cases path? with
  | none =>
      refine .inl ⟨builtIn, rfl, fun field => ⟨none, .unchosen, rfl⟩, ?_⟩
      intro path isNone
      cases isNone
  | some path =>
      rcases ofFile_cases tree path with
        ⟨text, config, read, decoded, loaded, usable⟩ | ⟨unusable, failed⟩
      · refine .inl ⟨config, loaded, ?_, ?_⟩
        · intro field
          obtain ⟨content?, said, content⟩ := exists_says_of_decode decoded field
          exact ⟨content?, .chosen read said, content⟩
        · intro other same
          cases same
          exact usable
      · exact .inr ⟨⟨path, rfl, unusable⟩, failed⟩

end Config

namespace CommandLine

open Config

variable {tree : FileTree} {environment : Environment} {line : CommandLine} {config : Config}

/-- The configuration takes each field from the first place that has something for it. -/
structure Layered (tree : FileTree) (environment : Environment) (line : CommandLine)
    (path? : Option Text) (config : Config) : Prop where
  program : ∃ named? filed?, Names environment.overrides.interpreter named? ∧
    Files tree .program path? filed? ∧
    config.program = ((line.interpreter.or named?).or filed?).getD builtIn.program
  timeout : ∃ limit? filed?, Limits environment.overrides.timeout limit? ∧
    Files tree .timeoutSeconds path? filed? ∧
    config.timeoutSeconds = (line.timeout.or limit?).or (filed?.getD builtIn.timeoutSeconds)
  others : ∀ field ∈ [Field.scriptArguments, .extension, .filePrefix],
    ∃ filed?, Files tree field path? filed? ∧
      field.get config = filed?.getD (field.get builtIn)

theorem resolve_eq (tree : FileTree) (environment : Environment) (line : CommandLine) :
    line.resolve tree environment =
      match fileConfig tree (chosenPath? tree environment line.config) with
      | .error error => .error error
      | .ok config =>
        match config.applyOverrides environment.overrides with
        | (applied, none) => .ok (line.overrideConfig applied)
        | (_, some error) => .error error := by
  unfold resolve load
  cases chosenPath? tree environment line.config with
  | none =>
      simp only [fileConfig, bind, Except.bind]
      rcases builtIn.applyOverrides environment.overrides with ⟨applied, _ | error⟩ <;> rfl
  | some path =>
      cases loaded : ofFile tree path with
      | error error => simp [fileConfig, loaded, bind, Except.bind, Except.map]
      | ok config =>
          simp only [fileConfig, loaded, bind, Except.bind]
          rcases config.applyOverrides environment.overrides with ⟨applied, _ | error⟩ <;> rfl

theorem layered_of_filed {path? named? : Option Text} {limit? : Option Nat} {base : Config}
    (filed : Filed tree path? base) (named : Names environment.overrides.interpreter named?)
    (limits : Limits environment.overrides.timeout limit?) :
    Layered tree environment line path?
      (line.overrideConfig
        { base with
          program := named?.getD base.program
          timeoutSeconds := limit?.or base.timeoutSeconds }) := by
  constructor
  · obtain ⟨filed?, files, content⟩ := filed .program
    refine ⟨named?, filed?, named, files, ?_⟩
    have base_eq : base.program = filed?.getD builtIn.program := content
    rw [Option.getD_or, Option.getD_or, ← base_eq]
    rfl
  · obtain ⟨filed?, files, content⟩ := filed .timeoutSeconds
    refine ⟨limit?, filed?, limits, files, ?_⟩
    have base_eq : base.timeoutSeconds = Option.getD filed? builtIn.timeoutSeconds := content
    rw [Option.or_assoc, ← base_eq]
    rfl
  · intro field member
    obtain ⟨filed?, files, content⟩ := filed field
    refine ⟨filed?, files, Eq.trans ?_ content⟩
    simp only [List.mem_cons, List.not_mem_nil, or_false] at member
    rcases member with rfl | rfl | rfl <;> rfl

/-- What is in the configuration if one is found, and when none is found. -/
theorem resolve_cases (tree : FileTree) (environment : Environment) (line : CommandLine)
    {path? : Option Text} (chooses : Chooses tree environment line.config path?) :
    (∃ config, line.resolve tree environment = .ok config ∧
        Layered tree environment line path? config ∧
        (∀ path, path? = some path → ¬ Unusable tree path) ∧
        ¬ Unlimiting environment.overrides) ∨
      ((∃ path, path? = some path ∧ Unusable tree path) ∨ Unlimiting environment.overrides) ∧
        ∃ error, line.resolve tree environment = .error error := by
  rw [resolve_eq, ← chooses.eq_chosenPath?]
  rcases fileConfig_cases tree path? with ⟨base, loaded, filed, usable⟩ | ⟨unusable, error, failed⟩
  · rw [loaded]
    have named := names_namedInterpreter? environment.overrides
    simp only [applyOverrides, applyInterpreter_eq]
    rcases applyTimeout_cases
        { base with program := (namedInterpreter? environment.overrides).getD base.program }
        environment.overrides with
      ⟨limit?, limits, limiting, applied⟩ | ⟨unlimiting, value, -, refused⟩
    · rw [applied]
      exact .inl ⟨_, rfl, layered_of_filed filed named limits, usable, limiting⟩
    · rw [refused]
      exact .inr ⟨.inr unlimiting, _, rfl⟩
  · rw [failed]
    exact .inr ⟨.inl unusable, error, rfl⟩

theorem resolve_congr {other : FileTree} {elsewhere : Environment} {path : Text}
    (explicit : line.config = some path) (same : other.readText path = tree.readText path)
    (overrides : elsewhere.overrides = environment.overrides) :
    line.resolve other elsewhere = line.resolve tree environment := by
  have loaded : ofFile other path = ofFile tree path := by
    unfold ofFile
    rw [same]
  rw [resolve_eq, resolve_eq, overrides, explicit]
  simp only [chosenPath?, fileConfig, loaded]

/-- The configuration is decided by precedence.  If there is one, its fields are layered
over the chosen file.  There is none exactly if the chosen file is unusable or the
variable for the time limit holds no number, whatever the command line says about either.
And where the command line names a file, nothing else in the file tree matters. -/
theorem resolve_by_precedence (tree : FileTree) (environment : Environment)
    (line : CommandLine) :
    (∀ config, line.resolve tree environment = .ok config →
      ∃ path?, Chooses tree environment line.config path? ∧
        Layered tree environment line path? config) ∧
    ((∃ error, line.resolve tree environment = .error error) ↔
      (∃ path, Chooses tree environment line.config (some path) ∧ Unusable tree path) ∨
        Unlimiting environment.overrides) ∧
    (∀ path other elsewhere, line.config = some path →
      other.readText path = tree.readText path →
      elsewhere.overrides = environment.overrides →
      line.resolve other elsewhere = line.resolve tree environment) := by
  have chooses := chooses_chosenPath? tree environment line.config
  have cases := resolve_cases tree environment line chooses
  refine ⟨?_, ⟨?_, ?_⟩, fun _ _ _ explicit same overrides =>
    resolve_congr explicit same overrides⟩
  · intro config resolved
    rcases cases with ⟨found, same, layered, _⟩ | ⟨_, error, failed⟩
    · cases resolved.symm.trans same
      exact ⟨_, chooses, layered⟩
    · cases resolved.symm.trans failed
  · rintro ⟨error, failed⟩
    rcases cases with ⟨found, same, _⟩ | ⟨⟨path, chosen, unusable⟩ | unlimiting, _⟩
    · cases failed.symm.trans same
    · exact .inl ⟨path, chosen ▸ chooses, unusable⟩
    · exact .inr unlimiting
  · intro problem
    rcases cases with ⟨found, _, _, usable, limiting⟩ | ⟨_, failed⟩
    · rcases problem with ⟨path, chosen, unusable⟩ | unlimiting
      · exact absurd unusable (usable path chosen.eq_chosenPath?.symm)
      · exact absurd unlimiting limiting
    · exact failed

/-- A file of the desk that names only the extension. -/
def extensionTree : FileTree :=
  (⟨[], ["desk".toList]⟩ : FileTree).enterDeep ["desk".toList, "config.json".toList]
    (.file (Utf8.encode "\x7b\"interpreter\":\x7b\"extension\":\"py\"\x7d\x7d".toList) false)

/-- The same with a default file that names the prefix. -/
def prefixTree : FileTree :=
  extensionTree.enterDeep
    ["root".toList, ".config".toList, "scriptrunner".toList, "config.json".toList]
    (.file (Utf8.encode "\x7b\"interpreter\":\x7b\"temp_prefix\":\"t\"\x7d\x7d".toList) false)

/-- A blank variable for the interpreter, and one for the time limit with space around. -/
def spacedEnvironment : Environment :=
  ⟨some "/root".toList, none, none, [], ⟨some [' '], some " +7 ".toList⟩⟩

/-- A command line that names the file of the desk. -/
def explicitLine : CommandLine :=
  { empty with config := some "config.json".toList }

/-- The file that is named leaves out the prefix.  It is built in, whether there is a
default file or not, and the blank variable names no interpreter. -/
theorem resolve_by_precedence_explicit_file :
    explicitLine.resolve prefixTree spacedEnvironment =
        .ok ⟨"kotlinc".toList, ["-script".toList], "py".toList, "temp_script".toList, some 7⟩ ∧
      (∃ path?, Chooses prefixTree spacedEnvironment explicitLine.config path? ∧
        Layered prefixTree spacedEnvironment explicitLine path?
          ⟨"kotlinc".toList, ["-script".toList], "py".toList, "temp_script".toList, some 7⟩) ∧
      (¬ ∃ error, explicitLine.resolve prefixTree spacedEnvironment = .error error) ∧
      explicitLine.resolve extensionTree spacedEnvironment =
        explicitLine.resolve prefixTree spacedEnvironment := by
  obtain ⟨layered, -, unaffected⟩ :=
    resolve_by_precedence prefixTree spacedEnvironment explicitLine
  have resolved : explicitLine.resolve prefixTree spacedEnvironment =
      .ok ⟨"kotlinc".toList, ["-script".toList], "py".toList, "temp_script".toList,
        some 7⟩ := by
    decide +kernel
  have sameFile : extensionTree.readText "config.json".toList =
      prefixTree.readText "config.json".toList := by
    decide +kernel
  refine ⟨resolved, layered _ resolved, ?_, unaffected _ _ _ rfl sameFile rfl⟩
  rintro ⟨error, unresolved⟩
  cases resolved.symm.trans unresolved

end CommandLine

end ScriptDesk
