import ScriptDesk.Message
import ScriptDesk.Proofs.Text.Trimming

/-!
# The language of commands

What a line of input asks for, as a relation between lines and messages.  A command is
known by its whole text, so that a name with anything behind it is another command; the
command that takes a path has white space in between.  Every input asks for one message.
-/

namespace ScriptDesk

namespace Message

/-- The line of an input is what is left without the line ends behind it. -/
structure Ends (input line : Text) : Prop where
  split : ∃ ends, input = line ++ ends ∧ ∀ character ∈ ends, character ∈ ['\r', '\n']
  last : ∀ character, line.getLast? = some character → character ∉ ['\r', '\n']

/-- The message that a command asks for. -/
inductive Orders : Text → Message → Prop where
  | run {name : Text} (known : name ∈ ["run".toList, "r".toList]) : Orders name .run
  | reset {name : Text} (known : name ∈ ["reset".toList]) : Orders name .reset
  | gotoError {name : Text} (known : name ∈ ["goto".toList, "g".toList]) :
      Orders name .gotoError
  | listing {name : Text} (known : name ∈ ["show".toList, "s".toList]) : Orders name .listing
  | load {name gap path : Text} (known : name ∈ ["load".toList, "l".toList])
      (gap_nonempty : gap ≠ []) (blank : ∀ character ∈ gap, Text.isBlank character = true)
      (nonempty : path ≠ []) (trimmed : Text.Core path path) :
      Orders (name ++ (gap ++ path)) (.load path)
  | help {name : Text} (known : name ∈ ["help".toList, "h".toList, "?".toList]) :
      Orders name .help
  | quit {name : Text} (known : name ∈ ["quit".toList, "q".toList, "exit".toList]) :
      Orders name .quit

/-- The message that a line asks for. -/
inductive Asks : Text → Message → Prop where
  | script {line : Text} (plain : line.head? ≠ some ':') : Asks line (.edit line)
  | escaped (rest : Text) : Asks (':' :: ':' :: rest) (.edit (':' :: rest))
  | command {rest core : Text} {message : Message} (single : rest.head? ≠ some ':')
      (isCore : Text.Core rest core) (orders : Orders core message) : Asks (':' :: rest) message
  | unknown {rest core : Text} (single : rest.head? ≠ some ':') (isCore : Text.Core rest core)
      (refused : ∀ message, ¬ Orders core message) :
      Asks (':' :: rest) (.unknown (':' :: rest))

variable {input line name core path : Text} {message : Message}

theorem orders_of_command? (found : command? name = some message) : Orders name message := by
  obtain ⟨⟨message, names⟩, chosen, rfl⟩ := Option.map_eq_some_iff.mp found
  have known : name ∈ names := by
    simpa using List.find?_some chosen
  have member := List.mem_of_find?_eq_some chosen
  simp only [commands, List.mem_cons, Prod.mk.injEq, List.not_mem_nil, or_false] at member
  rcases member with ⟨rfl, rfl⟩ | ⟨rfl, rfl⟩ | ⟨rfl, rfl⟩ | ⟨rfl, rfl⟩ | ⟨rfl, rfl⟩ | ⟨rfl, rfl⟩
  · exact .run known
  · exact .reset known
  · exact .gotoError known
  · exact .listing known
  · exact .help known
  · exact .quit known

/-- A name is followed by nothing or by white space. -/
theorem ofCommand_append (named : ∀ character ∈ name, Text.isBlank character = false)
    (behind : Text) (ends : ∀ character, behind.head? = some character →
      Text.isBlank character = true) (line : Text) :
    ofCommand line (name ++ behind) =
      if (Text.trim (behind.drop 1)).isEmpty then (command? name).getD (.unknown line)
      else if loadNames.contains name then .load (Text.trim (behind.drop 1))
      else .unknown line := by
  have inName : ∀ character ∈ name, (!Text.isBlank character) = true := by
    intro character member
    rw [named character member]
    rfl
  have stops : behind.takeWhile (fun character => !Text.isBlank character) = [] ∧
      behind.dropWhile (fun character => !Text.isBlank character) = behind := by
    cases behind with
    | nil => exact ⟨rfl, rfl⟩
    | cons first behind => simp [ends first rfl]
  simp only [ofCommand, List.takeWhile_append_of_pos inName, List.dropWhile_append_of_pos inName,
    stops.1, stops.2, List.append_nil]

theorem ofCommand_name (named : ∀ character ∈ name, Text.isBlank character = false)
    (line : Text) : ofCommand line name = (command? name).getD (.unknown line) := by
  have nothing := ofCommand_append named [] (fun _ => nofun) line
  rwa [List.append_nil] at nothing

theorem Orders.ofCommand_eq (orders : Orders core message) (line : Text) :
    ofCommand line core = message := by
  have alone {names : List Text} {message : Message} (known : core ∈ names)
      (listed : ∀ name ∈ names, (name.all fun character => !Text.isBlank character) = true ∧
        command? name = some message) : ofCommand line core = message := by
    obtain ⟨word, found⟩ := listed core known
    rw [ofCommand_name (by simpa using word), found]
    rfl
  cases orders with
  | run known => exact alone known (by decide)
  | reset known => exact alone known (by decide)
  | gotoError known => exact alone known (by decide)
  | listing known => exact alone known (by decide)
  | help known => exact alone known (by decide)
  | quit known => exact alone known (by decide)
  | @load name gap path known gap_nonempty blank nonempty trimmed =>
      obtain ⟨first, gap, rfl⟩ := List.exists_cons_of_ne_nil gap_nonempty
      have words : ∀ name ∈ ["load".toList, "l".toList],
          (name.all fun character => !Text.isBlank character) = true := by decide
      have named : ∀ character ∈ name, Text.isBlank character = false := by
        simpa using words name known
      have leads : ∀ character, (first :: gap ++ path).head? = some character →
          Text.isBlank character = true := by
        rintro character same
        exact Option.some.inj same ▸ blank first List.mem_cons_self
      have isPath : Text.trim (gap ++ path) = path := by
        refine Text.Core.trim_eq ⟨⟨gap, [], by simp, ?_, nofun⟩, trimmed.first, trimmed.last⟩
        exact fun character member => blank character (List.mem_cons_of_mem _ member)
      have listed : loadNames.contains name = true := by simpa [loadNames] using known
      rw [ofCommand_append named _ leads, List.cons_append, List.drop_one, List.tail_cons,
        isPath, if_neg (by simpa using nonempty), if_pos listed]

theorem orders_or_unknown (isCore : Text.Core core core) (line : Text) :
    Orders core (ofCommand line core) ∨ ofCommand line core = .unknown line := by
  obtain ⟨name, behind, rfl, named, ends⟩ : ∃ name behind, core = name ++ behind ∧
      (∀ character ∈ name, Text.isBlank character = false) ∧
      ∀ character, behind.head? = some character → Text.isBlank character = true := by
    obtain ⟨name, split, named, ends⟩ := Text.dropWhile_eq_iff.mp
      (Eq.refl (core.dropWhile fun character => !Text.isBlank character))
    exact ⟨name, _, split, by simpa using named, by simpa using ends⟩
  rw [ofCommand_append named behind ends]
  cases behind with
  | nil =>
      rw [List.append_nil]
      cases found : command? name with
      | none => exact .inr rfl
      | some message => exact .inl (orders_of_command? found)
  | cons first behind =>
      have blank : Text.isBlank first = true := ends first rfl
      obtain ⟨before, after, split, blankBefore, blankAfter⟩ := (Text.core_trim behind).split
      have trimmed := (Text.core_trim behind).self
      rw [List.drop_one, List.tail_cons]
      generalize Text.trim behind = path at split trimmed ⊢
      subst split
      have blankGap : ∀ character ∈ first :: before, Text.isBlank character = true :=
        List.forall_mem_cons.mpr ⟨blank, blankBefore⟩
      obtain rfl : after = [] := by
        have parted : name ++ first :: (before ++ path ++ after) =
            (name ++ first :: (before ++ path)) ++ after := by simp
        rw [parted] at isCore
        exact isCore.eq_nil_of_blank blankAfter
      by_cases nonempty : path = []
      · subst nonempty
        rw [List.append_nil, List.append_nil] at isCore
        cases isCore.eq_nil_of_blank blankGap
      · rw [if_neg (by simpa using nonempty)]
        by_cases listed : loadNames.contains name = true
        · rw [if_pos listed]
          have known : name ∈ ["load".toList, "l".toList] := by simpa [loadNames] using listed
          have orders := Orders.load known (List.cons_ne_nil first before) blankGap nonempty trimmed
          rw [List.append_nil]
          exact .inl orders
        · rw [if_neg listed]
          exact .inr rfl

theorem ends_dropTrailing (input : Text) : Ends input (Text.dropTrailing isLineEnd input) := by
  obtain ⟨ends, split, dropped, last⟩ :=
    Text.dropTrailing_eq_iff.mp (Eq.refl (Text.dropTrailing isLineEnd input))
  exact ⟨⟨ends, split, by simpa [isLineEnd] using dropped⟩, by simpa [isLineEnd] using last⟩

namespace Ends

variable {rest : Text}

theorem dropTrailing_eq (ends : Ends input line) : Text.dropTrailing isLineEnd input = line := by
  obtain ⟨behind, split, dropped⟩ := ends.split
  refine Text.dropTrailing_eq_iff.mpr ⟨behind, split, by simpa [isLineEnd] using dropped, ?_⟩
  simpa [isLineEnd] using ends.last

theorem ofInput_plain (ends : Ends input line) (plain : line.head? ≠ some ':') :
    ofInput input = .edit line := by
  unfold ofInput
  rw [ends.dropTrailing_eq]
  simp only
  split
  · exact (plain rfl).elim
  · exact (plain rfl).elim
  · rfl

theorem ofInput_escaped (ends : Ends input (':' :: ':' :: rest)) :
    ofInput input = .edit (':' :: rest) := by
  unfold ofInput
  rw [ends.dropTrailing_eq]
  rfl

theorem ofInput_command (ends : Ends input (':' :: rest)) (single : rest.head? ≠ some ':') :
    ofInput input = ofCommand (':' :: rest) (Text.trim rest) := by
  unfold ofInput
  rw [ends.dropTrailing_eq]
  simp only
  split
  · rename_i same
    rw [(List.cons.inj same).2] at single
    exact (single rfl).elim
  · rename_i same
    rw [(List.cons.inj same).2]
  · rename_i other
    exact (other rest rfl).elim

end Ends

theorem Asks.ofInput_eq (asks : Asks line message) (ends : Ends input line) :
    ofInput input = message := by
  cases asks with
  | script plain => exact ends.ofInput_plain plain
  | escaped rest => exact ends.ofInput_escaped
  | command single isCore orders =>
      rw [ends.ofInput_command single, isCore.trim_eq]
      exact orders.ofCommand_eq _
  | @unknown rest core single isCore refused =>
      rw [ends.ofInput_command single, isCore.trim_eq]
      exact (orders_or_unknown isCore.self (':' :: rest)).resolve_left (refused _)

theorem exists_asks (line : Text) : ∃ message, Asks line message := by
  cases line with
  | nil => exact ⟨_, .script nofun⟩
  | cons first rest =>
      by_cases colon : first = ':'
      · subst colon
        by_cases single : rest.head? = some ':'
        · obtain ⟨rest, rfl⟩ := List.head?_eq_some_iff.mp single
          exact ⟨_, .escaped rest⟩
        · by_cases ordered : ∃ message, Orders (Text.trim rest) message
          · obtain ⟨message, orders⟩ := ordered
            exact ⟨message, .command single (Text.core_trim rest) orders⟩
          · exact ⟨_, .unknown single (Text.core_trim rest) (not_exists.mp ordered)⟩
      · exact ⟨_, .script fun same => colon (Option.some.inj same)⟩

theorem Asks.ne_runFinished {state : RunState} (asks : Asks line message) :
    message ≠ .runFinished state := by
  cases asks with
  | command _ _ orders => cases orders <;> nofun
  | _ => nofun

/-- No line of input says that a run has finished. -/
theorem ofInput_ne_runFinished (input : Text) (state : RunState) :
    ofInput input ≠ .runFinished state := by
  obtain ⟨message, asks⟩ := exists_asks (Text.dropTrailing isLineEnd input)
  rw [asks.ofInput_eq (ends_dropTrailing input)]
  exact asks.ne_runFinished

/-- Every input stands for the message that its line asks for, and for no other.  None says
that a run has finished. -/
theorem ofInput_eq_iff (input : Text) :
    (∀ message, ofInput input = message ↔ ∃ line, Ends input line ∧ Asks line message) ∧
      ∀ state, ofInput input ≠ .runFinished state := by
  refine ⟨fun message => ⟨?_, ?_⟩, ofInput_ne_runFinished input⟩
  · rintro rfl
    have ends := ends_dropTrailing input
    obtain ⟨message, asks⟩ := exists_asks (Text.dropTrailing isLineEnd input)
    rw [asks.ofInput_eq ends]
    exact ⟨_, ends, asks⟩
  · rintro ⟨line, ends, asks⟩
    exact asks.ofInput_eq ends

/-- White space of any kind parts the name from the path, and that inside the path stays. -/
example : ofInput ": l\u3000 a \u00a0b\t\r\n".toList = .load "a \u00a0b".toList := by
  decide +kernel

/-- A colon behind white space escapes nothing. -/
example : ofInput ": :run".toList = .unknown ": :run".toList := by decide +kernel

end Message

end ScriptDesk
