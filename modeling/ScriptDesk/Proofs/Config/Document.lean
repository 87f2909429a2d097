import Mathlib.Data.List.Nodup
import Mathlib.Data.List.Zip
import ScriptDesk.Config.Document

/-!
# What a configuration file says

A file says something about a field if it has a description of the interpreter, and the
description has a part for the field: the member of the field's name, or the item at the
field's place.  A file that can be decoded gives each field the content of its part.  A
field without a part keeps its built-in content.

The files and the descriptions in them are read by one function.  What it does to the
parts of a target is said once, for every `View` of the target as its parts.
-/

namespace ScriptDesk.Config

namespace Shape

variable {Label Target : Type} [DecidableEq Label] {shape : Shape Label Target}

/-- Whether a key of a record stands for a label. -/
def isKeyOf (shape : Shape Label Target) (label : Label) (key : Json.Spelling) : Bool :=
  match key.text with
  | .ok name => shape.ofName? name = some label
  | .error _ => false

/-- The value of the first member whose key stands for a label. -/
def member? (shape : Shape Label Target) (label : Label)
    (members : List (Json.Spelling × Json.Value)) : Option Json.Value :=
  (members.find? fun member => shape.isKeyOf label member.1).map (·.2)

/-- The part of a value that is meant for a label. -/
def part? (shape : Shape Label Target) (label : Label) : Json.Value → Option Json.Value
  | .record members _ => shape.member? label members
  | .list items _ => (shape.labels.zip items).lookup label
  | _ => none

/-- A target as its parts, one for each label.  What a value makes of a part depends on
this part alone, and it changes no other one. -/
structure View (shape : Shape Label Target) where
  Content : Label → Type
  get : (label : Label) → Target → Content label
  put : (label : Label) → Content label → Json.Value → Except Json.Fault (Content label)
  distinct : shape.labels.Nodup
  put_get : ∀ {target next value label}, shape.set target value label = .ok next →
    put label (get label target) value = .ok (get label next)
  get_other : ∀ {target next value label other}, shape.set target value label = .ok next →
    other ≠ label → get other next = get other target

/-- The part of a label after a value for it, if there is one. -/
def View.Filled (view : View shape) (target result : Target) (label : Label) :
    Option Json.Value → Prop
  | none => view.get label result = view.get label target
  | some value => view.put label (view.get label target) value = .ok (view.get label result)

omit [DecidableEq Label] in
theorem View.Filled.of_eq {view : View shape} {target next result : Target} {label : Label}
    {value? : Option Json.Value} (filled : view.Filled next result label value?)
    (same : view.get label next = view.get label target) :
    view.Filled target result label value? := by
  cases value? with
  | none => exact filled.trans same
  | some value =>
      simp only [View.Filled] at filled ⊢
      rw [← same]
      exact filled

theorem member?_cons {label : Label} {key : Json.Spelling} {value : Json.Value}
    {rest : List (Json.Spelling × Json.Value)} :
    shape.member? label ((key, value) :: rest) =
      if shape.isKeyOf label key = true then some value else shape.member? label rest := by
  unfold member?
  rw [List.find?_cons]
  cases shape.isKeyOf label key <;> rfl

theorem View.filled_readMembers (view : View shape) {seen : List Label} {target result : Target}
    {members : List (Json.Spelling × Json.Value)}
    (read : shape.readMembers seen target members = .ok result) :
    (∀ label ∈ seen, view.get label result = view.get label target) ∧
      ∀ label ∉ seen, view.Filled target result label (shape.member? label members) := by
  induction members generalizing seen target with
  | nil =>
      cases read
      exact ⟨fun _ _ => rfl, fun _ _ => rfl⟩
  | cons member rest ih =>
      obtain ⟨key, value⟩ := member
      cases text : key.text with
      | error fault => simp [readMembers, text, bind, Except.bind] at read
      | ok name =>
          simp only [readMembers, text, bind, Except.bind] at read
          have key_iff : ∀ label, shape.isKeyOf label key = true ↔
              shape.ofName? name = some label := by
            intro label
            unfold isKeyOf
            rw [text, decide_eq_true_iff]
          cases named : shape.ofName? name with
          | none =>
              rw [named] at read key_iff
              simp only at read
              split at read
              · cases read
              · obtain ⟨kept, filled⟩ := ih read
                refine ⟨kept, fun label unseen => ?_⟩
                rw [member?_cons, if_neg (by simp [key_iff])]
                exact filled label unseen
          | some found =>
              rw [named] at read key_iff
              simp only at read
              split at read
              · cases read
              · rename_i fresh
                cases written : shape.set target value found with
                | error fault => simp [written] at read
                | ok next =>
                    rw [written] at read
                    obtain ⟨kept, filled⟩ := ih read
                    have keptFound := kept found List.mem_cons_self
                    refine ⟨fun label member => ?_, fun label unseen => ?_⟩
                    · have other : label ≠ found := fun same => fresh (same ▸ member)
                      exact (kept label (List.mem_cons_of_mem _ member)).trans
                        (view.get_other written other)
                    · rw [member?_cons]
                      by_cases same : found = label
                      · subst same
                        rw [if_pos (by simp [key_iff])]
                        simp only [View.Filled, keptFound]
                        exact view.put_get written
                      · rw [if_neg (by simpa [key_iff] using same)]
                        have unseenNext : label ∉ found :: seen := by
                          rw [List.mem_cons, not_or]
                          exact ⟨Ne.symm same, unseen⟩
                        exact (filled label unseenNext).of_eq
                          (view.get_other written (Ne.symm same))

theorem View.filled_readItems (view : View shape) {labels : List Label}
    {target result : Target} {items : List Json.Value} (distinct : labels.Nodup)
    (read : shape.readItems target labels items = .ok result) (label : Label) :
    view.Filled target result label ((labels.zip items).lookup label) := by
  induction labels generalizing target items with
  | nil =>
      cases items with
      | nil =>
          cases read
          rfl
      | cons value rest => cases read
  | cons first labels ih =>
      cases items with
      | nil =>
          cases read
          rfl
      | cons value rest =>
          cases written : shape.set target value first with
          | error fault => simp [readItems, written, bind, Except.bind] at read
          | ok next =>
              simp only [readItems, written, bind, Except.bind] at read
              obtain ⟨fresh, distinctRest⟩ := List.nodup_cons.mp distinct
              have filled := ih distinctRest read
              rw [List.zip_cons_cons, List.lookup_cons]
              by_cases same : label = first
              · subst same
                have absent : (labels.zip rest).lookup label = none := by
                  rw [List.lookup_eq_none_iff]
                  rintro ⟨other, item⟩ member
                  have inLabels : other ∈ labels := (List.of_mem_zip member).1
                  have differs : label ≠ other := fun same => fresh (same ▸ inLabels)
                  exact bne_iff_ne.mpr differs
                rw [absent] at filled
                simp only [beq_self_eq_true, View.Filled] at filled ⊢
                rw [filled]
                exact view.put_get written
              · have differs : (label == first) = false := beq_eq_false_iff_ne.mpr same
                rw [differs]
                exact filled.of_eq (view.get_other written same)

/-- Reading a value fills each part with what the value has for it. -/
theorem View.filled_read (view : View shape) {target result : Target} {value : Json.Value}
    (read : shape.read target value = .ok result) (label : Label) :
    view.Filled target result label (shape.part? label value) := by
  cases value with
  | record members fault =>
      cases body : shape.readMembers [] target members with
      | error problem => simp [Shape.read, body, bind, Except.bind] at read
      | ok filled =>
          cases fault with
          | some problem => simp [Shape.read, body, bind, Except.bind] at read
          | none =>
              simp only [Shape.read, body, bind, Except.bind, pure, Except.pure,
                Except.ok.injEq] at read
              subst read
              exact (view.filled_readMembers body).2 label List.not_mem_nil
  | list items fault =>
      cases body : shape.readItems target shape.labels items with
      | error problem => simp [Shape.read, body, bind, Except.bind] at read
      | ok filled =>
          cases fault with
          | some problem => simp [Shape.read, body, bind, Except.bind] at read
          | none =>
              simp only [Shape.read, body, bind, Except.bind, pure, Except.pure,
                Except.ok.injEq] at read
              subst read
              exact view.filled_readItems view.distinct body label
  | null => cases read
  | boolean value => cases read
  | numeral value => cases read
  | string value => cases read
  | broken flaw => cases read

end Shape

namespace Field

/-- What a field holds. -/
abbrev Content : Field → Type
  | .program => Text
  | .scriptArguments => List Text
  | .extension => Text
  | .filePrefix => Text
  | .timeoutSeconds => Option Nat

def get (config : Config) : (field : Field) → field.Content
  | .program => config.program
  | .scriptArguments => config.scriptArguments
  | .extension => config.extension
  | .filePrefix => config.filePrefix
  | .timeoutSeconds => config.timeoutSeconds

/-- The content for a field that a value stands for. -/
def read (value : Json.Value) : (field : Field) → Except Json.Fault field.Content
  | .program => value.asText
  | .scriptArguments => value.asTexts
  | .extension => value.asText
  | .filePrefix => value.asText
  | .timeoutSeconds => value.asCount

variable {config next : Config} {value : Json.Value} {field other : Field}

theorem read_of_set (written : field.set config value = .ok next) :
    field.read value = .ok (field.get next) := by
  cases field with
  | program | extension | filePrefix =>
      simp only [set] at written
      cases text : value.asText with
      | error fault => simp [text, Except.map] at written
      | ok content =>
          simp only [text, Except.map, Except.ok.injEq] at written
          subst written
          exact text
  | scriptArguments =>
      simp only [set] at written
      cases texts : value.asTexts with
      | error fault => simp [texts, Except.map] at written
      | ok content =>
          simp only [texts, Except.map, Except.ok.injEq] at written
          subst written
          exact texts
  | timeoutSeconds =>
      simp only [set] at written
      cases count : value.asCount with
      | error fault => simp [count, Except.map] at written
      | ok content =>
          simp only [count, Except.map, Except.ok.injEq] at written
          subst written
          exact count

theorem get_of_set (written : field.set config value = .ok next) (differs : other ≠ field) :
    other.get next = other.get config := by
  cases field <;> simp only [set, Except.map] at written <;> split at written <;>
    cases written <;> cases other <;> first | rfl | exact absurd rfl differs

end Field

def fieldView : interpreterShape.View where
  Content := Field.Content
  get := fun field config => field.get config
  put := fun field _ value => field.read value
  distinct := by decide
  put_get := Field.read_of_set
  get_other := Field.get_of_set

def wholeView : documentShape.View where
  Content := fun _ => Config
  get := fun _ config => config
  put := fun _ config value => interpreterShape.read config value
  distinct := by decide
  put_get := fun written => written
  get_other := fun _ differs => absurd rfl differs

def said? (text : Text) (field : Field) : Option Json.Value :=
  (documentShape.part? () (Json.readValue (Json.tokens text)).1).bind
    (interpreterShape.part? field)

/-- What a file says about a field. -/
inductive Says (text : Text) (field : Field) : Option field.Content → Prop where
  | silent : said? text field = none → Says text field none
  | filled {value : Json.Value} {content : field.Content} :
      said? text field = some value → field.read value = .ok content →
      Says text field (some content)

/-- A file that can be decoded decides the fields about which it says something. -/
theorem exists_says_of_decode {text : Text} {config : Config} (decoded : decode text = .ok config)
    (field : Field) :
    ∃ content?, Says text field content? ∧
      field.get config = content?.getD (field.get builtIn) := by
  unfold decode at decoded
  cases whole : documentShape.read builtIn (Json.readValue (Json.tokens text)).1 with
  | error fault => simp [whole, bind, Except.bind] at decoded
  | ok result =>
      simp only [whole, bind, Except.bind] at decoded
      split at decoded
      · cases decoded
      · cases decoded
        have filled := wholeView.filled_read whole ()
        cases described : documentShape.part? () (Json.readValue (Json.tokens text)).1 with
        | none =>
            rw [described] at filled
            have same : config = builtIn := filled
            have nothing : said? text field = none := by simp [said?, described]
            exact ⟨none, .silent nothing, congrArg field.get same⟩
        | some description =>
            rw [described] at filled
            have filledField := fieldView.filled_read filled field
            cases part : interpreterShape.part? field description with
            | none =>
                rw [part] at filledField
                have nothing : said? text field = none := by simp [said?, described, part]
                exact ⟨none, .silent nothing, filledField⟩
            | some value =>
                rw [part] at filledField
                have found : said? text field = some value := by simp [said?, described, part]
                exact ⟨some (field.get config), .filled found filledField, rfl⟩

end ScriptDesk.Config
