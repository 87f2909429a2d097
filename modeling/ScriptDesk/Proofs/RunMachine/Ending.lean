import Mathlib.Data.List.Count
import Mathlib.Data.List.Induction
import Mathlib.Data.List.Nodup
import ScriptDesk.Proofs.RunMachine.Consistency

/-!
# Ends of runs

A history is the row of uses of a machine, each with its answer.  `Live` reads
off a history alone which run may be ended: the one that was begun last, unless
it was ended or the machine was reset since.  The machine keeps the same run in
a field.  The two agree after every use, hence after every history.

A run becomes live when it is handed out, and to end it makes it no longer
live.  So it is ended at most as often as it was handed out.
-/

namespace ScriptDesk

namespace RunMachine

/-- A use of the machine with its answer. -/
structure Event where
  operation : Operation
  answer : Answer

def Operation.reported? : Operation → Option RunId
  | .complete run _ => some run
  | .abandon run _ => some run
  | _ => none

namespace Event

/-- The run that is handed out: its beginning was accepted. -/
def begun? : Event → Option RunId
  | ⟨.beginRun run _, .accepted true⟩ => some run
  | _ => none

/-- The run that is ended: the report of its end was accepted. -/
def ended? : Event → Option RunId
  | ⟨operation, .accepted true⟩ => operation.reported?
  | _ => none

end Event

def history (machine : RunMachine) : List Operation → List Event
  | [] => []
  | operation :: operations =>
    ⟨operation, (machine.apply operation).2⟩ ::
      (machine.apply operation).1.history operations

def Since (starts keeps : Event → Prop) (past : List Event) : Prop :=
  ∃ earlier first later, past = earlier ++ first :: later ∧ starts first ∧
    ∀ event ∈ later, keeps event

theorem since_concat_iff {starts keeps : Event → Prop} {past : List Event} {event : Event} :
    Since starts keeps (past ++ [event]) ↔
      starts event ∨ keeps event ∧ Since starts keeps past := by
  constructor
  · rintro ⟨earlier, first, later, split, started, kept⟩
    rcases List.eq_nil_or_concat later with rfl | ⟨later, last, rfl⟩
    · obtain ⟨-, same⟩ := List.append_inj' split rfl
      cases same
      exact .inl started
    · rw [List.concat_eq_append, ← List.cons_append, ← List.append_assoc] at split
      obtain ⟨rfl, same⟩ := List.append_inj' split rfl
      cases same
      refine .inr ⟨kept event (by simp), earlier, first, later, rfl, started, ?_⟩
      intro other member
      exact kept other (by simp [member])
  · rintro (started | ⟨kept, earlier, first, later, rfl, started, keptBefore⟩)
    · exact ⟨past, event, [], rfl, started, by simp⟩
    · refine ⟨earlier, first, later ++ [event], by simp, started, ?_⟩
      intro other member
      rcases List.mem_append.mp member with before | last
      · exact keptBefore other before
      · rw [List.mem_singleton.mp last]
        exact kept

/-- The run was handed out by the last beginning that was accepted, and since then no end
was accepted and the machine was not reset. -/
def Live (past : List Event) (run : RunId) : Prop :=
  ∃ earlier begun later, past = earlier ++ begun :: later ∧ begun.begun? = some run ∧
    ∀ event ∈ later, event.begun? = none ∧ event.ended? = none ∧
      event.operation ≠ .reset

namespace Event

def liveAfter (live : Option RunId) (event : Event) : Option RunId :=
  match event.begun?, event.ended?, event.operation with
  | some run, _, _ => some run
  | none, some _, _ => none
  | none, none, .reset => none
  | none, none, _ => live

theorem liveAfter_eq_some_iff {live : Option RunId} {event : Event} {run : RunId} :
    event.liveAfter live = some run ↔
      event.begun? = some run ∨
        (event.begun? = none ∧ event.ended? = none ∧ event.operation ≠ .reset) ∧
          live = some run := by
  cases begun : event.begun? with
  | some other => simp [liveAfter, begun]
  | none =>
      cases ended : event.ended? with
      | some other => simp [liveAfter, begun, ended]
      | none => cases operation : event.operation <;> simp [liveAfter, begun, ended, operation]

end Event

theorem live_concat_iff {past : List Event} {event : Event} {run : RunId} :
    Live (past ++ [event]) run ↔
      event.begun? = some run ∨
        (event.begun? = none ∧ event.ended? = none ∧ event.operation ≠ .reset) ∧
          Live past run :=
  since_concat_iff

theorem foldl_liveAfter_eq_some_iff {past : List Event} {run : RunId} :
    past.foldl Event.liveAfter none = some run ↔ Live past run := by
  induction past using List.reverseRecOn with
  | nil => simp [Live]
  | append_singleton past event induction =>
      rw [List.foldl_concat, Event.liveAfter_eq_some_iff, live_concat_iff, induction]

variable {machine : RunMachine} {operation : Operation} {run : RunId}

/-- A report is accepted for the run in flight alone. -/
theorem apply_of_reported? (machine : RunMachine)
    (reported : operation.reported? = some run) :
    ∃ state, machine.apply operation =
      if machine.isInFlight run then (machine.ended state, .accepted true)
      else (machine, .accepted false) := by
  have finished : ∀ state, ((machine.finish run state).1,
      Answer.accepted (machine.finish run state).2) =
        if machine.isInFlight run then (machine.ended state, .accepted true)
        else (machine, .accepted false) := by
    intro state
    unfold finish
    split <;> rfl
  cases operation with
  | complete other outcome =>
      cases reported
      exact ⟨_, finished _⟩
  | abandon other reason =>
      cases reported
      exact ⟨_, finished _⟩
  | beginRun other script => cases reported
  | reset => cases reported
  | activateDiagnostic => cases reported
  | takeRequest => cases reported

theorem ended?_eq_some_iff :
    (Event.mk operation (machine.apply operation).2).ended? = some run ↔
      operation.reported? = some run ∧ machine.isInFlight run = true := by
  constructor
  · intro ended
    have reported : operation.reported? = some run := by
      cases answer : (machine.apply operation).2 with
      | accepted yes =>
          rw [answer] at ended
          cases yes with
          | true => exact ended
          | false => cases ended
      | request position => simp [answer, Event.ended?] at ended
      | nothing => simp [answer, Event.ended?] at ended
    refine ⟨reported, ?_⟩
    obtain ⟨state, applied⟩ := machine.apply_of_reported? reported
    by_contra other
    rw [applied, if_neg other] at ended
    cases ended
  · rintro ⟨reported, inFlight⟩
    obtain ⟨state, applied⟩ := machine.apply_of_reported? reported
    rw [applied, if_pos inFlight]
    exact reported

/-- The run that the machine keeps is the one that is live. -/
theorem currentRun_apply (machine : RunMachine) (operation : Operation) :
    (machine.apply operation).1.currentRun =
      Event.liveAfter machine.currentRun ⟨operation, (machine.apply operation).2⟩ := by
  cases operation with
  | beginRun run script =>
      simp only [apply, beginRun]
      split <;> rfl
  | complete run outcome =>
      simp only [apply, complete, finish]
      split <;> rfl
  | abandon run reason =>
      simp only [apply, abandon, finish]
      split <;> rfl
  | reset => rfl
  | activateDiagnostic =>
      simp only [apply, activateDiagnostic]
      split <;> rfl
  | takeRequest => rfl

theorem currentRun_applyAll (machine : RunMachine) (operations : List Operation) :
    (machine.applyAll operations).currentRun =
      (machine.history operations).foldl Event.liveAfter machine.currentRun := by
  induction operations generalizing machine with
  | nil => rfl
  | cons operation operations induction =>
      rw [history, List.foldl_cons, ← currentRun_apply]
      exact induction _

theorem live_history_iff (grammar : Grammar) (operations : List Operation) :
    Live ((new grammar).history operations) run ↔
      ((new grammar).applyAll operations).currentRun = some run := by
  rw [← foldl_liveAfter_eq_some_iff, currentRun_applyAll]
  rfl

theorem isInFlight_iff_live (grammar : Grammar) (operations : List Operation) :
    ((new grammar).applyAll operations).isInFlight run = true ↔
      Live ((new grammar).history operations) run := by
  have consistent := (Consistent.new grammar).applyAll operations
  rw [live_history_iff, isInFlight_iff]
  constructor
  · exact fun inFlight => inFlight.2
  · intro current
    refine ⟨consistent.running_iff.mpr ?_, current⟩
    rw [current]
    rfl

/-- What is spent along a history is covered by what is earned and by the credit at its
beginning, if this holds of every single use. -/
theorem countP_history_le {spends earns : Event → Bool} (credit : RunMachine → Nat)
    (covered : ∀ (machine : RunMachine) (operation : Operation),
      [Event.mk operation (machine.apply operation).2].countP spends +
          credit (machine.apply operation).1 ≤
        credit machine + [Event.mk operation (machine.apply operation).2].countP earns)
    (machine : RunMachine) (operations : List Operation) :
    (machine.history operations).countP spends ≤
      credit machine + (machine.history operations).countP earns := by
  induction operations generalizing machine with
  | nil => exact Nat.zero_le _
  | cons operation operations induction =>
      have step := covered machine operation
      have later := induction (machine.apply operation).1
      rw [history, ← List.singleton_append, List.countP_append, List.countP_append]
      omega

/-- How often a run is handed out. -/
def beginnings (past : List Event) (run : RunId) : Nat :=
  (past.filterMap Event.begun?).count run

/-- How often a run is ended. -/
def endings (past : List Event) (run : RunId) : Nat :=
  (past.filterMap Event.ended?).count run

/-- One if the machine keeps the run, and zero otherwise. -/
def credit (machine : RunMachine) (run : RunId) : Nat :=
  machine.currentRun.toList.count run

theorem begun?_of_ended? {event : Event} (ended : event.ended? = some run) :
    event.begun? = none := by
  obtain ⟨operation, answer⟩ := event
  cases operation with
  | beginRun other script =>
      unfold Event.ended? at ended
      split at ended
      case h_1 _ _ same =>
        cases same
        cases ended
      case h_2 => cases ended
  | complete other outcome => rfl
  | abandon other reason => rfl
  | reset => rfl
  | activateDiagnostic => rfl
  | takeRequest => rfl

/-- An end uses up the credit that the beginning has given. -/
theorem endings_add_credit_le (machine : RunMachine) (operation : Operation)
    (run : RunId) :
    endings [⟨operation, (machine.apply operation).2⟩] run +
        (machine.apply operation).1.credit run ≤
      machine.credit run + beginnings [⟨operation, (machine.apply operation).2⟩] run := by
  unfold credit
  rw [currentRun_apply]
  cases ended : (Event.mk operation (machine.apply operation).2).ended? with
  | some other =>
      have kept := (isInFlight_iff.mp (ended?_eq_some_iff.mp ended).2).2
      have notBegun := begun?_of_ended? ended
      simp [endings, beginnings, Event.liveAfter, ended, notBegun, kept]
  | none =>
      cases begun : (Event.mk operation (machine.apply operation).2).begun? with
      | some other => simp [endings, beginnings, Event.liveAfter, ended, begun]
      | none =>
          simp only [endings, beginnings, Event.liveAfter, ended, begun,
            List.filterMap_cons_none, List.filterMap_nil, List.count_nil]
          split <;> simp_all

theorem endings_history_le (machine : RunMachine) (operations : List Operation)
    (run : RunId) :
    endings (machine.history operations) run ≤
      machine.credit run + beginnings (machine.history operations) run := by
  have covered := fun (machine : RunMachine) (operation : Operation) =>
    machine.endings_add_credit_le operation run
  simp only [endings, beginnings, List.count_filterMap] at covered ⊢
  exact countP_history_le (fun machine => machine.credit run) covered machine operations

theorem apply_eq_self_of_refused
    (refused : (machine.apply operation).2 = .accepted false) :
    (machine.apply operation).1 = machine := by
  cases operation with
  | beginRun run script =>
      simp only [apply, beginRun] at refused ⊢
      split at refused <;> simp_all
  | complete run outcome =>
      simp only [apply, complete, finish] at refused ⊢
      split at refused <;> simp_all
  | abandon run reason =>
      simp only [apply, abandon, finish] at refused ⊢
      split at refused <;> simp_all
  | reset => cases refused
  | activateDiagnostic =>
      simp only [apply, activateDiagnostic] at refused ⊢
      split at refused <;> simp_all
  | takeRequest => cases refused

/-- A run is ended at most once, and only by a report about itself.  After any history, a
report is accepted exactly if its run is live.  A use that is refused changes nothing.
And if no run is handed out twice, none is ended twice. -/
theorem run_ended_at_most_once (grammar : Grammar) (operations : List Operation) :
    (∀ operation run, operation.reported? = some run →
      ∃ accepted,
        (((new grammar).applyAll operations).apply operation).2 = .accepted accepted ∧
          (accepted = true ↔ Live ((new grammar).history operations) run)) ∧
    (∀ operation,
      (((new grammar).applyAll operations).apply operation).2 = .accepted false →
        (((new grammar).applyAll operations).apply operation).1 =
          (new grammar).applyAll operations) ∧
    ((((new grammar).history operations).filterMap Event.begun?).Nodup →
      ∀ run, endings ((new grammar).history operations) run ≤ 1) := by
  refine ⟨?_, fun _ refused => apply_eq_self_of_refused refused, ?_⟩
  · intro operation run reported
    obtain ⟨state, applied⟩ :=
      ((new grammar).applyAll operations).apply_of_reported? reported
    refine ⟨((new grammar).applyAll operations).isInFlight run, ?_,
      isInFlight_iff_live grammar operations⟩
    rw [applied]
    split <;> simp_all
  · intro distinct run
    have once := List.nodup_iff_count_le_one.mp distinct run
    have bounded := (new grammar).endings_history_le operations run
    have noCredit : (new grammar).credit run = 0 := rfl
    rw [noCredit, Nat.zero_add] at bounded
    exact Nat.le_trans bounded once

/-- A run that was given up, and a second one that is still in flight. -/
def secondInFlight : List Operation :=
  [.beginRun 0 ['a'], .abandon 0 [], .beginRun 1 ['b'], .beginRun 2 ['c']]

/-- The second run can be ended, a late outcome of the first changes nothing, and the
first was ended once. -/
theorem run_ended_at_most_once_late_report :
    Live ((new fun _ => none).history secondInFlight) 1 ∧
      (((new fun _ => none).applyAll secondInFlight).apply
        (.complete 1 (.ok (.success [] 0)))).2 = .accepted true ∧
      (((new fun _ => none).applyAll secondInFlight).apply
        (.complete 0 (.ok (.success [] 0)))).1 =
          (new fun _ => none).applyAll secondInFlight ∧
      (((new fun _ => none).history secondInFlight).filterMap Event.begun?).Nodup ∧
      endings ((new fun _ => none).history secondInFlight) 0 ≤ 1 := by
  obtain ⟨answers, unchanged, atMostOnce⟩ :=
    run_ended_at_most_once (fun _ => none) secondInFlight
  have live : Live ((new fun _ => none).history secondInFlight) 1 :=
    ⟨[⟨.beginRun 0 ['a'], .accepted true⟩, ⟨.abandon 0 [], .accepted true⟩],
      ⟨.beginRun 1 ['b'], .accepted true⟩, [⟨.beginRun 2 ['c'], .accepted false⟩], rfl, rfl,
      by simp [Event.begun?, Event.ended?]⟩
  obtain ⟨accepted, answer, acceptedIff⟩ :=
    answers (.complete 1 (.ok (.success [] 0))) 1 rfl
  rw [acceptedIff.mpr live] at answer
  have distinct :
      (((new fun _ => none).history secondInFlight).filterMap Event.begun?).Nodup := by
    decide
  exact ⟨live, answer, unchanged _ rfl, distinct, atMostOnce distinct 0⟩

end RunMachine

end ScriptDesk
