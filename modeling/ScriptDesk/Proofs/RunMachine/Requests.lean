import ScriptDesk.Proofs.Diagnostic.Recognition
import ScriptDesk.Proofs.RunMachine.Ending

/-!
# Requests for the caret

`Requested` reads off a history alone whether a request waits: a diagnostic was
activated, and since then no request was taken, no run was begun, and the
machine was not reset.  The machine keeps the request itself.  The two agree
after every history.

A use that leaves a request waiting leaves the whole machine as it is: the run
is over, so that no end of it is accepted, and a further activation requests
the same place.  Hence a request that is handed out is about the state that the
machine is in, and it was activated in that state.
-/

namespace ScriptDesk

namespace RunMachine

namespace Event

def activates : Event → Bool
  | ⟨.activateDiagnostic, .accepted true⟩ => true
  | _ => false

/-- No request outlasts the event: requests were taken, a run was begun, or the machine was
reset. -/
def clears : Event → Bool
  | ⟨.takeRequest, _⟩ => true
  | ⟨.beginRun _ _, .accepted true⟩ => true
  | ⟨.reset, _⟩ => true
  | _ => false

/-- A request was handed out. -/
def delivers : Event → Bool
  | ⟨.takeRequest, .request (some _)⟩ => true
  | _ => false

theorem operation_of_activates {event : Event} (activated : event.activates = true) :
    event = ⟨.activateDiagnostic, .accepted true⟩ := by
  unfold activates at activated
  split at activated
  · rfl
  · cases activated

end Event

/-- A diagnostic was activated, and no event since then has cleared the request. -/
def Requested (past : List Event) : Prop :=
  Since (fun event => event.activates = true) (fun event => event.clears = false) past

theorem requested_concat_iff {past : List Event} {event : Event} :
    Requested (past ++ [event]) ↔
      event.activates = true ∨ event.clears = false ∧ Requested past :=
  since_concat_iff

variable {grammar : Grammar} {machine : RunMachine} {operation : Operation}
variable {operations : List Operation} {request : Position}

theorem applyAll_cons (machine : RunMachine) (operation : Operation)
    (operations : List Operation) :
    machine.applyAll (operation :: operations) =
      (machine.apply operation).1.applyAll operations :=
  rfl

theorem applyAll_append (machine : RunMachine) (first second : List Operation) :
    machine.applyAll (first ++ second) = (machine.applyAll first).applyAll second :=
  List.foldl_append

theorem history_append (machine : RunMachine) (first second : List Operation) :
    machine.history (first ++ second) =
      machine.history first ++ (machine.applyAll first).history second := by
  induction first generalizing machine with
  | nil => rfl
  | cons operation first induction =>
      rw [List.cons_append, history, induction]
      rfl

theorem length_history (machine : RunMachine) (operations : List Operation) :
    (machine.history operations).length = operations.length := by
  induction operations generalizing machine with
  | nil => rfl
  | cons operation operations induction => rw [history, List.length_cons, induction,
      List.length_cons]

/-- A part of a history is the history of a part of the operations. -/
theorem exists_of_history_eq_append {past later : List Event}
    (split : machine.history operations = past ++ later) :
    ∃ first second, operations = first ++ second ∧ machine.history first = past ∧
      (machine.applyAll first).history second = later := by
  have parted := machine.history_append (operations.take past.length)
    (operations.drop past.length)
  rw [List.take_append_drop, split] at parted
  have within : past.length ≤ operations.length := by
    rw [← length_history machine, split, List.length_append]
    exact Nat.le_add_right _ _
  have sameLength :
      past.length = (machine.history (operations.take past.length)).length := by
    rw [length_history, List.length_take, Nat.min_eq_left within]
  obtain ⟨first, second⟩ := List.append_inj parted sameLength
  exact ⟨_, _, (List.take_append_drop _ _).symm, first.symm, second.symm⟩

theorem isSome_pendingRequest_apply (machine : RunMachine) (operation : Operation) :
    (machine.apply operation).1.pendingRequest.isSome = true ↔
      (Event.mk operation (machine.apply operation).2).activates = true ∨
        (Event.mk operation (machine.apply operation).2).clears = false ∧
          machine.pendingRequest.isSome = true := by
  cases operation with
  | beginRun run script =>
      simp only [apply, beginRun]
      split <;> simp [Event.activates, Event.clears]
  | complete run outcome =>
      simp only [apply, complete, finish]
      split <;> simp [Event.activates, Event.clears]
  | abandon run reason =>
      simp only [apply, abandon, finish]
      split <;> simp [Event.activates, Event.clears]
  | reset => simp [apply, reset, new, Event.activates, Event.clears]
  | activateDiagnostic =>
      simp only [apply, activateDiagnostic]
      split <;> simp [Event.activates, Event.clears]
  | takeRequest => simp [apply, takeRequest, Event.activates, Event.clears]

theorem isSome_pendingRequest_iff (grammar : Grammar) (operations : List Operation) :
    ((new grammar).applyAll operations).pendingRequest.isSome = true ↔
      Requested ((new grammar).history operations) := by
  induction operations using List.reverseRecOn with
  | nil => simp [applyAll, new, history, Requested, Since]
  | append_singleton operations operation induction =>
      rw [history_append, applyAll_append]
      refine (isSome_pendingRequest_apply _ _).trans ?_
      rw [induction]
      exact requested_concat_iff.symm

theorem Consistent.apply_eq_self (consistent : Consistent grammar machine)
    (waiting : machine.pendingRequest = some request)
    (kept : (Event.mk operation (machine.apply operation).2).clears = false) :
    (machine.apply operation).1 = machine := by
  obtain ⟨output, exitCode, diagnostic, failed, line, column⟩ :=
    consistent.request_reported request waiting
  have notRunning : machine.state.isRunning = false := by
    rw [failed]
    rfl
  have other : ∀ run, machine.isInFlight run = false := by
    intro run
    rw [isInFlight, notRunning, Bool.false_and]
  cases operation with
  | beginRun run script =>
      simp only [RunMachine.apply, beginRun_of_idle run script notRunning] at kept
      cases kept
  | complete run outcome =>
      simp only [RunMachine.apply, RunMachine.complete, finish_of_not_inFlight _ (other run)]
  | abandon run reason =>
      simp only [RunMachine.apply, RunMachine.abandon, finish_of_not_inFlight _ (other run)]
  | reset => cases kept
  | activateDiagnostic =>
      have reported : machine.state.diagnostic? = some diagnostic := by
        rw [failed]
        rfl
      have same : diagnostic.position = request := by
        simp only [Diagnostic.position, line, column]
      simp only [RunMachine.apply, RunMachine.activateDiagnostic, reported, same, ← waiting]
  | takeRequest => cases kept

/-- While a request waits, nothing changes. -/
theorem Consistent.applyAll_eq_self (consistent : Consistent grammar machine)
    (waiting : machine.pendingRequest = some request)
    (kept : ∀ event ∈ machine.history operations, event.clears = false) :
    machine.applyAll operations = machine := by
  induction operations with
  | nil => rfl
  | cons operation operations induction =>
      rw [history, List.forall_mem_cons] at kept
      have same := consistent.apply_eq_self waiting kept.1
      rw [same] at kept
      rw [applyAll_cons, same]
      exact induction kept.2

/-- After an activation that is accepted, the machine stays as it is until the request is
cleared. -/
theorem Consistent.applyAll_activateDiagnostic {next : RunMachine}
    (consistent : Consistent grammar machine)
    (accepted : machine.activateDiagnostic = (next, true))
    (kept : ∀ event ∈ next.history operations, event.clears = false) :
    machine.applyAll (.activateDiagnostic :: operations) = next := by
  have left : (machine.apply .activateDiagnostic).1 = next := congrArg Prod.fst accepted
  have consistentStill : Consistent grammar next := by
    rw [← left]
    exact consistent.apply .activateDiagnostic
  have waiting : ∃ request, next.pendingRequest = some request := by
    unfold RunMachine.activateDiagnostic at accepted
    split at accepted
    case h_1 diagnostic _ =>
      cases accepted
      exact ⟨diagnostic.position, rfl⟩
    case h_2 => cases accepted
  obtain ⟨request, pending⟩ := waiting
  rw [applyAll_cons, left]
  exact consistentStill.applyAll_eq_self pending kept

/-- What has requested the caret is an activation that left the machine as it is now. -/
theorem exists_activation (requested : Requested ((new grammar).history operations)) :
    ∃ earlier later, operations = earlier ++ .activateDiagnostic :: later ∧
      ((new grammar).applyAll earlier).activateDiagnostic =
        ((new grammar).applyAll operations, true) ∧
      ∀ event ∈ ((new grammar).applyAll operations).history later, event.clears = false := by
  obtain ⟨past, activation, since, split, activated, kept⟩ := requested
  obtain ⟨earlier, rest, rfl, -, restHistory⟩ := exists_of_history_eq_append split
  cases rest with
  | nil => cases restHistory
  | cons operation later =>
      obtain ⟨same, laterHistory⟩ := List.cons.inj restHistory
      rw [Event.operation_of_activates activated] at same
      obtain ⟨rfl, answer⟩ := Event.mk.inj same
      cases left : ((new grammar).applyAll earlier).activateDiagnostic with
      | mk next accepted =>
          have accepts : accepted = true := by
            simpa only [apply, left, Answer.accepted.injEq] using answer
          have nextHistory : next.history later = since := by
            simpa only [apply, left] using laterHistory
          rw [accepts] at left
          rw [← nextHistory] at kept
          have unchanged := (consistent_after_history grammar earlier).applyAll_activateDiagnostic
            left kept
          rw [applyAll_append, unchanged]
          exact ⟨earlier, later, rfl, left, kept⟩

/-- A request that is handed out was waiting, and it waits no longer. -/
theorem delivers_add_waiting_le (machine : RunMachine) (operation : Operation) :
    [Event.mk operation (machine.apply operation).2].countP Event.delivers +
        (machine.apply operation).1.pendingRequest.toList.length ≤
      machine.pendingRequest.toList.length +
        [Event.mk operation (machine.apply operation).2].countP Event.activates := by
  cases operation with
  | beginRun run script =>
      simp only [apply, beginRun]
      split <;> simp [Event.delivers, Event.activates]
  | complete run outcome =>
      simp only [apply, complete, finish]
      split <;> simp [Event.delivers, Event.activates]
  | abandon run reason =>
      simp only [apply, abandon, finish]
      split <;> simp [Event.delivers, Event.activates]
  | reset => simp [apply, reset, new, Event.delivers, Event.activates]
  | activateDiagnostic =>
      simp only [apply, activateDiagnostic]
      split <;> simp [Event.delivers, Event.activates]
  | takeRequest =>
      cases waiting : machine.pendingRequest <;>
        simp [apply, takeRequest, waiting, Event.delivers, Event.activates]

/-- A request for the caret is handed out at most once for each activation, and it is never
out of date.  A request is handed out exactly if a diagnostic was activated and no event
since then has cleared the request.  It is the place of the diagnostic of the failed script
that the state reports, and the activation has left the machine as it is now. -/
theorem request_delivered_once (grammar : Grammar) (operations : List Operation) :
    (((new grammar).applyAll operations).takeRequest.2.isSome = true ↔
      Requested ((new grammar).history operations)) ∧
    (∀ request, ((new grammar).applyAll operations).takeRequest.2 = some request →
      (∃ output exitCode diagnostic,
        ((new grammar).applyAll operations).state =
          .failed (.script output exitCode (some diagnostic)) ∧
        request.line = diagnostic.line ∧ request.column = diagnostic.column) ∧
      (∀ limit extension, Diagnostic.grammar? limit extension = some grammar →
        1 ≤ request.line ∧ 1 ≤ request.column) ∧
      ∃ earlier later, operations = earlier ++ .activateDiagnostic :: later ∧
        ((new grammar).applyAll earlier).activateDiagnostic =
          ((new grammar).applyAll operations, true) ∧
        ∀ event ∈ ((new grammar).applyAll operations).history later,
          event.clears = false) ∧
    (((new grammar).applyAll operations).takeRequest.1.state =
        ((new grammar).applyAll operations).state ∧
      ((new grammar).applyAll operations).takeRequest.1.currentRun =
        ((new grammar).applyAll operations).currentRun ∧
      ((new grammar).applyAll operations).takeRequest.1.snapshot =
        ((new grammar).applyAll operations).snapshot) ∧
    ((new grammar).history operations).countP Event.delivers ≤
      ((new grammar).history operations).countP Event.activates := by
  have consistent := consistent_after_history grammar operations
  have waitingIff := isSome_pendingRequest_iff grammar operations
  refine ⟨waitingIff, ?_, ⟨rfl, rfl, rfl⟩, ?_⟩
  · intro request taken
    have waiting : ((new grammar).applyAll operations).pendingRequest = some request := taken
    obtain ⟨output, exitCode, diagnostic, failed, line, column⟩ :=
      consistent.request_reported request waiting
    refine ⟨⟨output, exitCode, diagnostic, failed, line.symm, column.symm⟩, ?_,
      exists_activation (waitingIff.mp (Option.isSome_of_eq_some waiting))⟩
    intro limit extension built
    have found := consistent.diagnostic_eq output exitCode (some diagnostic) failed
    rw [← line, ← column]
    exact Diagnostic.positive_of_grammar? built found.symm
  · have covered := countP_history_le (fun machine => machine.pendingRequest.toList.length)
      delivers_add_waiting_le (new grammar) operations
    simpa [new] using covered

/-- A failed run whose diagnostic is activated twice, with a late report in between. -/
def activatedTwice : List Operation :=
  [.beginRun 0 ['x'], .complete 0 (.ok (.failure "a.kts:2:5: error: b".toList 1)),
    .activateDiagnostic, .abandon 0 [], .activateDiagnostic]

/-- The two activations leave one request, for the place that the output reports. -/
theorem request_delivered_once_activated_twice :
    Diagnostic.grammar? 3 "kts".toList = some (Diagnostic.grammar "kts".toList) ∧
      ((new (Diagnostic.grammar "kts".toList)).applyAll activatedTwice).takeRequest.2 =
        some ⟨2, 5⟩ ∧
      Requested ((new (Diagnostic.grammar "kts".toList)).history activatedTwice) ∧
      (∃ output exitCode diagnostic,
        ((new (Diagnostic.grammar "kts".toList)).applyAll activatedTwice).state =
          .failed (.script output exitCode (some diagnostic)) ∧
        2 = diagnostic.line ∧ 5 = diagnostic.column) ∧
      1 ≤ 2 ∧ 1 ≤ 5 := by
  have built : Diagnostic.grammar? 3 "kts".toList = some (Diagnostic.grammar "kts".toList) := rfl
  have taken : ((new (Diagnostic.grammar "kts".toList)).applyAll activatedTwice).takeRequest.2 =
      some ⟨2, 5⟩ := by
    decide +kernel
  obtain ⟨requestedIff, current, -, -⟩ :=
    request_delivered_once (Diagnostic.grammar "kts".toList) activatedTwice
  obtain ⟨reported, positive, -⟩ := current ⟨2, 5⟩ taken
  have requested := requestedIff.mp (Option.isSome_of_eq_some taken)
  exact ⟨built, taken, requested, reported, positive _ _ built⟩

end RunMachine

end ScriptDesk
