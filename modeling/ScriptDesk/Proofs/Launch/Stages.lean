import ScriptDesk.Launch

/-!
# Stages of a launch

A launch goes through ten stages.  `Steps.stop?` says for each of them by itself what
stops a launch there, whatever comes before or after.  A launch stops at the first stage
at which something does, or it completes.

Each part of a launch is described by a relation with one constructor for each way in
which its scope can be left: which locals are held then, and what has been done.  Put
together, these are the five ends that `Ends` lists.  Every launch has one of them, and all
that is said about files, processes and groups is read off them.
-/

namespace ScriptDesk

namespace Launch

/-- The stages of a launch. -/
inductive Stage where
  | resolve
  | create
  | write
  | flush
  | pipe
  | clone
  | spawn
  | exit
  | join
  | read
deriving DecidableEq

/-- The place of a stage among all of them. -/
def Stage.number : Stage → Nat
  | .resolve => 0
  | .create => 1
  | .write => 2
  | .flush => 3
  | .pipe => 4
  | .clone => 5
  | .spawn => 6
  | .exit => 7
  | .join => 8
  | .read => 9

/-- What stops a launch at a step with this result. -/
def fails? {Fault Value : Type} (error : Fault → LaunchError) : Except Fault Value → Option Stop
  | .error fault => some (.fails (error fault))
  | .ok _ => none

namespace Steps

/-- The time limit, in seconds, that runs out during a wait. -/
def expired? (config : Config) (steps : Steps) (wait : Wait) : Option Nat :=
  match config.timeoutSeconds with
  | none => none
  | some seconds => if 0 < seconds ∧ steps.overdue = some wait then some seconds else none

/-- What stops a launch while it waits for a result. -/
def waitStop? {Value : Type} (config : Config) (steps : Steps) (wait : Wait)
    (result? : Option (Except Fault Value)) : Option Stop :=
  match steps.expired? config wait with
  | some seconds => some (.fails (.timedOut (seconds * 1000)))
  | none => result?.elim (some .dropped) (fails? .capture)

/-- What stops a launch at a stage that is reached. -/
def stop? (config : Config) (steps : Steps) : Stage → Option Stop
  | .resolve => fails? (.interpreterNotFound config.program) steps.resolve
  | .create => fails? .scriptFile steps.create
  | .write => fails? .scriptFile steps.write
  | .flush => fails? .scriptFile steps.flush
  | .pipe => fails? .capture steps.pipe
  | .clone => fails? .capture steps.clone
  | .spawn => fails? (.spawn config.program) steps.spawn
  | .exit => steps.waitStop? config .exit steps.exit
  | .join => steps.waitStop? config .capture steps.join
  | .read => fails? .capture steps.read

end Steps

variable {config : Config} {steps : Steps} {stage following : Stage} {stop other : Stop}

def Passes (config : Config) (steps : Steps) (stage : Stage) : Prop :=
  steps.stop? config stage = none

/-- Nothing stops the launch before the stage. -/
def Reaches (config : Config) (steps : Steps) (stage : Stage) : Prop :=
  ∀ earlier : Stage, earlier.number < stage.number → Passes config steps earlier

/-- The stage is the first one at which something stops the launch. -/
def StopsAt (config : Config) (steps : Steps) (stage : Stage) (stop : Stop) : Prop :=
  Reaches config steps stage ∧ steps.stop? config stage = some stop

/-- Nothing stops the launch. -/
def Completes (config : Config) (steps : Steps) : Prop :=
  ∀ stage, Passes config steps stage

theorem Stage.number_inj {first second : Stage} (same : first.number = second.number) :
    first = second := by
  cases first <;> cases second <;> first | rfl | cases same

theorem reaches_resolve : Reaches config steps .resolve := by
  intro earlier before
  cases before

theorem Reaches.next (reached : Reaches config steps stage)
    (passed : Passes config steps stage) (follows : following.number = stage.number + 1) :
    Reaches config steps following := by
  intro earlier before
  rw [follows] at before
  rcases Nat.lt_succ_iff_lt_or_eq.mp before with sooner | same
  · exact reached earlier sooner
  · rw [Stage.number_inj same]
    exact passed

theorem Reaches.completes (reached : Reaches config steps .read)
    (passed : Passes config steps .read) : Completes config steps := by
  intro stage
  rcases Nat.lt_or_ge stage.number Stage.read.number with sooner | notSooner
  · exact reached stage sooner
  · cases stage <;> first | exact passed | cases Nat.not_le_of_gt (by decide) notSooner

/-- At most one stage is the one at which a launch stops. -/
theorem StopsAt.unique {first second : Stage} (stopped : StopsAt config steps first stop)
    (again : StopsAt config steps second other) : first = second ∧ stop = other := by
  have sameStage : first = second := by
    rcases Nat.lt_trichotomy first.number second.number with before | same | after
    · have passed : steps.stop? config first = none := again.1 first before
      rw [stopped.2] at passed
      cases passed
    · exact Stage.number_inj same
    · have passed : steps.stop? config second = none := stopped.1 second after
      rw [again.2] at passed
      cases passed
  subst sameStage
  have sameStop := stopped.2.symm.trans again.2
  exact ⟨rfl, Option.some.inj sameStop⟩

theorem StopsAt.not_passes (stopped : StopsAt config steps stage stop) :
    ¬ Passes config steps stage := by
  intro passed
  rw [Passes, stopped.2] at passed
  cases passed

theorem StopsAt.not_completes (stopped : StopsAt config steps stage stop) :
    ¬ Completes config steps :=
  fun completed => stopped.not_passes (completed stage)

/-- Code that leaves the world as it is, and is stopped as given or yields a value. -/
inductive Yields {Value : Type} (code : Code Value) (stop? : Option Stop)
    (given : Value → Prop) : Prop where
  | stops {stop : Stop} (stopped : stop? = some stop)
      (ran : ∀ world, code.run world = .error stop world)
  | passes {value : Value} (passed : stop? = none) (gives : given value)
      (ran : ∀ world, code.run world = .ok value world)

theorem yields_attempt {Fault Value : Type} (error : Fault → LaunchError)
    (result : Except Fault Value) :
    Yields (Code.attempt error result) (fails? error result) fun value =>
      result = .ok value := by
  cases result with
  | error fault => exact .stops rfl fun _ => rfl
  | ok value => exact .passes rfl rfl fun _ => rfl

theorem expired?_eq (config : Config) (steps : Steps) (wait : Wait) :
    steps.expired? config wait =
      config.timeLimit?.filter fun _ => steps.overdue = some wait := by
  unfold Steps.expired? Config.timeLimit?
  cases config.timeoutSeconds with
  | none => rfl
  | some seconds =>
      by_cases positive : 0 < seconds <;> by_cases overdue : steps.overdue = some wait <;>
        simp [Option.filter, positive, overdue]

theorem yields_await {Value : Type} (result? : Option (Except Fault Value)) :
    Yields (Code.await .capture result?) (result?.elim (some .dropped) (fails? .capture))
      fun value => result? = some (.ok value) := by
  match result? with
  | none => exact .stops rfl fun _ => rfl
  | some (.error fault) => exact .stops rfl fun _ => rfl
  | some (.ok value) => exact .passes rfl rfl fun _ => rfl

theorem yields_awaitInTime {Value : Type} (config : Config) (steps : Steps) (wait : Wait)
    (result? : Option (Except Fault Value)) :
    Yields (awaitInTime config steps wait result?) (steps.waitStop? config wait result?)
      fun value => result? = some (.ok value) := by
  unfold Steps.waitStop? awaitInTime
  rw [expired?_eq]
  cases config.timeLimit? with
  | none => exact yields_await result?
  | some limit =>
      by_cases overdue : steps.overdue = some wait
      · simp only [overdue, Option.filter, decide_true, if_true]
        exact .stops rfl fun _ => rfl
      · simp only [overdue, Option.filter, decide_false, Bool.false_eq_true, if_false]
        exact yields_await result?

/-- How the script can be persisted. -/
inductive Persists (config : Config) (steps : Steps) (world : World) :
    EStateM.Result Stop World Local → Prop where
  | uncreated {stop : Stop} (stopped : StopsAt config steps .create stop) :
      Persists config steps world (.error stop world)
  | unwritten {stage : Stage} {stop : Stop} (stopped : StopsAt config steps stage stop)
      (created : Stage.create.number < stage.number)
      (early : stage.number ≤ Stage.flush.number) :
      Persists config steps world
        (.error stop { world with effects := world.effects ++ [.fileCreated, .fileRemoved] })
  | written (reached : Reaches config steps .pipe) :
      Persists config steps world
        (.ok .file { world with effects := world.effects ++ [.fileCreated] })

theorem Reaches.persists (reached : Reaches config steps .create) (world : World) :
    Persists config steps world ((persistScript steps).run world) := by
  cases yields_attempt .scriptFile steps.create with
  | @stops stop stopped ran =>
      have left : (persistScript steps).run world = .error stop world := by
        simp [persistScript, ran, World.leave]
      rw [left]
      exact .uncreated ⟨reached, stopped⟩
  | passes passed _ created =>
      have writing : Reaches config steps .write := reached.next passed rfl
      cases yields_attempt .scriptFile steps.write with
      | @stops stop stopped ran =>
          have left : (persistScript steps).run world = .error stop
              { world with effects := world.effects ++ [.fileCreated, .fileRemoved] } := by
            simp [persistScript, created, ran, World.leave, Local.drop]
          rw [left]
          exact .unwritten ⟨writing, stopped⟩ (by decide) (by decide)
      | passes passed _ written =>
          have flushing : Reaches config steps .flush := writing.next passed rfl
          cases yields_attempt .scriptFile steps.flush with
          | @stops stop stopped ran =>
              have left : (persistScript steps).run world = .error stop
                  { world with effects := world.effects ++ [.fileCreated, .fileRemoved] } := by
                simp [persistScript, created, written, ran, World.leave, Local.drop]
              rw [left]
              exact .unwritten ⟨flushing, stopped⟩ (by decide) (by decide)
          | passes passed _ flushed =>
              have left : (persistScript steps).run world =
                  .ok .file { world with effects := world.effects ++ [.fileCreated] } := by
                simp [persistScript, created, written, flushed, World.leave, Local.isFile]
              rw [left]
              exact .written (flushing.next passed rfl)

/-- How the interpreter can be started. -/
inductive Starts (config : Config) (steps : Steps) (world : World) :
    EStateM.Result Stop World Unit → Prop where
  | unstarted {stage : Stage} {stop : Stop} (stopped : StopsAt config steps stage stop)
      (created : Stage.create.number < stage.number)
      (early : stage.number ≤ Stage.spawn.number) :
      Starts config steps world (.error stop world)
  | started {id : ProcessId} (reached : Reaches config steps .exit)
      (spawned : steps.spawn = .ok id) :
      Starts config steps world
        (.ok ()
          { held := .group ⟨some id.number⟩ :: .process ⟨id, false⟩ :: world.held
            effects := world.effects ++ [.groupStarted id.number] })

theorem leading_started (id : ProcessId) :
    GroupGuard.leading ⟨id, false⟩ = ⟨some id.number⟩ := by
  simp [GroupGuard.leading, Child.number?, Option.filter, id.within]

theorem Reaches.starts (reached : Reaches config steps .pipe) (world : World) :
    Starts config steps world ((startInterpreter config steps).run world) := by
  unfold startInterpreter
  simp only [EStateM.run_bind]
  cases yields_attempt .capture steps.pipe with
  | stops stopped ran =>
      rw [ran]
      exact .unstarted ⟨reached, stopped⟩ (by decide) (by decide)
  | passes passed _ piped =>
      have cloning : Reaches config steps .clone := reached.next passed rfl
      simp only [piped]
      cases yields_attempt .capture steps.clone with
      | stops stopped ran =>
          rw [ran]
          exact .unstarted ⟨cloning, stopped⟩ (by decide) (by decide)
      | passes passed _ cloned =>
          have spawning : Reaches config steps .spawn := cloning.next passed rfl
          simp only [cloned]
          cases yields_attempt (.spawn config.program) steps.spawn with
          | stops stopped ran =>
              rw [ran]
              exact .unstarted ⟨spawning, stopped⟩ (by decide) (by decide)
          | passes passed spawned ran =>
              simp only [ran, Code.run_perform, Code.run_hold, leading_started]
              exact .started (spawning.next passed rfl) spawned

/-- How the run can be waited for. -/
inductive Awaits (config : Config) (steps : Steps) (world : World) :
    EStateM.Result Stop World (Octets × ExitStatus) → Prop where
  | running {stop : Stop} (stopped : StopsAt config steps .exit stop) :
      Awaits config steps world (.error stop world)
  | unread {stage : Stage} {stop : Stop} (stopped : StopsAt config steps stage stop)
      (ended : Stage.exit.number < stage.number) :
      Awaits config steps world (.error stop { world with held := world.held.map Local.reap })
  | finished {octets : Octets} {status : ExitStatus} (completed : Completes config steps)
      (exited : steps.exit = some (.ok status)) (received : steps.read = .ok octets) :
      Awaits config steps world
        (.ok (octets, status) { world with held := world.held.map Local.reap })

theorem Reaches.awaits (reached : Reaches config steps .exit) (world : World) :
    Awaits config steps world ((awaitRun config steps).run world) := by
  unfold awaitRun
  simp only [EStateM.run_bind, Code.run_change]
  cases yields_awaitInTime config steps .exit steps.exit with
  | stops stopped ran =>
      rw [ran]
      exact .running ⟨reached, stopped⟩
  | passes passed exited ended =>
      have joining : Reaches config steps .join := reached.next passed rfl
      simp only [ended]
      cases yields_awaitInTime config steps .capture steps.join with
      | stops stopped ran =>
          rw [ran]
          exact .unread ⟨joining, stopped⟩ (by decide)
      | passes passed _ joined =>
          have reading : Reaches config steps .read := joining.next passed rfl
          simp only [joined]
          cases yields_attempt .capture steps.read with
          | stops stopped ran =>
              rw [ran]
              exact .unread ⟨reading, stopped⟩ (by decide)
          | passes passed received ran =>
              rw [ran]
              exact .finished (reading.completes passed) exited received

/-- How a launch can end, with all that it has done. -/
inductive Ends (config : Config) (steps : Steps) : Report → Prop where
  | withoutFile {stage : Stage} {stop : Stop} :
      StopsAt config steps stage stop → stage.number ≤ Stage.create.number →
      Ends config steps ⟨stop.outcome, []⟩
  | withoutGroup {stage : Stage} {stop : Stop} :
      StopsAt config steps stage stop → Stage.create.number < stage.number →
      stage.number ≤ Stage.spawn.number →
      Ends config steps ⟨stop.outcome, [.fileCreated, .fileRemoved]⟩
  | whileRunning {stop : Stop} {id : ProcessId} :
      StopsAt config steps .exit stop → steps.spawn = .ok id →
      Ends config steps
        ⟨stop.outcome,
          [.fileCreated, .groupStarted id.number, .groupKilled id.number,
            .childKilled id.number, .fileRemoved]⟩
  | afterExit {stage : Stage} {stop : Stop} {id : ProcessId} :
      StopsAt config steps stage stop → Stage.exit.number < stage.number →
      steps.spawn = .ok id →
      Ends config steps
        ⟨stop.outcome,
          [.fileCreated, .groupStarted id.number, .groupKilled id.number, .fileRemoved]⟩
  | complete {id : ProcessId} {status : ExitStatus} {octets : Octets} :
      Completes config steps → steps.spawn = .ok id → steps.exit = some (.ok status) →
      steps.read = .ok octets →
      Ends config steps
        ⟨some (.ok (.ofExit (Utf8.decodeLossy octets) status.code)),
          [.fileCreated, .groupStarted id.number, .fileRemoved]⟩

/-- What is reported once the scope of the whole launch has been left. -/
def Report.leaving : EStateM.Result Stop World RunResult → Report
  | .ok result world => ⟨some (.ok result), (world.leave []).effects⟩
  | .error stop world => ⟨stop.outcome, (world.leave []).effects⟩

theorem ofResult_scope (body : Code RunResult) :
    Report.ofResult ((Code.scope body).run ⟨[], []⟩) = .leaving (body.run ⟨[], []⟩) := by
  rw [Code.run_scope]
  cases body.run ⟨[], []⟩ <;> rfl

theorem Reaches.ends_completeRun {id : ProcessId} (running : Reaches config steps .exit)
    (spawned : steps.spawn = .ok id) :
    Ends config steps (.leaving ((completeRun config steps).run
      ⟨[.group ⟨some id.number⟩, .process ⟨id, false⟩, .file],
        [.fileCreated, .groupStarted id.number]⟩)) := by
  have awaits := running.awaits ⟨[.group ⟨some id.number⟩, .process ⟨id, false⟩, .file],
    [.fileCreated, .groupStarted id.number]⟩
  rw [completeRun, EStateM.run_bind]
  generalize (awaitRun config steps).run _ = awaited at awaits ⊢
  cases awaits with
  | running stopped => exact .whileRunning stopped spawned
  | unread stopped ended => exact .afterExit stopped ended spawned
  | finished completed exited received => exact .complete completed spawned exited received

theorem Reaches.ends_startInterpreter (piping : Reaches config steps .pipe) :
    Ends config steps (.leaving ((startInterpreter config steps >>= fun _ =>
      completeRun config steps).run ⟨[.file], [.fileCreated]⟩)) := by
  have starts := piping.starts ⟨[.file], [.fileCreated]⟩
  rw [EStateM.run_bind]
  generalize (startInterpreter config steps).run _ = started at starts ⊢
  cases starts with
  | unstarted stopped created early => exact .withoutGroup stopped created early
  | started running spawned => exact running.ends_completeRun spawned

theorem ends_launch (config : Config) (steps : Steps) :
    Ends config steps (launch config steps) := by
  rw [launch, executeScript, ofResult_scope, EStateM.run_bind]
  cases yields_attempt (.interpreterNotFound config.program) steps.resolve with
  | stops stopped ran =>
      rw [ran]
      exact .withoutFile ⟨reaches_resolve, stopped⟩ (by decide)
  | passes passed _ resolved =>
      have creating : Reaches config steps .create := reaches_resolve.next passed rfl
      have persists := creating.persists ⟨[], []⟩
      simp only [resolved, EStateM.run_bind]
      generalize (persistScript steps).run _ = persisted at persists ⊢
      cases persists with
      | uncreated stopped => exact .withoutFile stopped (by decide)
      | unwritten stopped created early =>
          exact .withoutGroup stopped created (Nat.le_trans early (by decide))
      | written piping => exact piping.ends_startInterpreter

theorem Completes.reaches (completed : Completes config steps) : Reaches config steps stage :=
  fun earlier _ => completed earlier

theorem StopsAt.reaches_iff (stopped : StopsAt config steps stage stop) :
    Reaches config steps following ↔ following.number ≤ stage.number := by
  constructor
  · intro reached
    refine Nat.le_of_not_lt fun later => ?_
    have passed : steps.stop? config stage = none := reached stage later
    rw [stopped.2] at passed
    cases passed
  · intro notLater earlier before
    exact stopped.1 earlier (Nat.lt_of_lt_of_le before notLater)

theorem isSuccess_ofExit_code_iff (output : Text) (status : ExitStatus) :
    (RunResult.ofExit output status.code).isSuccess = true ↔ status = .exited 0 := by
  rw [RunResult.isSuccess_ofExit, decide_eq_true_iff]
  cases status with
  | exited code => simp [ExitStatus.code]
  | signalled signal =>
      simp only [ExitStatus.code, reduceCtorEq, iff_false]
      omega
  | unknown => simp [ExitStatus.code]

theorem ofExit_code_signalled (output : Text) (signal : Nat) :
    RunResult.ofExit output (ExitStatus.signalled signal).code =
      .failure output (128 + signal) := by
  have nonzero : (128 + signal : Int) ≠ 0 := by omega
  exact if_neg nonzero

/-- The result of a launch that came to its normal end. -/
structure Result (steps : Steps) (result : RunResult) : Prop where
  output : ∃ octets, steps.read = .ok octets ∧ result.output = Utf8.decodeLossy octets
  exitCode : ∃ status, steps.exit = some (.ok status) ∧ result.exitCode = status.code
  success : result.isSuccess = true ↔ steps.exit = some (.ok (.exited 0))
  signal : ∀ signal, 1 ≤ signal → steps.exit = some (.ok (.signalled signal)) →
    result = .failure result.output (128 + signal)

/-- What the outcome of a launch says, and when there is none. -/
structure Answered (config : Config) (steps : Steps) (outcome : Option Outcome) : Prop where
  completed : (∃ result, outcome = some (.ok result)) ↔ Completes config steps
  result : ∀ result, outcome = some (.ok result) → Result steps result
  failed : ∀ error, outcome = some (.error error) ↔
    ∃ stage, StopsAt config steps stage (.fails error)
  dropped : outcome = none ↔ ∃ stage, StopsAt config steps stage .dropped

/-- What a launch does to the file, the process and its group.  In a list without
repetitions a sublist says what comes after what. -/
structure Traced (config : Config) (steps : Steps) (effects : List Effect) : Prop where
  once : effects.Nodup
  fileCreated : .fileCreated ∈ effects ↔ Reaches config steps .write
  fileRemoved : .fileCreated ∈ effects → [.fileCreated, .fileRemoved].Sublist effects
  /-- The group is started with the process that leads it. -/
  groupStarted : ∀ group, .groupStarted group ∈ effects ↔
    Reaches config steps .exit ∧ ∃ id, steps.spawn = .ok id ∧ id.number = group
  groupKilled : ∀ group, .groupKilled group ∈ effects ↔
    .groupStarted group ∈ effects ∧ ¬ Completes config steps
  killedInTime : ∀ group, .groupKilled group ∈ effects →
    [.groupStarted group, .groupKilled group, .fileRemoved].Sublist effects
  /-- The interpreter itself is killed as long as nobody knows that it has ended. -/
  childKilled : ∀ process, .childKilled process ∈ effects ↔
    .groupStarted process ∈ effects ∧ ¬ Passes config steps .exit

/-- What can be relied on after a launch, however its steps have gone. -/
structure Accounted (config : Config) (steps : Steps) (report : Report) : Prop where
  answered : Answered config steps report.outcome
  traced : Traced config steps report.effects

theorem result_ofExit {status : ExitStatus} {octets : Octets}
    (exited : steps.exit = some (.ok status)) (received : steps.read = .ok octets) :
    Result steps (.ofExit (Utf8.decodeLossy octets) status.code) := by
  constructor
  · exact ⟨octets, received, RunResult.output_ofExit _ _⟩
  · exact ⟨status, exited, RunResult.exitCode_ofExit _ _⟩
  · rw [isSuccess_ofExit_code_iff, exited, Option.some.injEq, Except.ok.injEq]
  · intro signal _ signalled
    rw [exited, Option.some.injEq, Except.ok.injEq] at signalled
    rw [signalled, ofExit_code_signalled]
    rfl

theorem StopsAt.answered (stopped : StopsAt config steps stage stop) :
    Answered config steps stop.outcome where
  completed := by
    constructor
    · rintro ⟨result, same⟩
      cases stop <;> cases same
    · intro completed
      exact absurd completed stopped.not_completes
  result := by
    intro result same
    cases stop <;> cases same
  failed := by
    intro error
    constructor
    · intro same
      cases stop with
      | fails reason =>
          cases same
          exact ⟨stage, stopped⟩
      | dropped => cases same
    · rintro ⟨first, failed⟩
      rw [(stopped.unique failed).2]
      rfl
  dropped := by
    constructor
    · intro same
      cases stop with
      | fails reason => cases same
      | dropped => exact ⟨stage, stopped⟩
    · rintro ⟨first, dropped⟩
      rw [(stopped.unique dropped).2]
      rfl

theorem Completes.answered {status : ExitStatus} {octets : Octets}
    (completed : Completes config steps) (exited : steps.exit = some (.ok status))
    (received : steps.read = .ok octets) :
    Answered config steps (some (.ok (.ofExit (Utf8.decodeLossy octets) status.code))) where
  completed := ⟨fun _ => completed, fun _ => ⟨_, rfl⟩⟩
  result := by
    rintro result same
    cases same
    exact result_ofExit exited received
  failed := by
    simpa using fun _ _ (stopped : StopsAt config steps _ _) => stopped.not_completes completed
  dropped := by
    simpa using fun _ (stopped : StopsAt config steps _ _) => stopped.not_completes completed

theorem Ends.answered {report : Report} (ended : Ends config steps report) :
    Answered config steps report.outcome := by
  cases ended with
  | withoutFile stopped => exact stopped.answered
  | withoutGroup stopped => exact stopped.answered
  | whileRunning stopped => exact stopped.answered
  | afterExit stopped => exact stopped.answered
  | complete completed _ exited received => exact completed.answered exited received

theorem Ends.traced {report : Report} (ended : Ends config steps report) :
    Traced config steps report.effects := by
  cases ended with
  | @withoutFile stage stop stopped early =>
      have unreached : ∀ {later : Stage}, Stage.create.number < later.number →
          ¬ Reaches config steps later := by
        intro later after reached
        exact Nat.not_le_of_lt after (Nat.le_trans (stopped.reaches_iff.mp reached) early)
      have unstarted : ¬ Reaches config steps .exit := unreached (by decide)
      exact
        { once := .nil
          fileCreated := by simpa using unreached (by decide)
          fileRemoved := by simp
          groupStarted := by simp [unstarted]
          groupKilled := by simp
          killedInTime := by simp
          childKilled := by simp }
  | @withoutGroup stage stop stopped created early =>
      have reached : Reaches config steps .write := stopped.reaches_iff.mpr created
      have unstarted : ¬ Reaches config steps .exit := by
        rw [stopped.reaches_iff]
        exact Nat.not_le_of_lt (Nat.lt_succ_of_le early)
      exact
        { once := by simp
          fileCreated := by simpa using reached
          fileRemoved := by simp
          groupStarted := by simp [unstarted]
          groupKilled := by simp
          killedInTime := by simp
          childKilled := by simp }
  | @whileRunning stop id stopped spawned =>
      have created : Reaches config steps .write := stopped.reaches_iff.mpr (by decide)
      have unpassed : ¬ Passes config steps .exit := stopped.not_passes
      exact
        { once := by simp
          fileCreated := by simpa using created
          fileRemoved := by simp
          groupStarted := by simp [stopped.1, spawned, eq_comm]
          groupKilled := by simp [stopped.not_completes]
          killedInTime := by simp
          childKilled := by simp [unpassed] }
  | @afterExit stage stop id stopped late spawned =>
      have created : Reaches config steps .write :=
        stopped.reaches_iff.mpr (Nat.le_trans (by decide) (Nat.le_of_lt late))
      have reached : Reaches config steps .exit :=
        stopped.reaches_iff.mpr (Nat.le_of_lt late)
      have passed : Passes config steps .exit := stopped.1 .exit late
      exact
        { once := by simp
          fileCreated := by simpa using created
          fileRemoved := by simp
          groupStarted := by simp [reached, spawned, eq_comm]
          groupKilled := by simp [stopped.not_completes]
          killedInTime := by simp
          childKilled := by simp [passed] }
  | @complete id status octets completed spawned exited received =>
      have reached : Reaches config steps .exit := completed.reaches
      exact
        { once := by simp
          fileCreated := by simpa using completed.reaches
          fileRemoved := by simp
          groupStarted := by simp [reached, spawned, eq_comm]
          groupKilled := by simp [completed]
          killedInTime := by simp
          childKilled := by simp [completed .exit] }

theorem launch_congr {first second : Config} (program : first.program = second.program)
    (limit : first.timeLimit? = second.timeLimit?) (steps : Steps) :
    launch first steps = launch second steps := by
  unfold launch executeScript startInterpreter completeRun awaitRun awaitInTime
  rw [program, limit]

/-- Every launch is accounted for: whether it answers and with what is decided by the
first stage that stops it, a file that was created is removed, and the process group is
killed exactly if it was started and the launch does not come to its normal end.  A time
limit of zero is none. -/
theorem launch_accounted_for (config : Config) (steps : Steps) :
    Accounted config steps (launch config steps) ∧
      launch { config with timeoutSeconds := some 0 } steps =
        launch { config with timeoutSeconds := none } steps :=
  ⟨⟨(ends_launch config steps).answered, (ends_launch config steps).traced⟩,
    launch_congr rfl rfl steps⟩

/-- A launch that is given up while the interpreter runs. -/
example (interpreter : Text) :
    launch Config.builtIn
        { resolve := .ok interpreter, create := .ok (), write := .ok (), flush := .ok (),
          pipe := .ok (), clone := .ok (), spawn := .ok ⟨7, by decide, by decide⟩, exit := none,
          join := some (.ok ()), read := .ok [], overdue := some .exit } =
      ⟨none, [.fileCreated, .groupStarted 7, .groupKilled 7, .childKilled 7, .fileRemoved]⟩ :=
  rfl

end Launch

end ScriptDesk
