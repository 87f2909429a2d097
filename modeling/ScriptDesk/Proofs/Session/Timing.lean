import ScriptDesk.Proofs.App.Draft
import ScriptDesk.Proofs.Message.Language
import ScriptDesk.Proofs.Session.Panes
import ScriptDesk.Proofs.Text.Encoding

/-!
# What does not depend on timing

Runs end at any time between the lines that are read, so that one and the same
command may start a run in one session and be refused in another.  The messages
that the lines stand for are handed over in their order all the same, up to the
first that quits.  They alone make the draft, since the end of a run does not
change it.
-/

namespace ScriptDesk

namespace Message

/-- The messages up to the first that quits, and that one. -/
def throughQuit : List Message → List Message
  | [] => []
  | message :: rest => message :: if message = .quit then [] else throughQuit rest

end Message

def Executor.KeepsFiles (executor : Executor) : Prop :=
  ∀ system script path,
    (executor.execute system script).1.files.readText path = system.files.readText path

theorem Executor.keepsFiles_fixed (perform : Text → Performance) :
    (Executor.fixed perform).KeepsFiles :=
  fun _ _ _ => rfl

namespace Interactive

variable {setting : Setting}

/-- The messages that are handed over, but for those about the end of a run. -/
def asked (trace : List Dispatch) : List Message :=
  (trace.filter fun dispatch => !dispatch.isCompletion).map Dispatch.message

/-- A schedule reads lines in their order, all of them before it ends the input. -/
structure Reads (lines : List Octets) (turns : List Turn) : Prop where
  inOrder : linesRead turns <+: lines
  complete : ∀ before after, turns = before ++ .endOfInput :: after → linesRead before = lines

namespace Reads

variable {lines : List Octets} {turns : List Turn}

/-- A schedule that does not end the input need not read all lines. -/
theorem of_open (inOrder : linesRead turns <+: lines) (never : Turn.endOfInput ∉ turns) :
    Reads lines turns := by
  refine ⟨inOrder, ?_⟩
  rintro before after rfl
  exact (never (List.mem_append_right _ List.mem_cons_self)).elim

theorem of_line {octets : Octets} (reads : Reads lines (.line octets :: turns)) :
    ∃ rest, lines = octets :: rest ∧ Reads rest turns := by
  obtain ⟨rest, rfl⟩ := reads.inOrder
  refine ⟨linesRead turns ++ rest, rfl, List.prefix_append _ _, ?_⟩
  rintro before after rfl
  exact List.cons_inj_right octets |>.mp (reads.complete (.line octets :: before) after rfl)

theorem of_endOfInput (reads : Reads lines (.endOfInput :: turns)) : lines = [] :=
  (reads.complete [] turns rfl).symm

theorem of_move {move : Controller.Move} (reads : Reads lines (.move move :: turns)) :
    Reads lines turns := by
  refine ⟨reads.inOrder, ?_⟩
  rintro before after rfl
  exact reads.complete (.move move :: before) after rfl

end Reads

theorem asked_append (first second : List Dispatch) :
    asked (first ++ second) = asked first ++ asked second := by
  simp [asked]

theorem asked_ofInput (app : App) (line : Text) :
    asked [⟨app, .ofInput line⟩] = [.ofInput line] := by
  have other : (Dispatch.mk app (.ofInput line)).isCompletion = false := by
    unfold Dispatch.isCompletion
    split
    case h_1 state same => exact (Message.ofInput_ne_runFinished line state same).elim
    case h_2 => rfl
  simp [asked, other]

theorem reading_of_resume {phase : Phase} {result : Session × Option SessionError}
    (reading : (resume phase result).phase = .reading) : phase = .reading := by
  obtain ⟨session, error⟩ := result
  cases error with
  | some error => cases reading
  | none =>
      cases quitting : session.app.shouldQuit with
      | true => simp [resume, quitting] at reading
      | false => simpa [resume, quitting] using reading

/-- A session that has stopped reading does not begin again. -/
theorem Step.asked_eq_nil {interactive next : Interactive} {turn : Turn}
    {dispatched : List Dispatch} (step : Step setting interactive turn dispatched next)
    (closed : interactive.phase ≠ .reading) :
    asked dispatched = [] ∧ next.phase ≠ .reading := by
  cases step with
  | line => exact (closed rfl).elim
  | illFormed => exact (closed rfl).elim
  | endOfInput => exact (closed rfl).elim
  | wait => exact ⟨rfl, closed⟩
  | finish going =>
      have closing := going.resolve_left closed
      refine ⟨rfl, fun reading => ?_⟩
      simpa [closing] using reading_of_resume reading

theorem Follows.asked_eq_nil {interactive last : Interactive} {turns : List Turn}
    {trace : List Dispatch} (follows : Follows setting interactive turns trace last)
    (closed : interactive.phase ≠ .reading) : asked trace = [] := by
  induction follows with
  | nil => rfl
  | cons first later induction =>
      obtain ⟨nothing, stillClosed⟩ := first.asked_eq_nil closed
      rw [asked_append, nothing, induction stillClosed]
      rfl

variable {read : Text → Except Fault Text}

theorem app_resume_dispatch (phase : Phase) (session : Session) (message : Message) :
    (resume phase (session.dispatch setting message)).session.app =
      session.app.answered setting.surroundings message := by
  cases dispatched : session.dispatch setting message with
  | mk next error =>
      have answered := Session.app_of_dispatch dispatched
      cases error with
      | none => exact answered
      | some error => exact answered

/-- A dispatch in a session that comes to its end has written everything. -/
theorem Follows.exists_resume_eq {phase : Phase} {session : Session} {message : Message}
    {last : Interactive} {turns : List Turn} {trace : List Dispatch}
    (follows : Follows setting (resume phase (session.dispatch setting message)) turns trace last)
    (ended : last.phase = .ended) :
    ∃ next, resume phase (session.dispatch setting message) =
      ⟨next, if next.app.shouldQuit then .ended else phase⟩ := by
  have written : ∀ fault, (resume phase (session.dispatch setting message)).phase ≠
      .failed (.terminal fault) := by
    intro fault
    apply follows.phase_ne_failed
    rw [ended]
    exact nofun
  obtain ⟨next, -, resumed⟩ := exists_dispatch_eq written
  exact ⟨next, resumed⟩

theorem Step.draft_eq {interactive next : Interactive} {turn : Turn}
    {dispatched : List Dispatch} (step : Step setting interactive turn dispatched next)
    (started : interactive.session.app.Started)
    (found : ∀ dispatch ∈ dispatched, dispatch.Finds read) :
    next.session.app.draft =
        (asked dispatched).foldl (Draft.after read) interactive.session.app.draft ∧
      next.session.app.Started := by
  cases step with
  | @line session octets line decoded =>
      rw [app_resume_dispatch, asked_ofInput]
      have answers := session.app.answers_react setting.surroundings (.ofInput line)
      exact ⟨answers.draft_eq started (found _ List.mem_cons_self), answers.started started⟩
  | illFormed => exact ⟨rfl, started⟩
  | endOfInput => exact ⟨rfl, started⟩
  | @wait session _ _ controller _ _ kept =>
      have startedStill : (session.withController controller).app.Started := by
        intro running
        exact started (kept ▸ running)
      exact ⟨rfl, startedStill⟩
  | @finish session _ _ controller _ _ _ stopped =>
      rw [app_resume_dispatch]
      have startedStill : (session.withController controller).app.Started := by
        intro running
        rw [App.state, Session.withController, stopped] at running
        cases running
      exact ⟨rfl, startedStill⟩

theorem Follows.draft_eq {interactive last : Interactive} {turns : List Turn}
    {trace : List Dispatch} (follows : Follows setting interactive turns trace last)
    (started : interactive.session.app.Started)
    (found : ∀ dispatch ∈ trace, dispatch.Finds read) :
    last.session.app.draft =
      (asked trace).foldl (Draft.after read) interactive.session.app.draft := by
  induction follows with
  | nil => rfl
  | cons first later induction =>
      rw [List.forall_mem_append] at found
      obtain ⟨draft, startedStill⟩ := first.draft_eq started found.1
      rw [induction startedStill found.2, draft, asked_append, List.foldl_append]

/-- A session that reads to its end is asked what its lines say, up to the first line that
quits. -/
theorem Follows.asked_eq {interactive last : Interactive} {turns : List Turn}
    {trace : List Dispatch} {lines : List Text}
    (follows : Follows setting interactive turns trace last) (ended : last.phase = .ended)
    (reading : interactive.phase = .reading)
    (staying : interactive.session.app.shouldQuit = false)
    (started : interactive.session.app.Started)
    (found : ∀ dispatch ∈ trace, dispatch.Finds read)
    (reads : Reads (lines.map Utf8.encode) turns) :
    asked trace = Message.throughQuit (lines.map .ofInput) := by
  induction follows generalizing lines with
  | nil interactive =>
      rw [reading] at ended
      cases ended
  | @cons interactive next last turn turns dispatched trace first later induction =>
      rw [List.forall_mem_append] at found
      obtain ⟨draft, startedStill⟩ := first.draft_eq started found.1
      rw [asked_append]
      cases first with
      | @line session octets line decoded =>
          obtain ⟨rest, same, readsRest⟩ := reads.of_line
          obtain ⟨text, others, rfl, encoded, rfl⟩ := List.map_eq_cons_iff.mp same
          rw [← encoded, Utf8.decode_encode] at decoded
          obtain rfl := Except.ok.inj decoded
          obtain ⟨answered, resumed⟩ := later.exists_resume_eq ended
          rw [resumed] at draft startedStill later induction
          rw [asked_ofInput] at draft ⊢
          have quitting : answered.app.shouldQuit = decide (Message.ofInput text = .quit) :=
            App.shouldQuit_of_draft_eq draft staying
          rw [List.map_cons, Message.throughQuit, List.singleton_append]
          congr 1
          by_cases quits : Message.ofInput text = .quit
          · rw [decide_eq_true quits] at quitting
            rw [if_pos quits]
            exact later.asked_eq_nil (by simp [quitting])
          · rw [decide_eq_false quits] at quitting
            rw [if_neg quits]
            exact induction ended (by simp [quitting]) quitting startedStill found.2 readsRest
      | illFormed refused =>
          obtain ⟨-, -, rfl⟩ := later.eq_of_stopped nofun nofun
          cases ended
      | endOfInput session =>
          have allRead := reads.of_endOfInput
          rw [List.map_eq_nil_iff] at allRead
          have closed : (endInput session).phase ≠ .reading := by
            unfold endInput
            cases session.app.state.isRunning <;> exact nofun
          rw [allRead, later.asked_eq_nil closed]
          rfl
      | @wait session phase move controller going moved kept =>
          exact induction ended reading staying startedStill found.2 reads.of_move
      | @finish session phase move controller going moved running stopped =>
          obtain ⟨shown, resumed⟩ := later.exists_resume_eq ended
          rw [resumed] at draft startedStill later induction
          have stillStaying : shown.app.shouldQuit = false :=
            (congrArg Draft.quitting draft).trans staying
          have stillReading : phase = .reading := reading
          exact induction ended (by simp [stillStaying, stillReading]) stillStaying startedStill
            found.2 reads.of_move

theorem readFile_eq {app next : App} (same : next.controller.system = app.controller.system)
    (path : Text) : next.readFile path = app.readFile path := by
  unfold App.readFile
  rw [same]

theorem readFile_of_move? {session : Session} {move : Controller.Move} {controller : Controller}
    (keeps : setting.executor.KeepsFiles)
    (moved : session.app.controller.move? setting.executor move = some controller)
    (path : Text) :
    (session.withController controller).app.readFile path = session.app.readFile path := by
  unfold App.readFile Session.withController
  rcases Controller.system_of_move? moved with same | ⟨script, executed⟩
  · rw [same]
  · rw [executed, keeps]

theorem Step.finds {interactive next : Interactive} {turn : Turn}
    {dispatched : List Dispatch} (step : Step setting interactive turn dispatched next)
    (keeps : setting.executor.KeepsFiles)
    (contents : ∀ path, interactive.session.app.readFile path = read path) :
    (∀ dispatch ∈ dispatched, dispatch.Finds read) ∧
      ∀ path, next.session.app.readFile path = read path := by
  cases step with
  | @line session octets line decoded =>
      have answers := session.app.answers_react setting.surroundings (.ofInput line)
      refine ⟨List.forall_mem_singleton.mpr fun path _ => contents path, fun path => ?_⟩
      rw [app_resume_dispatch, ← contents path]
      exact readFile_eq answers.system_eq path
  | illFormed => exact ⟨List.forall_mem_nil _, contents⟩
  | endOfInput => exact ⟨List.forall_mem_nil _, contents⟩
  | wait going moved kept =>
      refine ⟨List.forall_mem_nil _, fun path => ?_⟩
      rw [← contents path]
      exact readFile_of_move? keeps moved path
  | finish going moved running stopped =>
      refine ⟨List.forall_mem_singleton.mpr nofun, fun path => ?_⟩
      rw [app_resume_dispatch, ← contents path, ← readFile_of_move? keeps moved path]
      exact readFile_eq rfl path

/-- Files that are not written are found as they are at first. -/
theorem Follows.finds {interactive last : Interactive} {turns : List Turn}
    {trace : List Dispatch} (follows : Follows setting interactive turns trace last)
    (keeps : setting.executor.KeepsFiles)
    (contents : ∀ path, interactive.session.app.readFile path = read path) :
    ∀ dispatch ∈ trace, dispatch.Finds read := by
  induction follows with
  | nil => exact List.forall_mem_nil _
  | cons first later induction =>
      obtain ⟨found, contentsStill⟩ := first.finds keeps contents
      exact List.forall_mem_append.mpr ⟨found, induction contentsStill⟩

/-- A session on lines of input that comes to its end, where all files that are loaded have
fixed contents. -/
structure Completes (setting : Setting) (read : Text → Except Fault Text) (session : Session)
    (lines : List Text) (trace : List Dispatch) (last : Session) : Prop where
  followed : ∃ turns, Reads (lines.map Utf8.encode) turns ∧
    Follows setting (start setting session) turns trace ⟨last, .ended⟩
  found : ∀ dispatch ∈ trace, dispatch.Finds read

variable {session last : Session} {lines : List Text} {trace : List Dispatch}

theorem exists_start_eq_of_ended {turns : List Turn}
    (follows : Follows setting (start setting session) turns trace ⟨last, .ended⟩) :
    ∃ shown, shown.app = session.app ∧
      start setting session = ⟨shown, if session.app.shouldQuit then .ended else .reading⟩ := by
  have written : ∀ fault, (start setting session).phase ≠ .failed (.terminal fault) :=
    fun fault => follows.phase_ne_failed nofun
  obtain ⟨shown, drawn, started⟩ := exists_start_eq written
  have same : shown.app = session.app := Session.app_of_paint drawn
  exact ⟨shown, same, same ▸ started⟩

namespace Completes

theorem of_follow? {last : Interactive} {turns : List Turn}
    (followed : (start setting session).follow? setting turns = some last)
    (ended : last.phase = .ended) (reads : Reads (lines.map Utf8.encode) turns)
    (keeps : setting.executor.KeepsFiles) :
    ∃ trace, Completes setting session.app.readFile session lines trace last.session := by
  obtain ⟨trace, follows⟩ := follow?_eq_some_iff.mp followed
  obtain ⟨last, phase⟩ := last
  cases ended
  obtain ⟨shown, same, started⟩ := exists_start_eq_of_ended follows
  refine ⟨trace, ⟨turns, reads, follows⟩, follows.finds keeps fun path => ?_⟩
  rw [started, same]

theorem draft_eq (completes : Completes setting read session lines trace last)
    (started : session.app.Started) :
    last.app.draft = (asked trace).foldl (Draft.after read) session.app.draft := by
  obtain ⟨turns, -, follows⟩ := completes.followed
  obtain ⟨shown, same, begun⟩ := exists_start_eq_of_ended follows
  rw [begun] at follows
  have draft := follows.draft_eq (same ▸ started) completes.found
  rw [same] at draft
  exact draft

theorem asked_eq (completes : Completes setting read session lines trace last)
    (staying : session.app.shouldQuit = false) (started : session.app.Started) :
    asked trace = Message.throughQuit (lines.map .ofInput) := by
  obtain ⟨turns, reads, follows⟩ := completes.followed
  obtain ⟨shown, same, begun⟩ := exists_start_eq_of_ended follows
  rw [begun, staying] at follows
  exact follows.asked_eq rfl rfl (same ▸ staying) (same ▸ started) completes.found reads

end Completes

/-- Two sessions on the same lines are asked the same and end with the same draft, whatever
executes their scripts and whenever their runs end.  Only messages about the script change
it. -/
theorem script_independent_of_timing {first second : Setting} {app : App}
    {firstTerminal secondTerminal : Terminal} {firstTrace secondTrace : List Dispatch}
    {firstLast secondLast : Session}
    (staying : app.shouldQuit = false) (started : app.Started)
    (one : Completes first read ⟨app, firstTerminal⟩ lines firstTrace firstLast)
    (other : Completes second read ⟨app, secondTerminal⟩ lines secondTrace secondLast) :
    asked firstTrace = Message.throughQuit (lines.map .ofInput) ∧
      asked secondTrace = Message.throughQuit (lines.map .ofInput) ∧
      firstLast.app.draft =
        (Message.throughQuit (lines.map .ofInput)).foldl (Draft.after read) app.draft ∧
      secondLast.app.draft = firstLast.app.draft ∧
      ∀ (surroundings : Surroundings) (present : App) (message : Message),
        present.LeavesScript message →
          (present.update surroundings message).1.buffer.text = present.buffer.text ∧
            (present.update surroundings message).1.source = present.source := by
  have firstAsked := one.asked_eq staying started
  have secondAsked := other.asked_eq staying started
  have firstDraft := one.draft_eq started
  have secondDraft := other.draft_eq started
  rw [firstAsked] at firstDraft
  rw [secondAsked] at secondDraft
  exact ⟨firstAsked, secondAsked, firstDraft, secondDraft.trans firstDraft.symm,
    fun surroundings present message leaves => leaves.kept surroundings⟩

/-- A line, a run, and the end of the session. -/
def runAndQuit : List Text :=
  [['x'], ":run".toList, ":quit".toList]

/-- The session ends while the run is in flight. -/
def quitEarly : List Turn :=
  (runAndQuit.map Utf8.encode).map .line

/-- The run ends before the session. -/
def quitLate : List Turn :=
  [.line (Utf8.encode ['x']), .line (Utf8.encode ":run".toList), .move (.task 0 .start),
    .move (.task 0 .proceed), .move (.task 0 .send), .move .receive,
    .line (Utf8.encode ":quit".toList)]

/-- The session that quits while the run is in flight and the one that quits after it has
ended are asked the same and leave the same draft, although their states differ. -/
theorem script_independent_of_timing_quit :
    ∃ early late earlyTrace lateTrace,
      Completes echoSetting echoSession.app.readFile echoSession runAndQuit earlyTrace early ∧
      Completes echoSetting echoSession.app.readFile echoSession runAndQuit lateTrace late ∧
      early.app.state = .running ∧ late.app.state = .succeeded ['x', '\n'] 0 ∧
      asked earlyTrace = asked lateTrace ∧ early.app.draft = late.app.draft := by
  have computedEarly :
      ((start echoSetting echoSession).follow? echoSetting quitEarly).map
          (fun last => (last.phase, last.session.app.state)) =
        some (.ended, .running) := by
    decide +kernel
  have computedLate :
      ((start echoSetting echoSession).follow? echoSetting quitLate).map
          (fun last => (last.phase, last.session.app.state)) =
        some (.ended, .succeeded ['x', '\n'] 0) := by
    decide +kernel
  obtain ⟨early, followedEarly, sameEarly⟩ := Option.map_eq_some_iff.mp computedEarly
  obtain ⟨late, followedLate, sameLate⟩ := Option.map_eq_some_iff.mp computedLate
  obtain ⟨endedEarly, stateEarly⟩ := Prod.mk.inj sameEarly
  obtain ⟨endedLate, stateLate⟩ := Prod.mk.inj sameLate
  have keeps : echoSetting.executor.KeepsFiles := Executor.keepsFiles_fixed _
  have readsEarly : Reads (runAndQuit.map Utf8.encode) quitEarly :=
    .of_open (List.prefix_refl _) (by simp [quitEarly])
  have readsLate : Reads (runAndQuit.map Utf8.encode) quitLate :=
    .of_open (List.prefix_refl _) (by simp [quitLate])
  obtain ⟨earlyTrace, one⟩ := Completes.of_follow? followedEarly endedEarly readsEarly keeps
  obtain ⟨lateTrace, other⟩ := Completes.of_follow? followedLate endedLate readsLate keeps
  have idle : echoSession.app.Started := nofun
  obtain ⟨askedEarly, askedLate, -, drafts, -⟩ :=
    script_independent_of_timing rfl idle one other
  exact ⟨early.session, late.session, earlyTrace, lateTrace, one, other, stateEarly, stateLate,
    askedEarly.trans askedLate.symm, drafts.symm⟩

end Interactive

end ScriptDesk
