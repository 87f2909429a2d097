import ScriptDesk.Proofs.Session.Feeding
import ScriptDesk.Proofs.Text.Segments
import ScriptDesk.Proofs.Text.Trimming

/-!
# Typing a script

A line that begins with a colon is typed with a second one in front, and any
other line as it is.  Every line of a script is then taken for a line of script,
also where it looks like a command, and is appended with its line feed, whatever
becomes of a run in flight meanwhile.
-/

namespace ScriptDesk

namespace Message

/-- What is typed to append the lines of a script. -/
def typed (script : Text) : Text :=
  Text.joinWith ['\n'] ((Text.segments script).map escaped)

theorem getLast?_escaped (line : Text) : (escaped line).getLast? = line.getLast? := by
  unfold escaped
  split
  · exact List.getLast?_cons_cons
  · rfl

theorem not_mem_escaped {line : Text} (single : '\n' ∉ line) : '\n' ∉ escaped line := by
  unfold escaped
  split
  · rw [List.mem_cons, not_or]
    exact ⟨by decide, single⟩
  · exact single

theorem dropTrailing_eq_self {line : Text} (single : '\n' ∉ line)
    (plain : line.getLast? ≠ some '\r') : Text.dropTrailing isLineEnd line = line := by
  refine Text.dropTrailing_eq_iff.mpr ⟨[], (List.append_nil line).symm, nofun, ?_⟩
  intro character last
  have other : character ≠ '\n' := by
    rintro rfl
    exact single (List.mem_of_getLast? last)
  have noReturn : character ≠ '\r' := by
    rintro rfl
    exact plain last
  simp [isLineEnd, other, noReturn]

/-- A typed line is taken for the line of script. -/
theorem ofInput_escaped {line : Text} (single : '\n' ∉ line)
    (plain : line.getLast? ≠ some '\r') : ofInput (escaped line) = .edit line := by
  unfold ofInput
  rw [dropTrailing_eq_self (not_mem_escaped single) (getLast?_escaped line ▸ plain)]
  unfold escaped
  split
  case h_1 rest => rfl
  case h_2 other =>
    simp only
    split
    case h_1 rest => exact (other _ rfl).elim
    case h_2 command _ => exact (other _ rfl).elim
    case h_3 => rfl

end Message

namespace Feed

theorem inputLines_typed {script : Text} (complete : Diagnostic.CompleteLines script)
    (plain : ∀ line ∈ Text.segments script, line.getLast? ≠ some '\r') :
    inputLines (Utf8.encode (Message.typed script)) =
      ((Text.closedLines script).map Message.escaped).map Utf8.encode := by
  have typed : Message.typed script =
      ((Text.closedLines script).map Message.escaped).flatMap (· ++ ['\n']) := by
    rw [Message.typed, Text.segments_of_complete complete, List.map_append,
      ← Text.joinWith_concat_nil]
    rfl
  rw [typed]
  apply inputLines_encode
  · rw [List.forall_mem_map]
    intro line member
    exact Message.not_mem_escaped
      (Text.not_mem_of_mem_segments (List.dropLast_subset _ member))
  · rw [List.forall_mem_map]
    intro line member
    rw [Message.getLast?_escaped]
    exact plain line (List.dropLast_subset _ member)

end Feed

namespace Buffer

theorem text_foldl_pushLine (buffer : Buffer) (lines : List Text) :
    (lines.foldl pushLine buffer).text = buffer.text ++ lines.flatMap (· ++ ['\n']) := by
  induction lines generalizing buffer with
  | nil => exact (List.append_nil _).symm
  | cons line lines induction =>
      rw [List.foldl_cons, induction, List.flatMap_cons]
      simp [pushLine, ofText]

theorem caret_foldl_pushLine (buffer : Buffer) {lines : List Text} (nonempty : lines ≠ []) :
    (lines.foldl pushLine buffer).caret = (lines.foldl pushLine buffer).text.length := by
  rcases List.eq_nil_or_concat' lines with rfl | ⟨lines, line, rfl⟩
  · exact (nonempty rfl).elim
  · rw [List.foldl_append]
    rfl

end Buffer

namespace Interactive

variable {setting : Setting}

/-- A session is in a phase, unless the terminal has failed. -/
def Stands (interactive : Interactive) (phase : Phase) : Prop :=
  interactive.phase = phase ∨ ∃ fault, interactive.phase = .failed (.terminal fault)

theorem stands_resume {phase : Phase} {result : Session × Option SessionError}
    (onlyTerminal : ∀ {next error}, result = (next, some error) →
      ∃ fault, error = .terminal fault)
    (staying : ∀ {next error}, result = (next, error) → next.app.shouldQuit = false) :
    (resume phase result).Stands phase := by
  obtain ⟨next, error⟩ := result
  cases error with
  | none => exact .inl (if_neg (Bool.not_eq_true _ ▸ staying rfl))
  | some error =>
      obtain ⟨fault, rfl⟩ := onlyTerminal rfl
      exact .inr ⟨fault, rfl⟩

theorem stands_dispatch {phase : Phase} {session : Session} {message : Message}
    (staying : (session.app.answered setting.surroundings message).shouldQuit = false) :
    (resume phase (session.dispatch setting message)).Stands phase := by
  apply stands_resume Session.exists_fault_of_dispatch
  intro next error dispatched
  rw [Session.app_of_dispatch dispatched]
  exact staying

theorem stands_start {session : Session} (staying : session.app.shouldQuit = false) :
    (start setting session).Stands .reading := by
  apply stands_resume Session.exists_fault_of_paint
  intro next error painted
  rw [Session.app_of_paint painted]
  exact staying

theorem app_start (setting : Setting) (session : Session) :
    (start setting session).session.app = session.app := by
  cases drawn : session.drawPane setting with
  | mk shown error =>
      rw [start, drawn]
      cases error <;> exact Session.app_of_paint drawn

/-- What a move leaves alone, and where the session stands after it. -/
structure Moved (before after : Interactive) (dispatched : List Dispatch) : Prop where
  buffer : after.session.app.buffer = before.session.app.buffer
  shouldQuit : after.session.app.shouldQuit = before.session.app.shouldQuit
  asked : asked dispatched = []
  reading : before.phase = .reading → after.Stands .reading
  resting : before.phase = restingPhase before.session.app →
    after.Stands (restingPhase after.session.app)

theorem Step.moved {before after : Interactive} {move : Controller.Move}
    {dispatched : List Dispatch} (step : Step setting before (.move move) dispatched after)
    (staying : before.session.app.shouldQuit = false) : Moved before after dispatched := by
  cases step with
  | @wait session phase _ controller going moved kept =>
      have same : (session.withController controller).app.state = session.app.state := kept
      refine ⟨rfl, rfl, rfl, fun reading => .inl reading, fun resting => .inl ?_⟩
      rw [restingPhase, same]
      exact resting
  | @finish session phase _ controller going moved running stopped =>
      refine ⟨?buffer, ?shouldQuit, rfl, ?reading, ?resting⟩
      case buffer => rw [app_resume_dispatch]; rfl
      case shouldQuit => rw [app_resume_dispatch]; rfl
      case reading =>
        rintro rfl
        exact stands_dispatch staying
      case resting =>
        intro resting
        have closing : phase = .closing := by
          rw [restingPhase, running] at resting
          exact resting
        have ended : restingPhase ((session.withController controller).app.answered
            setting.surroundings (.runFinished controller.state)) = .ended := by
          rw [restingPhase]
          exact if_neg (Bool.not_eq_true _ ▸ stopped)
        rw [app_resume_dispatch, ended, if_pos closing]
        exact stands_dispatch staying

/-- A session that stands where a turn is taken is in that phase. -/
theorem Step.phase_eq {before after : Interactive} {turn : Turn} {dispatched : List Dispatch}
    {phase : Phase} (step : Step setting before turn dispatched after)
    (stands : before.Stands phase) : before.phase = phase := by
  refine stands.resolve_right ?_
  rintro ⟨fault, failed⟩
  rcases step.going with going | going
  all_goals
    rw [failed] at going
    cases going

/-- Lines have been appended to the script, and nothing else has been asked for. -/
structure Typed (app : App) (lines : List Text) (trace : List Dispatch) (last : App) : Prop where
  asked : asked trace = lines.map .edit
  buffer : last.buffer = lines.foldl Buffer.pushLine app.buffer
  staying : last.shouldQuit = false

namespace Typed

variable {app next last : App} {lines further : List Text} {first later : List Dispatch}

theorem nothing (staying : app.shouldQuit = false) : Typed app [] [] app :=
  ⟨rfl, rfl, staying⟩

theorem trans (earlier : Typed app lines first next) (others : Typed next further later last) :
    Typed app (lines ++ further) (first ++ later) last where
  asked := by rw [asked_append, earlier.asked, others.asked, List.map_append]
  buffer := by rw [others.buffer, earlier.buffer, List.foldl_append]
  staying := others.staying

theorem of_moved {before after : Interactive} {dispatched : List Dispatch}
    (moved : Moved before after dispatched) (staying : before.session.app.shouldQuit = false) :
    Typed before.session.app [] dispatched after.session.app :=
  ⟨moved.asked, moved.buffer, moved.shouldQuit.trans staying⟩

end Typed

/-- Behind the end of its input a session goes on waiting for a run, or has ended. -/
theorem Follows.rested {before last : Interactive} {turns : List Turn} {trace : List Dispatch}
    (follows : Follows setting before turns trace last)
    (stands : before.Stands (restingPhase before.session.app))
    (staying : before.session.app.shouldQuit = false) :
    Typed before.session.app [] trace last.session.app ∧
      last.Stands (restingPhase last.session.app) := by
  induction follows with
  | nil => exact ⟨.nothing staying, stands⟩
  | @cons before next last turn turns dispatched trace first later induction =>
      have resting := first.phase_eq stands
      cases turn with
      | move move =>
          have moved := first.moved staying
          have typed := Typed.of_moved moved staying
          obtain ⟨others, rests⟩ := induction (moved.resting resting) typed.staying
          exact ⟨typed.trans others, rests⟩
      | line octets =>
          cases first
          all_goals exact (restingPhase_ne_reading _ resting.symm).elim
      | endOfInput =>
          cases first
          exact (restingPhase_ne_reading _ resting.symm).elim

/-- A session on typed lines appends the lines that it reads, and reads all of them before its
input ends. -/
theorem Follows.typed {before last : Interactive} {turns : List Turn} {trace : List Dispatch}
    {lines : List Text} (follows : Follows setting before turns trace last)
    (stands : before.Stands .reading) (staying : before.session.app.shouldQuit = false)
    (typable : ∀ line ∈ lines, '\n' ∉ line ∧ line.getLast? ≠ some '\r')
    (reads : Reads ((lines.map Message.escaped).map Utf8.encode) turns) :
    ∃ appended, appended <+: lines ∧ Typed before.session.app appended trace last.session.app ∧
      (.endOfInput ∉ turns → last.Stands .reading) ∧
      (.endOfInput ∈ turns → appended = lines ∧ last.Stands (restingPhase last.session.app)) := by
  induction follows generalizing lines with
  | nil => exact ⟨[], List.nil_prefix, .nothing staying, fun _ => stands, nofun⟩
  | @cons before next last turn turns dispatched trace first later induction =>
      have reading := first.phase_eq stands
      cases turn with
      | move move =>
          have moved := first.moved staying
          have typed := Typed.of_moved moved staying
          obtain ⟨appended, inOrder, others, still, ended⟩ :=
            induction (moved.reading reading) typed.staying typable reads.of_move
          refine ⟨appended, inOrder, typed.trans others, ?_, ?_⟩
          · exact fun never => still (List.not_mem_of_not_mem_cons never)
          · exact fun once => ended ((List.mem_cons.mp once).resolve_left nofun)
      | endOfInput =>
          have allRead := reads.of_endOfInput
          rw [List.map_eq_nil_iff, List.map_eq_nil_iff] at allRead
          cases first with
          | endOfInput session =>
              obtain ⟨typed, rests⟩ := later.rested (.inl rfl) staying
              refine ⟨[], List.nil_prefix, typed, ?_, fun _ => ⟨allRead.symm, rests⟩⟩
              exact fun never => (never List.mem_cons_self).elim
      | line octets =>
          obtain ⟨rest, same, readsRest⟩ := reads.of_line
          obtain ⟨escaped, others, split, encoded, rfl⟩ := List.map_eq_cons_iff.mp same
          obtain ⟨line, lines, rfl, rfl, rfl⟩ := List.map_eq_cons_iff.mp split
          obtain ⟨⟨single, plain⟩, typableRest⟩ := List.forall_mem_cons.mp typable
          have decodes : Utf8.decode octets = .ok (Message.escaped line) := by
            rw [← encoded, Utf8.decode_encode]
          cases first with
          | illFormed refused =>
              rw [decodes] at refused
              cases refused
          | @line session _ read decoded =>
              obtain rfl := Except.ok.inj (decodes.symm.trans decoded)
              rw [Message.ofInput_escaped single plain] at later induction ⊢
              have typed : Typed session.app [line] [⟨session.app, .edit line⟩]
                  (resume .reading (session.dispatch setting (.edit line))).session.app := by
                rw [app_resume_dispatch]
                exact ⟨rfl, rfl, staying⟩
              obtain ⟨appended, inOrder, others, still, ended⟩ :=
                induction (stands_dispatch staying) typed.staying typableRest readsRest
              refine ⟨line :: appended, ?_, typed.trans others, ?_, ?_⟩
              · exact List.cons_prefix_cons.mpr ⟨rfl, inOrder⟩
              · exact fun never => still (List.not_mem_of_not_mem_cons never)
              · intro once
                obtain ⟨all, rests⟩ := ended ((List.mem_cons.mp once).resolve_left nofun)
                exact ⟨congrArg (line :: ·) all, rests⟩

/-- A session into which a script has been typed: it stands behind the text that was there at
first, and nothing else has been asked for. -/
structure Reproduces (setting : Setting) (session : Session) (script : Text) (turns : List Turn)
    (trace : List Dispatch) (last : Interactive) : Prop where
  follows : Follows setting (start setting session) turns trace last
  asked : asked trace = (Text.closedLines script).map .edit
  text : last.session.app.buffer.text = session.app.buffer.text ++ script
  caret : script ≠ [] → last.session.app.buffer.caret = last.session.app.buffer.text.length
  staying : last.session.app.shouldQuit = false
  rests : last.Stands (restingPhase last.session.app)

variable {session : Session} {script : Text}

theorem Follows.reproduces {turns : List Turn} {trace : List Dispatch} {last : Interactive}
    (follows : Follows setting (start setting session) turns trace last)
    (staying : session.app.shouldQuit = false) (complete : Diagnostic.CompleteLines script)
    (plain : ∀ line ∈ Text.segments script, line.getLast? ≠ some '\r')
    (reads : Reads (Feed.inputLines (Utf8.encode (Message.typed script))) turns) :
    (.endOfInput ∉ turns → asked trace <+: (Text.closedLines script).map .edit ∧
        last.session.app.shouldQuit = false ∧ last.Stands .reading) ∧
      (.endOfInput ∈ turns → Reproduces setting session script turns trace last) := by
  have typable : ∀ line ∈ Text.closedLines script, '\n' ∉ line ∧ line.getLast? ≠ some '\r' := by
    intro line member
    have within := List.dropLast_subset _ member
    exact ⟨Text.not_mem_of_mem_segments within, plain line within⟩
  have stayingStill : (start setting session).session.app.shouldQuit = false := by
    rw [app_start]
    exact staying
  rw [Feed.inputLines_typed complete plain] at reads
  obtain ⟨appended, inOrder, typed, still, ended⟩ :=
    follows.typed (stands_start staying) stayingStill typable reads
  rw [app_start] at typed
  constructor
  · intro never
    refine ⟨?_, typed.staying, still never⟩
    rw [typed.asked]
    exact inOrder.map _
  · intro once
    obtain ⟨rfl, rests⟩ := ended once
    refine ⟨follows, typed.asked, ?text, ?caret, typed.staying, rests⟩
    case text =>
      rw [typed.buffer, Buffer.text_foldl_pushLine, Text.flatMap_closedLines complete]
    case caret =>
      intro nonempty
      rw [typed.buffer]
      apply Buffer.caret_foldl_pushLine
      intro none
      rw [← Text.flatMap_closedLines complete, none] at nonempty
      exact nonempty rfl

/-- A complete script whose lines do not end in a carriage return is reproduced by typing it
with a colon in front of each line that begins with one.  Whatever a run in flight does between
the lines, the text is appended, the caret stands behind it, and no command is carried out.
Until its input ends the session can read on.  Fed with the octets in any chunks, and with a
terminal that takes everything, it reads them all. -/
theorem typed_script_reproduced (staying : session.app.shouldQuit = false)
    (complete : Diagnostic.CompleteLines script)
    (plain : ∀ line ∈ Text.segments script, line.getLast? ≠ some '\r') :
    (∀ turns last, Reads (Feed.inputLines (Utf8.encode (Message.typed script))) turns →
        (start setting session).follow? setting turns = some last →
        ∃ trace, Follows setting (start setting session) turns trace last ∧
          (.endOfInput ∉ turns → asked trace <+: (Text.closedLines script).map .edit ∧
            last.session.app.shouldQuit = false ∧ last.Stands .reading) ∧
          (.endOfInput ∈ turns → Reproduces setting session script turns trace last)) ∧
      ∀ arrivals, Feed.input arrivals = Utf8.encode (Message.typed script) →
        session.terminal.room = none →
        ∃ turns trace,
          Reproduces setting session script turns trace (Feed.run setting session arrivals) ∧
          (Feed.run setting session arrivals).phase =
            restingPhase (Feed.run setting session arrivals).session.app := by
  constructor
  · intro turns last reads followed
    obtain ⟨trace, follows⟩ := follow?_eq_some_iff.mp followed
    exact ⟨trace, follows, follows.reproduces staying complete plain reads⟩
  · intro arrivals fed room
    obtain ⟨⟨turns, reads, followed⟩, stopped⟩ := Feed.reads_run setting session arrivals
    obtain ⟨trace, follows⟩ := follow?_eq_some_iff.mp followed
    have unlimited := Unlimited.of_follows follows (.start room)
    have neverFailed : ∀ {phase}, (Feed.run setting session arrivals).Stands phase →
        (Feed.run setting session arrivals).phase = phase :=
      fun stands => stands.resolve_right fun ⟨fault, failed⟩ => unlimited.written fault failed
    rw [fed] at reads
    obtain ⟨still, ended⟩ := follows.reproduces staying complete plain reads
    by_cases once : Turn.endOfInput ∈ turns
    · exact ⟨turns, trace, ended once, neverFailed (ended once).rests⟩
    · exact (stopped (neverFailed (still once).2.2)).elim

/-- A session with a run in flight. -/
def runningSession : Session :=
  (echoSession.dispatch echoSetting .run).1

/-- Lines that are commands, or that are typed like an escaped one. -/
def commandLines : Text :=
  ":run\n::quit\n\n".toList

/-- What is typed for these lines, cut within the first of them. -/
def typedChunks : List Arrival :=
  [.chunk (Utf8.encode "::r".toList), .chunk (Utf8.encode "un\n:::quit\n\n".toList)]

/-- The commands are appended as lines while a run is in flight, and its end is waited for. -/
theorem typed_script_reproduced_commands :
    runningSession.app.state = .running ∧
      ∃ turns trace,
        Reproduces echoSetting runningSession commandLines turns trace
          (Feed.run echoSetting runningSession typedChunks) ∧
        (Feed.run echoSetting runningSession typedChunks).phase = .ended := by
  have complete : Diagnostic.CompleteLines commandLines := .inr (by decide)
  have plain : ∀ line ∈ Text.segments commandLines, line.getLast? ≠ some '\r' := by decide
  have fed : Feed.input typedChunks = Utf8.encode (Message.typed commandLines) := by
    decide +kernel
  have room : runningSession.terminal.room = none := by decide +kernel
  have stopped : (Feed.run echoSetting runningSession typedChunks).session.app.state.isRunning =
      false := by
    decide +kernel
  have staying : runningSession.app.shouldQuit = false := by decide +kernel
  obtain ⟨turns, trace, reproduces, phase⟩ :=
    (typed_script_reproduced staying complete plain).2 typedChunks fed room
  refine ⟨by decide +kernel, turns, trace, reproduces, ?_⟩
  rw [phase, restingPhase, stopped]
  rfl

end Interactive

end ScriptDesk
