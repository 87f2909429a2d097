import ScriptDesk.Proofs.Text.Segments

/-!
# The lines of a text

Three notions of line are compared: the segments of a text, the segments of its body,
which is the text without a line feed at its end, and the lines that a reader sees.  The
last segment is empty exactly if the text is empty or ends in a line feed.  So there are
as many lines as segments of the body, and the lines with a line feed behind each of them
are the text again, but for the carriage returns before line feeds.
-/

namespace ScriptDesk

namespace Text

variable {text body line : Text} {character : Char}

theorem complete_of_segments {closed : List Text} (shape : segments text = closed ++ [[]]) :
    Diagnostic.CompleteLines text := by
  have whole : text = closed.flatMap (· ++ ['\n']) := by
    rw [← joinWith_concat_nil, ← shape, joinWith_segments]
  rcases List.eq_nil_or_concat closed with rfl | ⟨before, last, rfl⟩
  · exact .inl whole
  · right
    rw [whole, List.concat_eq_append, List.flatMap_append]
    simp [List.getLast?_append]

theorem getLast?_segments_eq_nil_iff :
    (segments text).getLast? = some [] ↔ Diagnostic.CompleteLines text := by
  rw [List.getLast?_eq_some_iff]
  constructor
  · rintro ⟨closed, shape⟩
    exact complete_of_segments shape
  · intro complete
    exact ⟨_, segments_of_complete complete⟩

/-- The body of a text is the text without a line feed at its end. -/
inductive Body : Text → Text → Prop where
  | closed (body : Text) : Body (body ++ ['\n']) body
  | unclosed {text : Text} (unclosed : text.getLast? ≠ some '\n') : Body text text

theorem dropOneTrailing_concat (text : Text) (character : Char) :
    dropOneTrailing character (text ++ [character]) = text := by
  simp [dropOneTrailing]

theorem dropOneTrailing_of_ne (other : text.getLast? ≠ some character) :
    dropOneTrailing character text = text := by
  rcases List.eq_nil_or_concat text with rfl | ⟨before, last, rfl⟩
  · rfl
  · have different : last ≠ character := by simpa using other
    simp [dropOneTrailing, different]

theorem dropOneTrailing_cons (first : Char) (nonempty : text ≠ []) :
    dropOneTrailing character (first :: text) = first :: dropOneTrailing character text := by
  by_cases ends : text.getLast? = some character
  · obtain ⟨before, rfl⟩ := List.getLast?_eq_some_iff.mp ends
    rw [← List.cons_append, dropOneTrailing_concat, dropOneTrailing_concat]
  · have endsNot : (first :: text).getLast? ≠ some character := by
      rwa [List.getLast?_cons_of_ne_nil nonempty]
    rw [dropOneTrailing_of_ne ends, dropOneTrailing_of_ne endsNot]

theorem body_dropOneTrailing (text : Text) : Body text (dropOneTrailing '\n' text) := by
  by_cases ends : text.getLast? = some '\n'
  · obtain ⟨before, rfl⟩ := List.getLast?_eq_some_iff.mp ends
    rw [dropOneTrailing_concat]
    exact .closed before
  · rw [dropOneTrailing_of_ne ends]
    exact .unclosed ends

theorem linesOfSegments_cons (piece : Text) {pieces : List Text} (nonempty : pieces ≠ []) :
    linesOfSegments (piece :: pieces) = dropOneTrailing '\r' piece :: linesOfSegments pieces := by
  cases pieces with
  | nil => exact (nonempty rfl).elim
  | cons next pieces => rfl

theorem length_linesOfSegments (closed : List Text) (last : Text) :
    (linesOfSegments (closed ++ [last])).length =
      closed.length + if last = [] then 0 else 1 := by
  induction closed with
  | nil => cases last <;> rfl
  | cons piece closed induction =>
      rw [List.cons_append, linesOfSegments_cons piece (by simp), List.length_cons, induction,
        List.length_cons]
      omega

/-- A reader sees as many lines as the body of the text has segments. -/
theorem Body.length_lines (isBody : Body text body) (nonempty : text ≠ []) :
    (lines text).length = (segments body).length := by
  cases isBody with
  | closed body =>
      rw [lines, segments_append_lineFeed, segments, length_linesOfSegments, if_pos rfl,
        Nat.add_zero]
  | unclosed unclosed =>
      have incomplete : ¬ Diagnostic.CompleteLines text := by
        rintro (empty | closed)
        · exact nonempty empty
        · exact unclosed closed
      obtain ⟨closed, last, shape⟩ : ∃ closed last, segments text = closed ++ [last] :=
        ⟨_, _, (List.dropLast_concat_getLast (segments_ne_nil text)).symm⟩
      have filled : last ≠ [] := by
        rintro rfl
        exact incomplete (complete_of_segments shape)
      rw [lines, shape, length_linesOfSegments, if_neg filled, List.length_append,
        List.length_singleton]

/-- A text with a line feed wherever it has a carriage return and a line feed. -/
def shortBreaks : Text → Text
  | '\r' :: '\n' :: rest => '\n' :: shortBreaks rest
  | character :: rest => character :: shortBreaks rest
  | [] => []

/-- The line feed that a text lacks at its end. -/
def missingBreak (text : Text) : Text :=
  if text = [] ∨ text.getLast? = some '\n' then [] else ['\n']

theorem shortBreaks_of_single (single : '\n' ∉ line) : shortBreaks line = line := by
  fun_induction shortBreaks line with
  | case1 rest induction => simp at single
  | case2 first rest _ induction =>
      rw [induction (fun later => single (List.mem_cons_of_mem _ later))]
  | case3 => rfl

/-- The first line of a text loses a carriage return at its end. -/
theorem shortBreaks_append_lineFeed (single : '\n' ∉ line) (rest : Text) :
    shortBreaks (line ++ '\n' :: rest) = dropOneTrailing '\r' line ++ '\n' :: shortBreaks rest := by
  induction line with
  | nil => rfl
  | cons first line induction =>
      have later : '\n' ∉ line := fun member => single (List.mem_cons_of_mem _ member)
      cases line with
      | nil =>
          by_cases isReturn : first = '\r'
          · subst isReturn
            rfl
          · rw [dropOneTrailing_of_ne (by simpa using isReturn)]
            simp [shortBreaks, isReturn]
      | cons second line =>
          have kept : shortBreaks (first :: second :: (line ++ '\n' :: rest)) =
              first :: shortBreaks (second :: (line ++ '\n' :: rest)) := by
            have other : second ≠ '\n' := fun same => later (same ▸ List.mem_cons_self)
            simp [shortBreaks, other]
          rw [dropOneTrailing_cons first (List.cons_ne_nil _ _)]
          exact kept.trans (congrArg (first :: ·) (induction later))

theorem flatMap_linesOfSegments {pieces : List Text} (nonempty : pieces ≠ [])
    (single : ∀ piece ∈ pieces, '\n' ∉ piece) :
    (linesOfSegments pieces).flatMap (· ++ ['\n']) =
      shortBreaks (joinWith ['\n'] pieces) ++
        if pieces.getLast? = some [] then [] else ['\n'] := by
  induction pieces with
  | nil => exact (nonempty rfl).elim
  | cons piece pieces induction =>
      have pieceSingle : '\n' ∉ piece := single piece List.mem_cons_self
      cases pieces with
      | nil =>
          rw [joinWith, shortBreaks_of_single pieceSingle]
          cases piece <;> simp [linesOfSegments]
      | cons next pieces =>
          have others := induction (List.cons_ne_nil _ _)
            fun piece member => single piece (List.mem_cons_of_mem _ member)
          have joined : joinWith ['\n'] (piece :: next :: pieces) =
              piece ++ '\n' :: joinWith ['\n'] (next :: pieces) := by
            rw [joinWith, List.append_assoc, List.singleton_append]
          rw [linesOfSegments, List.flatMap_cons, others, joined,
            shortBreaks_append_lineFeed pieceSingle, List.getLast?_cons_cons]
          simp

/-- The lines of a text, each closed by a line feed, are the text with short breaks and
without a line that is not closed. -/
theorem flatMap_lines (text : Text) :
    (lines text).flatMap (· ++ ['\n']) = shortBreaks text ++ missingBreak text := by
  rw [lines, flatMap_linesOfSegments (segments_ne_nil text) fun _ => not_mem_of_mem_segments,
    joinWith_segments, missingBreak]
  simp only [getLast?_segments_eq_nil_iff, Diagnostic.CompleteLines]

theorem dropOneTrailing_prefix (character : Char) (text : Text) :
    dropOneTrailing character text <+: text := by
  by_cases ends : text.getLast? = some character
  · obtain ⟨before, rfl⟩ := List.getLast?_eq_some_iff.mp ends
    rw [dropOneTrailing_concat]
    exact List.prefix_append _ _
  · simp [dropOneTrailing_of_ne ends]

theorem exists_prefix_of_mem_linesOfSegments {pieces : List Text}
    (member : line ∈ linesOfSegments pieces) : ∃ piece ∈ pieces, line <+: piece := by
  fun_induction linesOfSegments pieces with
  | case1 => cases member
  | case2 last empty => cases member
  | case3 last filled =>
      obtain rfl := List.mem_singleton.mp member
      exact ⟨line, List.mem_singleton_self line, List.prefix_refl line⟩
  | case4 closed next rest induction =>
      rcases List.mem_cons.mp member with rfl | later
      · exact ⟨closed, List.mem_cons_self, dropOneTrailing_prefix _ _⟩
      · obtain ⟨piece, within, isPrefix⟩ := induction later
        exact ⟨piece, List.mem_cons_of_mem _ within, isPrefix⟩

theorem not_mem_of_mem_lines (member : line ∈ lines text) : '\n' ∉ line := by
  obtain ⟨piece, within, isPrefix⟩ := exists_prefix_of_mem_linesOfSegments member
  exact fun feed => not_mem_of_mem_segments within (isPrefix.subset feed)

end Text

end ScriptDesk
