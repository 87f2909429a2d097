import ScriptDesk.Proofs.Text.Encoding
import ScriptDesk.Session.Feed

/-!
# Reading lines

Lines are told apart before they are decoded.  The reader keeps what follows the
last line feed until more arrives, so that the lines do not depend on where the
chunks of the input end.  Since no octet of a longer character is a line feed or
a carriage return, the lines of encoded text are the encoded lines.
-/

namespace ScriptDesk

/-- The input that arrives, if any does. -/
def Arrival.octets : Arrival → Octets
  | .chunk octets => octets
  | .permit => []

namespace Feed

/-- The whole input of a session. -/
def input (arrivals : List Arrival) : Octets :=
  arrivals.flatMap Arrival.octets

/-- What is left of a line at the end of the input counts as a line. -/
def lastLine (unread : Octets) : List Octets :=
  if unread.isEmpty then [] else [unread]

/-- The lines of a whole input, without their line ends. -/
def inputLines (input : Octets) : List Octets :=
  (splitLines input).1.map withoutReturn ++ lastLine (splitLines input).2

theorem splitLines_append (first second : Octets) :
    splitLines (first ++ second) =
      ((splitLines first).1 ++ (splitLines ((splitLines first).2 ++ second)).1,
        (splitLines ((splitLines first).2 ++ second)).2) := by
  induction first with
  | nil => rfl
  | cons octet first induction =>
      rw [List.cons_append, splitLines, induction, splitLines]
      obtain ⟨lines, unread⟩ := splitLines first
      by_cases lineFeed : octet = 10
      · simp only [if_pos lineFeed, List.cons_append]
      · cases lines with
        | nil =>
            simp only [if_neg lineFeed, List.nil_append, List.cons_append, splitLines]
        | cons line lines => simp only [if_neg lineFeed, List.cons_append]

theorem splitLines_of_not_mem {octets : Octets} (single : 10 ∉ octets) :
    splitLines octets = ([], octets) := by
  induction octets with
  | nil => rfl
  | cons octet octets induction =>
      rw [List.mem_cons, not_or] at single
      rw [splitLines, induction single.2]
      simp only [if_neg (Ne.symm single.1)]

theorem not_mem_unread (octets : Octets) : 10 ∉ (splitLines octets).2 := by
  induction octets with
  | nil => exact List.not_mem_nil
  | cons octet octets induction =>
      rw [splitLines]
      generalize splitLines octets = split at induction
      obtain ⟨lines, unread⟩ := split
      by_cases lineFeed : octet = 10
      · simpa only [if_pos lineFeed] using induction
      · cases lines with
        | nil =>
            simp only [if_neg lineFeed, List.mem_cons, not_or]
            exact ⟨Ne.symm lineFeed, induction⟩
        | cons line lines => simpa only [if_neg lineFeed] using induction

theorem splitLines_lineFeed {line : Octets} (single : 10 ∉ line) (rest : Octets) :
    splitLines (line ++ 10 :: rest) = (line :: (splitLines rest).1, (splitLines rest).2) := by
  induction line with
  | nil => rfl
  | cons octet line induction =>
      rw [List.mem_cons, not_or] at single
      rw [List.cons_append, splitLines, induction single.2]
      simp only [if_neg (Ne.symm single.1)]

theorem withoutReturn_eq_self {line : Octets} (plain : line.getLast? ≠ some 13) :
    withoutReturn line = line := by
  unfold withoutReturn
  split
  case h_1 last rest reversed =>
    rw [if_neg]
    rintro rfl
    exact plain (by rw [List.getLast?_eq_head?_reverse, reversed]; rfl)
  case h_2 => rfl

theorem splitLines_encode {lines : List Text} (single : ∀ line ∈ lines, '\n' ∉ line) :
    splitLines (Utf8.encode (lines.flatMap (· ++ ['\n']))) = (lines.map Utf8.encode, []) := by
  induction lines with
  | nil => rfl
  | cons line lines induction =>
      obtain ⟨first, others⟩ := List.forall_mem_cons.mp single
      have whole : 10 ∉ Utf8.encode line := fun member =>
        first (Utf8.mem_of_mem_encode (by decide) member)
      have parted : Utf8.encode ((line :: lines).flatMap (· ++ ['\n'])) =
          Utf8.encode line ++ 10 :: Utf8.encode (lines.flatMap (· ++ ['\n'])) := by
        rw [List.flatMap_cons, List.append_assoc, Utf8.encode_append]
        rfl
      rw [parted, splitLines_lineFeed whole, induction others, List.map_cons]

/-- Complete lines of text are read as they were written, if no carriage return belongs to
their line ends. -/
theorem inputLines_encode {lines : List Text} (single : ∀ line ∈ lines, '\n' ∉ line)
    (plain : ∀ line ∈ lines, line.getLast? ≠ some '\r') :
    inputLines (Utf8.encode (lines.flatMap (· ++ ['\n']))) = lines.map Utf8.encode := by
  have kept : ∀ line ∈ lines.map Utf8.encode, withoutReturn line = line := by
    rw [List.forall_mem_map]
    intro line member
    exact withoutReturn_eq_self fun last =>
      plain line member (Utf8.getLast?_of_getLast?_encode (by decide) last)
  rw [inputLines, splitLines_encode single, List.map_congr_left kept, List.map_id']
  exact List.append_nil _

end Feed

end ScriptDesk
