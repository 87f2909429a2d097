import ScriptDesk.Buffer
import ScriptDesk.Proofs.Text.Encoding

/-!
# Where the octets of a text can be cut

A boundary is the end of the octets or an octet with which a character begins.  Cutting
the text there leaves whole characters on both sides, and it is only there that the text
can be cut.  The octets before an offset lead to a boundary.
-/

namespace ScriptDesk

namespace Utf8

/-- A character begins at the octet, or the octets of the text end there. -/
def Boundary (text : Text) (index : Nat) : Prop :=
  index = (encode text).length ∨
    ∃ octet, (encode text)[index]? = some octet ∧ octet.IsUTF8FirstByte

variable {text : Text} {character : Char} {index : Nat}

theorem encode_cons (character : Char) (text : Text) :
    encode (character :: text) = String.utf8EncodeChar character ++ encode text :=
  List.flatMap_cons

theorem length_encode (text : Text) : (encode text).length = size text := by
  induction text with
  | nil => rfl
  | cons character text induction =>
      rw [encode_cons, List.length_append, String.length_utf8EncodeChar, induction, size_cons]

theorem size_append (first second : Text) : size (first ++ second) = size first + size second := by
  simp only [← length_encode, encode_append, List.length_append]

theorem Boundary.le_length (boundary : Boundary text index) :
    index ≤ (encode text).length := by
  rcases boundary with ended | ⟨octet, found, -⟩
  · exact Nat.le_of_eq ended
  · exact Nat.le_of_lt (List.getElem?_eq_some_iff.mp found).1

/-- Of the octets of a character, the first one alone is a boundary. -/
theorem boundary_cons_iff_of_lt (inside : index < character.utf8Size) :
    Boundary (character :: text) index ↔ index = 0 := by
  have within : index < (String.utf8EncodeChar character).length := by
    rwa [String.length_utf8EncodeChar]
  have begins : (String.utf8EncodeChar character)[index].IsUTF8FirstByte ↔ index = 0 :=
    UInt8.isUTF8FirstByte_getElem_utf8EncodeChar
  rw [Boundary, encode_cons, List.getElem?_append_left within, List.getElem?_eq_getElem within]
  constructor
  · rintro (ended | ⟨octet, found, first⟩)
    · rw [ended, List.length_append] at within
      omega
    · rw [← Option.some.inj found] at first
      exact begins.mp first
  · intro beginning
    exact .inr ⟨_, rfl, begins.mpr beginning⟩

theorem boundary_cons_add_iff (character : Char) (text : Text) (index : Nat) :
    Boundary (character :: text) (character.utf8Size + index) ↔ Boundary text index := by
  rw [Boundary, Boundary, encode_cons, ← String.length_utf8EncodeChar, List.length_append,
    Nat.add_left_cancel_iff, List.getElem?_append_right (Nat.le_add_right _ _),
    Nat.add_sub_cancel_left]

theorem boundary_zero (text : Text) : Boundary text 0 := by
  cases text with
  | nil => exact .inl rfl
  | cons character text => exact (boundary_cons_iff_of_lt character.utf8Size_pos).mpr rfl

/-- A text can be cut at its boundaries and nowhere else. -/
theorem isSome_dropOctets?_iff : (dropOctets? index text).isSome ↔ Boundary text index := by
  induction text generalizing index with
  | nil =>
      cases index with
      | zero => exact iff_of_true rfl (boundary_zero [])
      | succ index =>
          refine iff_of_false Bool.false_ne_true ?_
          intro boundary
          exact absurd boundary.le_length (Nat.not_succ_le_zero index)
  | cons character text induction =>
      cases index with
      | zero => exact iff_of_true rfl (boundary_zero (character :: text))
      | succ index =>
          by_cases fits : character.utf8Size ≤ index + 1
          · rw [dropOctets?, if_pos fits, induction, ← boundary_cons_add_iff character,
              Nat.add_sub_cancel' fits]
          · rw [dropOctets?, if_neg fits, boundary_cons_iff_of_lt (Nat.lt_of_not_le fits)]
            exact iff_of_false Bool.false_ne_true (Nat.succ_ne_zero index)

end Utf8

namespace Position

theorem boundary_octetIndex (text : Text) (offset : Nat) :
    Utf8.Boundary text (octetIndex text offset) := by
  rw [← Utf8.isSome_dropOctets?_iff, octetIndex, Utf8.dropOctets?_size_take]
  rfl

/-- The octets before an offset are those of the characters before it. -/
theorem take_octetIndex (text : Text) (offset : Nat) :
    (Utf8.encode text).take (octetIndex text offset) = Utf8.encode (text.take offset) := by
  have parted : Utf8.encode text =
      Utf8.encode (text.take offset) ++ Utf8.encode (text.drop offset) := by
    rw [← Utf8.encode_append, List.take_append_drop]
  rw [octetIndex, ← Utf8.length_encode, parted, List.take_left]

end Position

end ScriptDesk
