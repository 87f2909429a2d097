import ScriptDesk.Text.Utf8

/-!
# Encoded text is read back

The octets of a character lead the reader from between characters through the
characters that it can still become, and back to between characters.  The first
octet leaves the leading bits and bounds for the second; the bounds exclude what
has a shorter encoding and what is no character, hence no character is refused.

An octet below 0x80 stands for itself wherever it occurs, so that a reader can
look for line ends before it decodes.
-/

namespace ScriptDesk

namespace Utf8

theorem toNat_tail (bits : Nat) : (UInt8.ofNat (bits % 64 + 0x80)).toNat = bits % 64 + 0x80 := by
  rw [UInt8.toNat_ofNat']
  omega

section Reading

variable {index : Nat} {rest : Octets} {text : Text}

theorem decodeFrom_of_complete {octet : UInt8} {character : Char}
    (complete : begin octet = .complete character)
    (others : ∀ index, decodeFrom index none rest = .ok text) :
    decodeFrom index none (octet :: rest) = .ok (character :: text) := by
  simp only [decodeFrom, complete, others]
  rfl

theorem decodeFrom_of_unfinished {octet : UInt8} {pending : Pending}
    (unfinished : begin octet = .unfinished pending) :
    decodeFrom index none (octet :: rest) = decodeFrom index (some pending) rest := by
  simp only [decodeFrom, unfinished]

variable {low high leading bits read : Nat}

theorem decodeFrom_last (above : low ≤ bits % 64 + 0x80) (below : bits % 64 + 0x80 ≤ high)
    (others : ∀ index, decodeFrom index none rest = .ok text) :
    decodeFrom index (some ⟨1, low, high, leading, read⟩)
        (UInt8.ofNat (bits % 64 + 0x80) :: rest) =
      .ok (Char.ofNat (leading * 64 + bits % 64) :: text) := by
  have added : (bits % 64 + 0x80) % 64 = bits % 64 := by omega
  simp only [decodeFrom, Pending.advance, toNat_tail, above, below, and_self, added,
    Nat.le_refl, if_true, others]
  rfl

theorem decodeFrom_further {owed : Nat} (above : low ≤ bits % 64 + 0x80)
    (below : bits % 64 + 0x80 ≤ high) :
    decodeFrom index (some ⟨owed + 2, low, high, leading, read⟩)
        (UInt8.ofNat (bits % 64 + 0x80) :: rest) =
      decodeFrom index (some ⟨owed + 1, 0x80, 0xBF, leading * 64 + bits % 64, read + 1⟩)
        rest := by
  have added : (bits % 64 + 0x80) % 64 = bits % 64 := by omega
  have more : ¬owed + 2 ≤ 1 := by omega
  simp only [decodeFrom, Pending.advance, toNat_tail, above, below, and_self, added,
    if_true, if_neg more]
  rfl

end Reading

section First

variable {octet : UInt8} {leading : Nat}

theorem begin_of_two (value : octet.toNat = leading + 0xC0) (large : 2 ≤ leading)
    (small : leading < 32) :
    begin octet = .unfinished ⟨1, 0x80, 0xBF, leading, 1⟩ := by
  have first : ¬leading + 0xC0 ≤ 0x7F := by omega
  have second : ¬leading + 0xC0 < 0xC2 := by omega
  have third : leading + 0xC0 ≤ 0xDF := by omega
  simp only [begin, value, if_neg first, if_neg second, if_pos third, Nat.add_sub_cancel]

theorem begin_of_three (value : octet.toNat = leading + 0xE0) (small : leading < 16) :
    begin octet = .unfinished
      ⟨2, if leading = 0 then 0xA0 else 0x80, if leading = 13 then 0x9F else 0xBF,
        leading, 1⟩ := by
  simp only [begin, value]
  grind

theorem begin_of_four (value : octet.toNat = leading + 0xF0) (small : leading ≤ 4) :
    begin octet = .unfinished
      ⟨3, if leading = 0 then 0x90 else 0x80, if leading = 4 then 0x8F else 0xBF,
        leading, 1⟩ := by
  simp only [begin, value]
  grind

end First

/-- The octets of a character are read back as the character. -/
theorem decodeFrom_encodeChar {rest : Octets} {text : Text} (index : Nat) (character : Char)
    (others : ∀ index, decodeFrom index none rest = .ok text) :
    decodeFrom index none (String.utf8EncodeChar character ++ rest) = .ok (character :: text) := by
  have valid : character.toNat < 0xD800 ∨
      0xDFFF < character.toNat ∧ character.toNat < 0x110000 :=
    character.valid
  have back : ∀ {value : Nat}, value = character.toNat → Char.ofNat value = character := by
    intro value same
    rw [same, Char.ofNat_toNat]
  unfold String.utf8EncodeChar
  simp only [← Char.toNat_val] at valid back ⊢
  generalize character.val.toNat = value at valid back ⊢
  split
  case isTrue one =>
    have octet : (UInt8.ofNat value).toNat = value := by
      rw [UInt8.toNat_ofNat']
      omega
    have complete : begin (UInt8.ofNat value) = .complete character := by
      simp only [begin, octet, if_pos one, back rfl]
    exact decodeFrom_of_complete complete others
  split
  case isTrue two =>
    have octet : (UInt8.ofNat (value / 64 % 32 + 0xC0)).toNat = value / 64 + 0xC0 := by
      rw [UInt8.toNat_ofNat']
      omega
    have total : value / 64 * 64 + value % 64 = value := by omega
    rw [List.cons_append, decodeFrom_of_unfinished (begin_of_two octet (by omega) (by omega)),
      List.cons_append, List.nil_append, decodeFrom_last (by omega) (by omega) others,
      back total]
  split
  case isTrue three =>
    have octet : (UInt8.ofNat (value / 4096 % 16 + 0xE0)).toNat = value / 4096 + 0xE0 := by
      rw [UInt8.toNat_ofNat']
      omega
    have total : (value / 4096 * 64 + value / 64 % 64) * 64 + value % 64 = value := by omega
    rw [List.cons_append, decodeFrom_of_unfinished (begin_of_three octet (by omega)),
      List.cons_append, decodeFrom_further (by split <;> omega) (by split <;> omega),
      List.cons_append, List.nil_append, decodeFrom_last (by omega) (by omega) others,
      back total]
  case isFalse four =>
    have octet : (UInt8.ofNat (value / 262144 % 8 + 0xF0)).toNat = value / 262144 + 0xF0 := by
      rw [UInt8.toNat_ofNat']
      omega
    have total : ((value / 262144 * 64 + value / 4096 % 64) * 64 + value / 64 % 64) * 64 +
        value % 64 = value := by omega
    rw [List.cons_append, decodeFrom_of_unfinished (begin_of_four octet (by omega)),
      List.cons_append, decodeFrom_further (by split <;> omega) (by split <;> omega),
      List.cons_append, decodeFrom_further (by omega) (by omega),
      List.cons_append, List.nil_append, decodeFrom_last (by omega) (by omega) others,
      back total]

theorem decodeFrom_encode (index : Nat) (text : Text) :
    decodeFrom index none (encode text) = .ok text := by
  induction text generalizing index with
  | nil => rfl
  | cons character text induction => exact decodeFrom_encodeChar index character induction

theorem decode_encode (text : Text) : decode (encode text) = .ok text :=
  decodeFrom_encode 0 text

/-- An octet below 0x80 stands for a character on its own, never for a part of one. -/
theorem toNat_eq_of_mem_encodeChar {octet : UInt8} {character : Char}
    (small : octet.toNat < 0x80) (member : octet ∈ String.utf8EncodeChar character) :
    character.toNat = octet.toNat := by
  unfold String.utf8EncodeChar at member
  simp only [← Char.toNat_val] at member ⊢
  generalize character.val.toNat = value at member ⊢
  split at member
  case isTrue one =>
    rw [List.mem_singleton.mp member, UInt8.toNat_ofNat']
    omega
  case isFalse several =>
    have large : 0x80 ≤ octet.toNat := by
      split at member
      case isTrue two =>
        simp only [List.mem_cons, List.not_mem_nil, or_false] at member
        rcases member with rfl | rfl
        all_goals rw [UInt8.toNat_ofNat']; omega
      split at member
      case isTrue three =>
        simp only [List.mem_cons, List.not_mem_nil, or_false] at member
        rcases member with rfl | rfl | rfl
        all_goals rw [UInt8.toNat_ofNat']; omega
      case isFalse four =>
        simp only [List.mem_cons, List.not_mem_nil, or_false] at member
        rcases member with rfl | rfl | rfl | rfl
        all_goals rw [UInt8.toNat_ofNat']; omega
    omega

theorem mem_of_mem_encode {octet : UInt8} {text : Text} (small : octet.toNat < 0x80)
    (member : octet ∈ encode text) : Char.ofNat octet.toNat ∈ text := by
  obtain ⟨character, within, inside⟩ := List.mem_flatMap.mp member
  rw [← toNat_eq_of_mem_encodeChar small inside, Char.ofNat_toNat]
  exact within

theorem encode_append (first second : Text) :
    encode (first ++ second) = encode first ++ encode second :=
  List.flatMap_append

theorem getLast?_of_getLast?_encode {octet : UInt8} {text : Text} (small : octet.toNat < 0x80)
    (last : (encode text).getLast? = some octet) :
    text.getLast? = some (Char.ofNat octet.toNat) := by
  rcases List.eq_nil_or_concat text with rfl | ⟨before, character, rfl⟩
  · cases last
  · have nonempty : encode [character] ≠ [] := by
      simp [encode, String.utf8EncodeChar_ne_nil]
    rw [List.concat_eq_append] at last ⊢
    rw [encode_append, List.getLast?_append, List.getLast?_eq_some_getLast nonempty,
      Option.some_or] at last
    have inside : octet ∈ encode [character] := Option.some.inj last ▸ List.getLast_mem nonempty
    rw [List.getLast?_concat, List.mem_singleton.mp (mem_of_mem_encode small inside)]

end Utf8

end ScriptDesk
