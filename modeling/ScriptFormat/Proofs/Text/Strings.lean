import ScriptFormat.Proofs.Text.Utf8

/-!
# Texts without surrogates are strings

A text without surrogates is what a string spells, and its encoding is that of the
string. So bytes are the encoding of a text exactly if they are valid as UTF-8.
-/

namespace ScriptFormat

/-- Whether a code point is a character is a matter of surrogates alone. -/
theorem CodePoint.exists_ofChar {point : CodePoint} (plain : point.isSurrogate = false) :
    ∃ letter, ofChar letter = point := by
  have apart := (Utf8.isSurrogate_eq_false_iff point).mp plain
  have bound := point.val_lt
  have valid : point.val.isValidChar := by unfold Nat.isValidChar; omega
  refine ⟨.ofNatAux point.val valid, ?_⟩
  cases point
  rfl

theorem CodePoint.isSurrogate_ofChar (letter : Char) : (ofChar letter).isSurrogate = false := by
  rw [Utf8.isSurrogate_eq_false_iff]
  rcases letter.valid with low | high
  · exact .inl low
  · exact .inr high.1

theorem Text.exists_ofString {text : Text} (plain : ∀ point ∈ text, point.isSurrogate = false) :
    ∃ string, ofString string = text := by
  suffices spelled : ∃ letters : List Char, letters.map CodePoint.ofChar = text by
    obtain ⟨letters, rfl⟩ := spelled
    exact ⟨.ofList letters, by rw [ofString, String.toList_ofList]⟩
  induction text with
  | nil => exact ⟨[], rfl⟩
  | cons point rest ih =>
      obtain ⟨first, others⟩ := List.forall_mem_cons.mp plain
      obtain ⟨letter, rfl⟩ := CodePoint.exists_ofChar first
      obtain ⟨letters, rfl⟩ := ih others
      exact ⟨letter :: letters, rfl⟩

theorem Text.isSurrogate_ofString (string : String) :
    ∀ point ∈ ofString string, point.isSurrogate = false := by
  intro point member
  obtain ⟨letter, _, rfl⟩ := List.mem_map.mp member
  exact CodePoint.isSurrogate_ofChar letter

namespace Utf8

def IsEncoding (text : Text) (bytes : Bytes) : Prop :=
  (∀ point ∈ text, point.isSurrogate = false) ∧ encodeAll text = bytes

theorem decode_eq_ok_iff_isEncoding (bytes : Bytes) (text : Text) :
    decode bytes = .ok text ↔ IsEncoding text bytes := by
  rw [decode_eq_ok_iff, encode_eq_ok_iff, IsEncoding]

/-- The bits are divided in the same way, and each mark is added from the other side. -/
theorem encodePoint_ofChar (letter : Char) :
    encodePoint (.ofChar letter) = String.utf8EncodeChar letter := by
  have value : (CodePoint.ofChar letter).val = letter.val.toNat := rfl
  have small : letter.val.toNat < 0x110000 := CodePoint.toNat_lt letter
  unfold encodePoint String.utf8EncodeChar
  simp only [value]
  generalize letter.val.toNat = number at small
  have last := Nat.add_comm 0x80 (number % 64)
  have second := Nat.add_comm 0x80 (number / 64 % 64)
  have third := Nat.add_comm 0x80 (number / 4096 % 64)
  have bounds (limit : Nat) : number ≤ limit ↔ number < limit + 1 := Nat.lt_succ_iff.symm
  simp only [bounds, Nat.reduceAdd]
  by_cases one : number < 0x80
  · rw [if_pos one, if_pos one]
  rw [if_neg one, if_neg one]
  by_cases two : number < 0x800
  · have lead : 0xC0 + number / 64 = number / 64 % 32 + 0xC0 := by omega
    rw [if_pos two, if_pos two, lead, last]
  rw [if_neg two, if_neg two]
  by_cases three : number < 0x10000
  · have lead : 0xE0 + number / 4096 = number / 4096 % 16 + 0xE0 := by omega
    rw [if_pos three, if_pos three, lead, second, last]
  · have lead : 0xF0 + number / 262144 = number / 262144 % 8 + 0xF0 := by omega
    rw [if_neg three, if_neg three, lead, third, second, last]

theorem encodeAll_ofString (string : String) :
    (encodeAll (.ofString string)).toByteArray = string.toByteArray := by
  rw [← String.utf8Encode_toList, List.utf8Encode, encodeAll, Text.ofString, List.flatMap_map]
  simp only [encodePoint_ofChar]

/-- Bytes have a text exactly if they are valid. -/
theorem exists_isEncoding_iff (bytes : Bytes) :
    (∃ text, IsEncoding text bytes) ↔ bytes.toByteArray.IsValidUTF8 := by
  constructor
  · rintro ⟨text, plain, rfl⟩
    obtain ⟨string, rfl⟩ := Text.exists_ofString plain
    rw [encodeAll_ofString, ← String.utf8Encode_toList]
    exact ⟨_, rfl⟩
  · rintro ⟨letters, same⟩
    refine ⟨.ofString (.ofList letters), Text.isSurrogate_ofString _, ?_⟩
    apply List.toByteArray_inj.mp
    rw [encodeAll_ofString, String.toByteArray_ofList, same]

end Utf8

end ScriptFormat
