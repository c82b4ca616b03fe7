import ScriptFormat.Text.Utf8

/-!
# UTF-8 both ways

Decoding takes one character after the other, and each character it takes is one
that encoding gives. So a byte string has a text exactly if it is the encoding
of that text.
-/

namespace ScriptFormat.Utf8

theorem follow?_eq_some_iff (lead : UInt8) (count : Nat) :
    follow? lead = some count ↔
      (count = 0 ∧ lead.toNat < 0x80) ∨
      (count = 1 ∧ 0xC2 ≤ lead.toNat ∧ lead.toNat ≤ 0xDF) ∨
      (count = 2 ∧ 0xE0 ≤ lead.toNat ∧ lead.toNat ≤ 0xEF) ∨
      (count = 3 ∧ 0xF0 ≤ lead.toNat ∧ lead.toNat ≤ 0xF4) := by
  unfold follow?
  simp only [UInt8.le_iff_toNat_le, UInt8.lt_iff_toNat_lt, Bool.and_eq_true, decide_eq_true_eq,
    UInt8.reduceToNat]
  split
  · simp only [Option.some.injEq]; omega
  split
  · simp only [Option.some.injEq]; omega
  split
  · simp only [Option.some.injEq]; omega
  split
  · simp only [Option.some.injEq]; omega
  · simp only [reduceCtorEq, false_iff]; omega

theorem isContinuation_iff (byte : UInt8) :
    isContinuation byte = true ↔ 0x80 ≤ byte.toNat ∧ byte.toNat ≤ 0xBF := by
  simp [isContinuation, UInt8.le_iff_toNat_le]

/-- A second byte is a continuation byte that keeps to the bounds of four lead bytes. -/
theorem isSecond_iff (lead byte : UInt8) :
    isSecond lead byte = true ↔
      (0x80 ≤ byte.toNat ∧ byte.toNat ≤ 0xBF) ∧
      (lead.toNat = 0xE0 → 0xA0 ≤ byte.toNat) ∧ (lead.toNat = 0xED → byte.toNat ≤ 0x9F) ∧
      (lead.toNat = 0xF0 → 0x90 ≤ byte.toNat) ∧ (lead.toNat = 0xF4 → byte.toNat ≤ 0x8F) := by
  unfold isSecond
  simp only [← UInt8.toNat_inj, UInt8.le_iff_toNat_le, UInt8.reduceToNat]
  split
  · simp only [Bool.and_eq_true, decide_eq_true_eq]; omega
  split
  · simp only [Bool.and_eq_true, decide_eq_true_eq]; omega
  split
  · simp only [Bool.and_eq_true, decide_eq_true_eq]; omega
  split
  · simp only [Bool.and_eq_true, decide_eq_true_eq]; omega
  · rw [isContinuation_iff]; omega

theorem ofNat_eq_of_toNat_eq (byte : UInt8) {number : Nat} (same : byte.toNat = number) :
    UInt8.ofNat number = byte := by
  rw [← same, UInt8.ofNat_toNat]

theorem toNat_ofNat_of_lt (number : Nat) (small : number < 256) :
    (UInt8.ofNat number).toNat = number :=
  UInt8.toNat_ofNat_of_lt' small

theorem val_ofNat_of_lt (number : Nat) (small : number < 0x110000) :
    (CodePoint.ofNat number).val = number :=
  Nat.mod_eq_of_lt small

theorem ofNat_eq_of_val_eq {point : CodePoint} {number : Nat} (same : point.val = number) :
    CodePoint.ofNat number = point := by
  rw [← same, CodePoint.ofNat_val]

theorem isSurrogate_eq_false_iff (point : CodePoint) :
    point.isSurrogate = false ↔ point.val < 0xD800 ∨ 0xDFFF < point.val := by
  simp only [CodePoint.isSurrogate, Bool.and_eq_false_iff, decide_eq_false_iff_not, Nat.not_le]

/-- A code point that bytes stand for: no surrogate, and they are its encoding. -/
def Stands (bytes : Bytes) (point : CodePoint) : Prop :=
  point.isSurrogate = false ∧ encodePoint point = bytes

theorem stands_one {lead : UInt8} (low : lead.toNat < 0x80) :
    Stands [lead] (.ofNat lead.toNat) := by
  have value := val_ofNat_of_lt lead.toNat (by omega)
  refine ⟨(isSurrogate_eq_false_iff _).mpr (by omega), ?_⟩
  simp only [encodePoint, value, if_pos low, UInt8.ofNat_toNat]

theorem stands_two {lead second : UInt8}
    (first : 0xC2 ≤ lead.toNat ∧ lead.toNat ≤ 0xDF)
    (next : 0x80 ≤ second.toNat ∧ second.toNat ≤ 0xBF) :
    Stands [lead, second] (pointOfTwo lead second) := by
  have value : (pointOfTwo lead second).val =
      (lead.toNat - 0xC0) * 64 + (second.toNat - 0x80) :=
    val_ofNat_of_lt _ (by unfold tail; omega)
  refine ⟨(isSurrogate_eq_false_iff _).mpr (by omega), ?_⟩
  simp only [encodePoint, value]
  rw [if_neg (by omega), if_pos (by omega),
    ofNat_eq_of_toNat_eq lead (by omega),
    ofNat_eq_of_toNat_eq second (by omega)]

theorem stands_three {lead second third : UInt8}
    (first : 0xE0 ≤ lead.toNat ∧ lead.toNat ≤ 0xEF) (next : isSecond lead second = true)
    (last : isContinuation third = true) :
    Stands [lead, second, third] (pointOfThree lead second third) := by
  rw [isSecond_iff] at next
  rw [isContinuation_iff] at last
  have value : (pointOfThree lead second third).val =
      (lead.toNat - 0xE0) * 4096 + (second.toNat - 0x80) * 64 + (third.toNat - 0x80) :=
    val_ofNat_of_lt _ (by unfold tail; omega)
  refine ⟨(isSurrogate_eq_false_iff _).mpr (by omega), ?_⟩
  simp only [encodePoint, value]
  rw [if_neg (by omega), if_neg (by omega), if_pos (by omega),
    ofNat_eq_of_toNat_eq lead (by omega),
    ofNat_eq_of_toNat_eq second (by omega),
    ofNat_eq_of_toNat_eq third (by omega)]

theorem stands_four {lead second third fourth : UInt8}
    (first : 0xF0 ≤ lead.toNat ∧ lead.toNat ≤ 0xF4) (next : isSecond lead second = true)
    (middle : isContinuation third = true) (last : isContinuation fourth = true) :
    Stands [lead, second, third, fourth] (pointOfFour lead second third fourth) := by
  rw [isSecond_iff] at next
  rw [isContinuation_iff] at middle last
  have value : (pointOfFour lead second third fourth).val =
      (lead.toNat - 0xF0) * 262144 + (second.toNat - 0x80) * 4096 + (third.toNat - 0x80) * 64 +
        (fourth.toNat - 0x80) :=
    val_ofNat_of_lt _ (by unfold tail; omega)
  refine ⟨(isSurrogate_eq_false_iff _).mpr (by omega), ?_⟩
  simp only [encodePoint, value]
  rw [if_neg (by omega), if_neg (by omega), if_neg (by omega),
    ofNat_eq_of_toNat_eq lead (by omega),
    ofNat_eq_of_toNat_eq second (by omega),
    ofNat_eq_of_toNat_eq third (by omega),
    ofNat_eq_of_toNat_eq fourth (by omega)]

/-! ## Decoding gives the text of an encoding -/

/-- Whatever is decoded goes behind what was read, and is what the bytes encode. -/
theorem encodeAll_of_decodeFrom {position : Nat} {read text : Text} {bytes : Bytes}
    (decoded : decodeFrom position read bytes = .ok text) :
    ∃ later, text = read.reverse ++ later ∧ (∀ point ∈ later, point.isSurrogate = false) ∧
      encodeAll later = bytes := by
  have extend {point : CodePoint} {read : Text} {front rest : Bytes}
      (stands : Stands front point)
      (behind : ∃ later, text = (point :: read).reverse ++ later ∧
        (∀ point ∈ later, point.isSurrogate = false) ∧ encodeAll later = rest) :
      ∃ later, text = read.reverse ++ later ∧ (∀ point ∈ later, point.isSurrogate = false) ∧
        encodeAll later = front ++ rest := by
    obtain ⟨later, shape, plain, encoded⟩ := behind
    refine ⟨point :: later, by simpa using shape, ?_, ?_⟩
    · exact List.forall_mem_cons.mpr ⟨stands.1, plain⟩
    · rw [encodeAll, List.flatMap_cons, stands.2]
      exact congrArg (front ++ ·) encoded
  fun_induction decodeFrom position read bytes with
  | case1 position read =>
      cases decoded
      exact ⟨[], by simp, by simp, rfl⟩
  | case3 position read lead rest announced ih =>
      have low := (follow?_eq_some_iff lead 0).mp announced
      exact extend (stands_one (by omega)) (ih decoded)
  | case6 position read lead second rest accepted _ announced ih =>
      have first := (follow?_eq_some_iff lead 1).mp announced
      have next := (isSecond_iff lead second).mp (by simpa using accepted)
      exact extend (stands_two (by omega) next.1) (ih decoded)
  | case9 position read lead second accepted third rest last _ announced _ ih =>
      have first := (follow?_eq_some_iff lead 2).mp announced
      exact extend (stands_three (by omega) (by simpa using accepted) (by simpa using last))
        (ih decoded)
  | case12 position read lead count positive announced second accepted notOne third middle notTwo
      fourth rest last ih =>
      have first := (follow?_eq_some_iff lead count).mp announced
      have many : count ≠ 0 := positive
      exact extend (stands_four (by omega) (by simpa using accepted) (by simpa using middle)
        (by simpa using last)) (ih decoded)
  | _ => cases decoded

/-! ## An encoding is decoded to its text -/

theorem decodeFrom_one {lead : UInt8} {position : Nat} {read : Text} {rest : Bytes}
    (announced : follow? lead = some 0) :
    decodeFrom position read (lead :: rest) =
      decodeFrom (position + 1) (CodePoint.ofNat lead.toNat :: read) rest := by
  rw [decodeFrom, announced]
  rfl

theorem decodeFrom_two {lead second : UInt8} {position : Nat} {read : Text} {rest : Bytes}
    (announced : follow? lead = some 1) (accepted : isSecond lead second = true) :
    decodeFrom position read (lead :: second :: rest) =
      decodeFrom (position + 2) (pointOfTwo lead second :: read) rest := by
  rw [decodeFrom, announced]
  simp [accepted]

theorem decodeFrom_three {lead second third : UInt8} {position : Nat} {read : Text}
    {rest : Bytes} (announced : follow? lead = some 2) (accepted : isSecond lead second = true)
    (last : isContinuation third = true) :
    decodeFrom position read (lead :: second :: third :: rest) =
      decodeFrom (position + 3) (pointOfThree lead second third :: read) rest := by
  rw [decodeFrom, announced]
  simp [accepted, last]

theorem decodeFrom_four {lead second third fourth : UInt8} {position : Nat} {read : Text}
    {rest : Bytes} (announced : follow? lead = some 3) (accepted : isSecond lead second = true)
    (middle : isContinuation third = true) (last : isContinuation fourth = true) :
    decodeFrom position read (lead :: second :: third :: fourth :: rest) =
      decodeFrom (position + 4) (pointOfFour lead second third fourth :: read) rest := by
  rw [decodeFrom, announced]
  simp [accepted, middle, last]

section Widths

variable {point : CodePoint} (position : Nat) (read : Text) (rest : Bytes)

theorem decodeFrom_width_one (one : point.val < 0x80) :
    decodeFrom position read (encodePoint point ++ rest) =
      decodeFrom (position + 1) (point :: read) rest := by
  have lead := toNat_ofNat_of_lt point.val (by omega)
  have whole : CodePoint.ofNat (UInt8.ofNat point.val).toNat = point :=
    ofNat_eq_of_val_eq lead.symm
  simp only [encodePoint, if_pos one, List.cons_append, List.nil_append]
  rw [decodeFrom_one ((follow?_eq_some_iff _ _).mpr (by omega)), whole]

theorem decodeFrom_width_two (more : ¬ point.val < 0x80) (two : point.val < 0x800) :
    decodeFrom position read (encodePoint point ++ rest) =
      decodeFrom (position + 2) (point :: read) rest := by
  have lead := toNat_ofNat_of_lt (0xC0 + point.val / 64) (by omega)
  have second := toNat_ofNat_of_lt (0x80 + point.val % 64) (by omega)
  have whole : pointOfTwo (.ofNat (0xC0 + point.val / 64)) (.ofNat (0x80 + point.val % 64)) =
      point :=
    ofNat_eq_of_val_eq (by unfold tail; omega)
  simp only [encodePoint, if_neg more, if_pos two, List.cons_append, List.nil_append]
  rw [decodeFrom_two ((follow?_eq_some_iff _ _).mpr (by omega))
    ((isSecond_iff _ _).mpr (by omega)), whole]

theorem decodeFrom_width_three (plain : point.isSurrogate = false) (more : ¬ point.val < 0x800)
    (three : point.val < 0x10000) :
    decodeFrom position read (encodePoint point ++ rest) =
      decodeFrom (position + 3) (point :: read) rest := by
  have apart := (isSurrogate_eq_false_iff point).mp plain
  have wide : ¬ point.val < 0x80 := by omega
  have lead := toNat_ofNat_of_lt (0xE0 + point.val / 4096) (by omega)
  have second := toNat_ofNat_of_lt (0x80 + point.val / 64 % 64) (by omega)
  have third := toNat_ofNat_of_lt (0x80 + point.val % 64) (by omega)
  have whole : pointOfThree (.ofNat (0xE0 + point.val / 4096))
      (.ofNat (0x80 + point.val / 64 % 64)) (.ofNat (0x80 + point.val % 64)) = point :=
    ofNat_eq_of_val_eq (by unfold tail; omega)
  simp only [encodePoint, if_neg wide, if_neg more, if_pos three, List.cons_append,
    List.nil_append]
  rw [decodeFrom_three ((follow?_eq_some_iff _ _).mpr (by omega))
    ((isSecond_iff _ _).mpr (by omega)) ((isContinuation_iff _).mpr (by omega)), whole]

theorem decodeFrom_width_four (more : ¬ point.val < 0x10000) :
    decodeFrom position read (encodePoint point ++ rest) =
      decodeFrom (position + 4) (point :: read) rest := by
  have bound := point.val_lt
  have wide : ¬ point.val < 0x80 := by omega
  have wider : ¬ point.val < 0x800 := by omega
  have lead := toNat_ofNat_of_lt (0xF0 + point.val / 262144) (by omega)
  have second := toNat_ofNat_of_lt (0x80 + point.val / 4096 % 64) (by omega)
  have third := toNat_ofNat_of_lt (0x80 + point.val / 64 % 64) (by omega)
  have fourth := toNat_ofNat_of_lt (0x80 + point.val % 64) (by omega)
  have whole : pointOfFour (.ofNat (0xF0 + point.val / 262144))
      (.ofNat (0x80 + point.val / 4096 % 64)) (.ofNat (0x80 + point.val / 64 % 64))
      (.ofNat (0x80 + point.val % 64)) = point :=
    ofNat_eq_of_val_eq (by unfold tail; omega)
  simp only [encodePoint, if_neg wide, if_neg wider, if_neg more, List.cons_append,
    List.nil_append]
  rw [decodeFrom_four ((follow?_eq_some_iff _ _).mpr (by omega))
    ((isSecond_iff _ _).mpr (by omega)) ((isContinuation_iff _).mpr (by omega))
    ((isContinuation_iff _).mpr (by omega)), whole]

/-- Decoding takes one encoded character at a time, if it is no surrogate. -/
theorem decodeFrom_encodePoint (plain : point.isSurrogate = false) :
    ∃ next, decodeFrom position read (encodePoint point ++ rest) =
      decodeFrom next (point :: read) rest := by
  by_cases one : point.val < 0x80
  · exact ⟨_, decodeFrom_width_one position read rest one⟩
  by_cases two : point.val < 0x800
  · exact ⟨_, decodeFrom_width_two position read rest one two⟩
  by_cases three : point.val < 0x10000
  · exact ⟨_, decodeFrom_width_three position read rest plain two three⟩
  · exact ⟨_, decodeFrom_width_four position read rest three⟩

end Widths

theorem decodeFrom_encodeAll {text : Text} (plain : ∀ point ∈ text, point.isSurrogate = false)
    (position : Nat) (read : Text) :
    decodeFrom position read (encodeAll text) = .ok (read.reverse ++ text) := by
  induction text generalizing position read with
  | nil => simp [encodeAll, decodeFrom]
  | cons point rest ih =>
      obtain ⟨first, others⟩ := List.forall_mem_cons.mp plain
      obtain ⟨next, taken⟩ := decodeFrom_encodePoint position read (encodeAll rest) first
      rw [encodeAll, List.flatMap_cons]
      exact taken.trans (by simpa using ih others next (point :: read))

theorem encode_eq_ok_iff (text : Text) (bytes : Bytes) :
    encode text = .ok bytes ↔
      (∀ point ∈ text, point.isSurrogate = false) ∧ encodeAll text = bytes := by
  unfold encode
  rw [← EncodeFault.find?_eq_none_iff "utf-8" "surrogates not allowed"]
  cases EncodeFault.find? "utf-8" "surrogates not allowed" CodePoint.isSurrogate text with
  | none => simp
  | some fault => simp

/-- Only texts with a surrogate have no encoding. -/
theorem encode_eq_error_iff (text : Text) :
    (∃ fault, encode text = .error fault) ↔ ∃ point ∈ text, point.isSurrogate = true := by
  have plain := encode_eq_ok_iff text (encodeAll text)
  cases encoded : encode text with
  | ok bytes =>
      have shape := (encode_eq_ok_iff text bytes).mp encoded
      simpa using shape.1
  | error fault =>
      rw [encoded] at plain
      simpa using plain

/-- Bytes have exactly one text, the one that they encode. -/
theorem decode_eq_ok_iff (bytes : Bytes) (text : Text) :
    decode bytes = .ok text ↔ encode text = .ok bytes := by
  rw [encode_eq_ok_iff]
  constructor
  · intro decoded
    obtain ⟨later, shape, plain, encoded⟩ := encodeAll_of_decodeFrom decoded
    have same : text = later := by simpa using shape
    rw [same]
    exact ⟨plain, encoded⟩
  · rintro ⟨plain, encoded⟩
    rw [← encoded]
    exact decodeFrom_encodeAll plain 0 []

end ScriptFormat.Utf8
