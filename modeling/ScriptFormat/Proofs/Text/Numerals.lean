import Mathlib.Data.Nat.Digits.Defs
import ScriptFormat.Proofs.Text.Pieces
import ScriptFormat.Text.Numeral

/-!
# Numerals and what they stand for

The texts that are read as integers, as a grammar: blanks, a sign, and digits with single
underscores between some of them. A text is read exactly if it is of that form and has no more
digits than are read, and the integer is the one that its digits have by their places.
-/

namespace ScriptFormat

def underscore : CodePoint := 95

/-- A digit is so far behind the zero of its script. -/
theorem CodePoint.exists_zero {point : CodePoint} {value : Nat}
    (digit : point.digit? = some value) :
    value < 10 ∧ ∃ first ∈ zeros, point = ofNat (first + value) := by
  obtain ⟨first, found, rfl⟩ := Option.map_eq_some_iff.mp digit
  have fits := List.find?_some found
  have range := of_decide_eq_true fits
  refine ⟨by omega, first, List.mem_of_find?_eq_some found, ?_⟩
  rw [Nat.add_sub_cancel' range.1, ofNat_val]

namespace Numeral

/-- Digits of any script with single underscores between some of them, and their values. -/
inductive Digits : Text → List Nat → Prop where
  | last {point : CodePoint} {value : Nat} (digit : point.digit? = some value) :
      Digits [point] [value]
  | next {point : CodePoint} {value : Nat} {rest : Text} {values : List Nat}
      (digit : point.digit? = some value) (others : Digits rest values) :
      Digits (point :: rest) (value :: values)
  | parted {point : CodePoint} {value : Nat} {rest : Text} {values : List Nat}
      (digit : point.digit? = some value) (others : Digits rest values) :
      Digits (point :: underscore :: rest) (value :: values)

inductive Sign where
  | absent
  | plus
  | minus
  deriving DecidableEq

def Sign.text : Sign → Text
  | .absent => []
  | .plus => "+"
  | .minus => "-"

def Sign.apply (sign : Sign) (number : Nat) : Int := if sign = .minus then -number else number

inductive Spells : Text → Sign → List Nat → Prop where
  | surrounded {front body behind : Text} {values : List Nat} (sign : Sign)
      (before : ∀ point ∈ front, isBlank point = true) (digits : Digits body values)
      (after : ∀ point ∈ behind, isBlank point = true) :
      Spells (front ++ (sign.text ++ body) ++ behind) sign values

/-- The texts with an underscore that has no digit in front of it or behind it, such as one that
leads, one at the end and the first of two, and the texts without any digit. -/
inductive Malformed : Text → Prop where
  | leading {left right : Text} (bare : ∀ point ∈ left.getLast?, point.digit? = none) :
      Malformed (left ++ underscore :: right)
  | trailing {left right : Text} (bare : ∀ point ∈ right.head?, point.digit? = none) :
      Malformed (left ++ underscore :: right)
  | doubled (left right : Text) : Malformed (left ++ underscore :: underscore :: right)
  | digitless {text : Text} (bare : ∀ point ∈ text, point.digit? = none) : Malformed text

def number (values : List Nat) : Nat := Nat.ofDigits 10 values.reverse

theorem valueOf_eq (values : List Nat) : valueOf values = number values := by
  rw [valueOf, number, List.foldl_eq_foldr_reverse, Nat.ofDigits_eq_foldr]
  congr
  funext digit value
  exact (Nat.add_comm _ _).trans (congrArg _ (Nat.mul_comm _ _))

section Points

variable {point : CodePoint} {value : Nat}

theorem isBlank_of_digit (digit : point.digit? = some value) : isBlank point = false := by
  have tried : ∀ first ∈ CodePoint.zeros, ∀ value < 10,
      isBlank (CodePoint.ofNat (first + value)) = false := by
    decide +kernel
  obtain ⟨small, first, listed, rfl⟩ := CodePoint.exists_zero digit
  exact tried first listed value small

theorem ne_of_digit {mark : CodePoint} (digit : point.digit? = some value)
    (none : mark.digit? = none) : point ≠ mark := by
  rintro rfl
  rw [none] at digit
  cases digit

end Points

theorem underscore_digit? : underscore.digit? = none := by decide +kernel

theorem isBlank_underscore : isBlank underscore = false := by decide +kernel

theorem mem_getLast?_cons {text : Text} {point : CodePoint} (last : point ∈ text.getLast?)
    (first : CodePoint) : point ∈ (first :: text).getLast? := by
  rw [List.getLast?_cons, Option.mem_def.mp last]
  rfl

namespace Digits

variable {body : Text} {values : List Nat}

theorem head (digits : Digits body values) :
    ∃ point rest value, body = point :: rest ∧ point.digit? = some value := by
  cases digits with
  | last digit => exact ⟨_, _, _, rfl, digit⟩
  | next digit => exact ⟨_, _, _, rfl, digit⟩
  | parted digit => exact ⟨_, _, _, rfl, digit⟩

theorem getLast (digits : Digits body values) :
    ∃ point ∈ body.getLast?, ∃ value, point.digit? = some value := by
  induction digits with
  | last digit => exact ⟨_, rfl, _, digit⟩
  | next _ _ ih =>
      obtain ⟨point, last, digit⟩ := ih
      exact ⟨point, mem_getLast?_cons last _, digit⟩
  | parted _ _ ih =>
      obtain ⟨point, last, digit⟩ := ih
      exact ⟨point, mem_getLast?_cons (mem_getLast?_cons last _) _, digit⟩

theorem lt_ten (digits : Digits body values) : ∀ value ∈ values, value < 10 := by
  induction digits with
  | last digit => exact List.forall_mem_singleton.mpr (CodePoint.exists_zero digit).1
  | next digit _ ih => exact List.forall_mem_cons.mpr ⟨(CodePoint.exists_zero digit).1, ih⟩
  | parted digit _ ih => exact List.forall_mem_cons.mpr ⟨(CodePoint.exists_zero digit).1, ih⟩

theorem number_lt (digits : Digits body values) : number values < 10 ^ values.length := by
  have bound : Nat.ofDigits 10 values.reverse < 10 ^ values.reverse.length :=
    Nat.ofDigits_lt_base_pow_length (by decide) fun value member =>
      digits.lt_ten value (List.mem_reverse.mp member)
  rwa [List.length_reverse] at bound

/-- On either side of an underscore there is a digit. -/
theorem around_underscore (digits : Digits body values) {left right : Text}
    (shape : body = left ++ underscore :: right) :
    (∃ point ∈ left.getLast?, point.digit? ≠ none) ∧
      ∃ point ∈ right.head?, point.digit? ≠ none := by
  have starts {point : CodePoint} {value : Nat} {rest left : Text}
      (digit : point.digit? = some value) (shape : point :: rest = left ++ underscore :: right) :
      ∃ more, left = point :: more ∧ rest = more ++ underscore :: right := by
    cases left with
    | nil => exact absurd (List.cons.inj shape).1 (ne_of_digit digit underscore_digit?)
    | cons first more =>
        obtain ⟨rfl, later⟩ := List.cons.inj shape
        exact ⟨more, rfl, later⟩
  induction digits generalizing left with
  | last digit =>
      obtain ⟨more, _, later⟩ := starts digit shape
      cases more <;> cases later
  | next digit _ ih =>
      obtain ⟨more, rfl, later⟩ := starts digit shape
      obtain ⟨⟨point, last, isDigit⟩, behind⟩ := ih later
      exact ⟨⟨point, mem_getLast?_cons last _, isDigit⟩, behind⟩
  | parted digit others ih =>
      obtain ⟨more, rfl, later⟩ := starts digit shape
      cases more with
      | nil =>
          obtain ⟨_, rfl⟩ := List.cons.inj later
          obtain ⟨point, rest, value, rfl, second⟩ := others.head
          exact ⟨⟨_, rfl, by simp [digit]⟩, point, rfl, by simp [second]⟩
      | cons mark more =>
          obtain ⟨_, further⟩ := List.cons.inj later
          obtain ⟨⟨point, last, isDigit⟩, behind⟩ := ih further
          exact ⟨⟨point, mem_getLast?_cons (mem_getLast?_cons last _) _, isDigit⟩, behind⟩

end Digits

theorem digits?_next {point second : CodePoint} {value : Nat} (digit : point.digit? = some value)
    (apart : second ≠ underscore) (rest : Text) :
    digits? (point :: second :: rest) = (digits? (second :: rest)).map (value :: ·) := by
  simp only [digits?, digit]
  exact congrArg _ (if_neg apart)

theorem digits?_parted {point : CodePoint} {value : Nat} (digit : point.digit? = some value)
    (rest : Text) : digits? (point :: underscore :: rest) = (digits? rest).map (value :: ·) := by
  simp only [digits?, digit]
  exact congrArg _ (if_pos rfl)

theorem digits?_of_digits {body : Text} {values : List Nat} (digits : Digits body values) :
    digits? body = some values := by
  induction digits with
  | last digit => rw [digits?, digit]; rfl
  | next digit others ih =>
      obtain ⟨point, rest, value, rfl, second⟩ := others.head
      rw [digits?_next digit (ne_of_digit second underscore_digit?), ih]
      rfl
  | parted digit others ih =>
      rw [digits?_parted digit, ih]
      rfl

theorem digits_of_digits? {body : Text} {values : List Nat} (read : digits? body = some values) :
    Digits body values := by
  fun_induction digits? body generalizing values with
  | case1 => cases read
  | case2 only =>
      obtain ⟨value, digit, rfl⟩ := Option.map_eq_some_iff.mp read
      exact .last digit
  | case3 => cases read
  | case4 point next rest value digit parted plain =>
      obtain ⟨others, found, rfl⟩ := Option.map_eq_some_iff.mp read
      split at found
      · next mark =>
          subst mark
          exact .parted digit (parted found)
      · exact .next digit (plain found)

/-! ## Numerals -/

section Spelled

variable {text body : Text} {sign : Sign} {values : List Nat}

theorem underscore_notMem_sign (sign : Sign) : underscore ∉ sign.text := by
  cases sign <;> decide +kernel

/-- Trimming leaves the sign and the digits. -/
theorem Digits.trimBy (digits : Digits body values) (sign : Sign) {front behind : Text}
    (before : ∀ point ∈ front, isBlank point = true)
    (after : ∀ point ∈ behind, isBlank point = true) :
    Text.trimBy isBlank (front ++ (sign.text ++ body) ++ behind) = sign.text ++ body := by
  have first : ∀ point ∈ (sign.text ++ body).head?, isBlank point = false := by
    obtain ⟨point, rest, value, rfl, digit⟩ := digits.head
    cases sign with
    | absent =>
        rintro _ ⟨⟩
        exact isBlank_of_digit digit
    | plus =>
        rintro _ ⟨⟩
        decide +kernel
    | minus =>
        rintro _ ⟨⟩
        decide +kernel
  have last : ∀ point ∈ (sign.text ++ body).getLast?, isBlank point = false := by
    obtain ⟨point, last, value, digit⟩ := digits.getLast
    rw [List.getLast?_append, Option.mem_def.mp last]
    rintro _ ⟨⟩
    exact isBlank_of_digit digit
  have nonempty : sign.text ++ body ≠ [] := by
    obtain ⟨point, rest, _, rfl, _⟩ := digits.head
    exact List.append_ne_nil_of_right_ne_nil _ (List.cons_ne_nil _ _)
  exact Text.trimBy_surrounded before first last after nonempty

theorem natural?_of_digits (digits : Digits body values) :
    natural? body = if values.length ≤ maxDigits then some (number values) else none := by
  rw [natural?, digits?_of_digits digits, ← valueOf_eq]

theorem digits_of_natural? {natural : Nat} (read : natural? body = some natural) :
    ∃ values, Digits body values := by
  unfold natural? at read
  cases found : digits? body with
  | none => rw [found] at read; cases read
  | some values => exact ⟨values, digits_of_digits? found⟩

theorem integer?_of_spells (spells : Spells text sign values) :
    integer? text =
      if values.length ≤ maxDigits then some (sign.apply (number values)) else none := by
  obtain @⟨front, body, behind, values, sign, before, digits, after⟩ := spells
  have mapped (signed : Nat → Int) : (natural? body).map signed =
      if values.length ≤ maxDigits then some (signed (number values)) else none := by
    rw [natural?_of_digits digits]
    split <;> rfl
  rw [integer?, digits.trimBy sign before after]
  cases sign with
  | absent =>
      obtain ⟨point, rest, value, rfl, digit⟩ := digits.head
      have unsigned : point ≠ 43 := ne_of_digit digit (by decide +kernel)
      have positive : point ≠ 45 := ne_of_digit digit (by decide +kernel)
      simp only [Sign.text, List.nil_append, if_neg unsigned, if_neg positive]
      exact mapped Int.ofNat
  | plus => exact mapped Int.ofNat
  | minus => exact mapped fun value => -Int.ofNat value

theorem spells_of_integer? {integer : Int} (read : integer? text = some integer) :
    ∃ sign values, Spells text sign values := by
  obtain ⟨front, behind, shape, before, after⟩ := Text.exists_trimBy isBlank text
  unfold integer? at read
  cases trimmed : Text.trimBy isBlank text with
  | nil => rw [trimmed] at read; cases read
  | cons first rest =>
      rw [trimmed] at read shape
      have spelled {body : Text} (sign : Sign) (same : sign.text ++ body = first :: rest)
          {signed : Nat → Int} (read : (natural? body).map signed = some integer) :
          ∃ sign values, Spells text sign values := by
        obtain ⟨natural, found, _⟩ := Option.map_eq_some_iff.mp read
        obtain ⟨values, digits⟩ := digits_of_natural? found
        rw [shape, ← same]
        exact ⟨sign, values, .surrounded sign before digits after⟩
      dsimp only at read
      split at read
      · next plus => exact spelled .plus (by rw [plus]; rfl) read
      · split at read
        · next minus => exact spelled .minus (by rw [minus]; rfl) read
        · exact spelled .absent rfl read

/-- A text is read as an integer exactly if it spells it in no more digits than are read. -/
theorem integer?_eq_some_iff {integer : Int} :
    integer? text = some integer ↔
      ∃ sign values, Spells text sign values ∧ values.length ≤ maxDigits ∧
        integer = sign.apply (number values) := by
  constructor
  · intro read
    obtain ⟨sign, values, spells⟩ := spells_of_integer? read
    rw [integer?_of_spells spells] at read
    split at read
    · next room =>
        cases read
        exact ⟨sign, values, spells, room, rfl⟩
    · cases read
  · rintro ⟨sign, values, spells, room, rfl⟩
    rw [integer?_of_spells spells, if_pos room]

theorem integer?_of_not_spells (unspelled : ¬ ∃ sign values, Spells text sign values) :
    integer? text = none := by
  cases read : integer? text with
  | none => rfl
  | some integer => exact absurd (spells_of_integer? read) unspelled

/-- On either side of an underscore there is a digit, since blanks and signs are none. -/
theorem Spells.around_underscore (spells : Spells text sign values) {left right : Text}
    (shape : text = left ++ underscore :: right) :
    (∃ point ∈ left.getLast?, point.digit? ≠ none) ∧
      ∃ point ∈ right.head?, point.digit? ≠ none := by
  obtain @⟨front, body, behind, values, sign, before, digits, after⟩ := spells
  have apart {ends : Text} (blank : ∀ point ∈ ends, isBlank point = true) :
      underscore ∉ ends := by
    intro member
    have blanks := blank underscore member
    rw [isBlank_underscore] at blanks
    cases blanks
  have unsigned : underscore ∉ front ++ sign.text := by
    intro member
    rcases List.mem_append.mp member with inFront | inSign
    · exact apart before inFront
    · exact underscore_notMem_sign sign inSign
  rw [← List.append_assoc, List.append_assoc] at shape
  obtain ⟨middle, rfl, later⟩ := Text.split_behind unsigned shape
  obtain ⟨more, rfl, within⟩ := Text.split_front (apart after) later
  obtain ⟨⟨point, last, inFront⟩, second, first, inBehind⟩ := digits.around_underscore within
  constructor
  · exact ⟨point, by rw [List.getLast?_append, Option.mem_def.mp last]; rfl, inFront⟩
  · exact ⟨second, by rw [List.head?_append, Option.mem_def.mp first]; rfl, inBehind⟩

theorem not_spells_of_malformed (malformed : Malformed text) : ¬ Spells text sign values := by
  intro spells
  cases malformed with
  | leading bare =>
      obtain ⟨⟨point, last, digit⟩, _⟩ := spells.around_underscore rfl
      exact digit (bare point last)
  | trailing bare =>
      obtain ⟨_, point, first, digit⟩ := spells.around_underscore rfl
      exact digit (bare point first)
  | doubled left right =>
      obtain ⟨_, point, first, digit⟩ := spells.around_underscore rfl
      cases first
      exact digit underscore_digit?
  | digitless bare =>
      obtain @⟨front, body, behind, values, sign, before, digits, after⟩ := spells
      obtain ⟨point, rest, value, rfl, digit⟩ := digits.head
      have none := bare point (by simp)
      rw [none] at digit
      cases digit

end Spelled

/-! ## Writing -/

section Written

variable {text : Text} {sign : Sign} {values : List Nat}

theorem natAbs_apply (sign : Sign) (natural : Nat) : (sign.apply natural).natAbs = natural := by
  unfold Sign.apply
  split
  · rw [Int.natAbs_neg, Int.natAbs_natCast]
  · exact Int.natAbs_natCast natural

/-- What is read is not too long to be written. -/
theorem written?_of_integer? {integer : Int} (read : integer? text = some integer) :
    written? integer = some (Text.ofInt integer) := by
  obtain ⟨sign, values, ⟨_, _, digits, _⟩, room, rfl⟩ := integer?_eq_some_iff.mp read
  have small : number values < 10 ^ maxDigits :=
    Nat.lt_of_lt_of_le digits.number_lt (Nat.pow_le_pow_right (by decide) room)
  refine if_pos ?_
  rw [natAbs_apply, Text.ofNat, List.length_map]
  exact Nat.toDigits_length 10 _ _ (by decide) small

theorem Digits.concat {body : Text} (digits : Digits body values) {point : CodePoint} {value : Nat}
    (digit : point.digit? = some value) : Digits (body ++ [point]) (values ++ [value]) := by
  induction digits with
  | last first => exact .next first (.last digit)
  | next first _ ih => exact .next first ih
  | parted first _ ih => exact .parted first ih

theorem number_concat (values : List Nat) (value : Nat) :
    number (values ++ [value]) = value + 10 * number values := by
  rw [number, List.reverse_append, List.reverse_singleton, List.singleton_append,
    Nat.ofDigits_cons]
  rfl

/-- A number is written in its digits. -/
theorem exists_digits_ofNat (natural : Nat) :
    ∃ values, Digits (Text.ofNat natural) values ∧ number values = natural ∧
      values.length = (Text.ofNat natural).length := by
  have figure : ∀ value < 10, (CodePoint.ofChar value.digitChar).digit? = some value := by
    decide +kernel
  induction natural using Nat.strongRecOn with
  | ind natural ih =>
      rcases Nat.lt_or_ge natural 10 with single | several
      · refine ⟨[natural], ?_, ?_, ?_⟩
        · rw [Text.ofNat, Nat.toDigits_of_lt_base single]
          exact .last (figure natural single)
        · exact Nat.ofDigits_singleton
        · rw [Text.ofNat, Nat.toDigits_of_lt_base single]
          rfl
      · obtain ⟨values, digits, same, length⟩ :=
          ih (natural / 10) (Nat.div_lt_self (by omega) (by decide))
        have shape : Text.ofNat natural = Text.ofNat (natural / 10) ++
            [CodePoint.ofChar (natural % 10).digitChar] := by
          rw [Text.ofNat, Nat.toDigits_of_base_le (by decide) several, List.map_append]
          rfl
        rw [shape]
        refine ⟨values ++ [natural % 10],
          digits.concat (figure _ (Nat.mod_lt _ (by decide))), ?_, ?_⟩
        · rw [number_concat, same]
          exact Nat.mod_add_div natural 10
        · rw [List.length_append, List.length_append, length]
          rfl

theorem spells_ofNat (natural : Nat) :
    ∃ values, Spells (Text.ofNat natural) .absent values ∧ number values = natural ∧
      values.length = (Text.ofNat natural).length := by
  obtain ⟨values, digits, same, length⟩ := exists_digits_ofNat natural
  have spells : Spells ([] ++ (Sign.absent.text ++ Text.ofNat natural) ++ []) .absent values :=
    .surrounded .absent (fun _ member => nomatch member) digits (fun _ member => nomatch member)
  rw [List.append_nil] at spells
  exact ⟨values, spells, same, length⟩

end Written

end Numeral

end ScriptFormat
