import NestMonorepo.Collections.Doubles
import NestMonorepo.Common.Text
import Mathlib.Data.List.DropRight
import Mathlib.Data.Nat.Digits.Defs

/-! # Numbers as JavaScript reads and writes them

`Number(text)` reads a whole text and `parseInt` the digits at its start; both round to a
double. The two zeros are one here.
-/

namespace NestMonorepo

open Doubles

inductive JsNumber
  | nan
  | infinity (negative : Bool)
  | finite (value : ℚ)
  deriving DecidableEq

namespace JsNumber

/-- `-x`. -/
def neg : JsNumber → JsNumber
  | nan => nan
  | infinity negative => infinity !negative
  | finite value => finite (-value)

/-- The number nearest to a rational that is not negative. -/
def ofRat (value : ℚ) : JsNumber :=
  if value = 0 then finite 0
  else match nearest? value with
    | some rounded => finite rounded
    | none => infinity false

/-- `Number.isInteger`. -/
def integer? : JsNumber → Option ℤ
  | finite value => if value.den = 1 then some value.num else none
  | _ => none

end JsNumber

/-! ## `Number(text)` -/

/-- The value of a digit in a base up to sixteen. -/
def digitIn? (base : ℕ) (char : Char) : Option ℕ :=
  let value? :=
    if char.isDigit then some (char.toNat - '0'.toNat)
    else if 'a' ≤ char && char ≤ 'f' then some (char.toNat - 'a'.toNat + 10)
    else if 'A' ≤ char && char ≤ 'F' then some (char.toNat - 'A'.toNat + 10)
    else none
  value?.filter fun value => value < base

/-- At least one digit, and nothing else. -/
def naturalIn? (base : ℕ) (text : List Char) : Option ℕ :=
  if text = [] then none
  else (text.mapM (digitIn? base)).map fun digits => Nat.ofDigits base digits.reverse

/-- The text before the first of the characters, and the text after it if there is one. -/
def splitFirst (isMark : Char → Bool) (text : List Char) : List Char × Option (List Char) :=
  (text.takeWhile fun char => !isMark char, (text.dropWhile fun char => !isMark char).tail?)

/-- `SignedInteger`. -/
def exponent? : List Char → Option ℤ
  | '-' :: digits => (naturalIn? 10 digits).map fun value => -(value : ℤ)
  | '+' :: digits => (naturalIn? 10 digits).map fun value => (value : ℤ)
  | digits => (naturalIn? 10 digits).map fun value => (value : ℤ)

/-- `StrUnsignedDecimalLiteral`. -/
def unsignedDecimal (text : List Char) : JsNumber :=
  if text = "Infinity".toList then .infinity false
  else
    let (mantissa, exponentText) := splitFirst (fun char => char = 'e' || char = 'E') text
    let (whole, fraction) := splitFirst (fun char => char = '.') mantissa
    match naturalIn? 10 (whole ++ fraction.getD []), exponentText.elim (some 0) exponent? with
    | some digits, some exponent =>
        .ofRat (digits * (10 : ℚ) ^ (exponent - (fraction.getD []).length))
    | _, _ => .nan

def inBase (base : ℕ) (digits : List Char) : JsNumber :=
  (naturalIn? base digits).elim .nan fun value => .ofRat value

/-- `StringNumericLiteral`, without the white space around it. -/
def numericLiteral : List Char → JsNumber
  | [] => .finite 0
  | '0' :: 'x' :: digits | '0' :: 'X' :: digits => inBase 16 digits
  | '0' :: 'o' :: digits | '0' :: 'O' :: digits => inBase 8 digits
  | '0' :: 'b' :: digits | '0' :: 'B' :: digits => inBase 2 digits
  | '-' :: rest => (unsignedDecimal rest).neg
  | '+' :: rest => unsignedDecimal rest
  | text => unsignedDecimal text

/-- `Number(text)`. -/
def toNumber (text : String) : JsNumber := numericLiteral (trim text).toList

/-! ## `String(number)` -/

/-- The decimal without zeros at the end. -/
def strippedDecimal (decimal : ℕ × ℤ) : List Char × ℤ :=
  let digits := Nat.toDigits 10 decimal.1
  let significant := digits.rdropWhile fun char => char = '0'
  (significant, decimal.2 + (digits.length - significant.length))

/-- The digits with a point after the first. -/
def pointed : List Char → List Char
  | first :: second :: rest => first :: '.' :: second :: rest
  | digits => digits

/-- How a positive number is written with these digits, the last of which has the exponent. -/
def layout (digits : List Char) (exponent : ℤ) : List Char :=
  let point := digits.length + exponent
  if 0 ≤ exponent && point ≤ 21 then digits ++ List.replicate exponent.toNat '0'
  else if 0 < point && point ≤ 21 then
    digits.take point.toNat ++ '.' :: digits.drop point.toNat
  else if -6 < point && point ≤ 0 then
    '0' :: '.' :: List.replicate (-point).toNat '0' ++ digits
  else
    let sign := if 0 < point then '+' else '-'
    pointed digits ++ 'e' :: sign :: Nat.toDigits 10 (point - 1).natAbs

def positiveText (value : ℚ) : List Char :=
  let (digits, exponent) := strippedDecimal (shortest value)
  layout digits exponent

/-- `String(number)`. -/
def JsNumber.toText : JsNumber → List Char
  | .nan => "NaN".toList
  | .infinity negative => if negative then "-Infinity".toList else "Infinity".toList
  | .finite value =>
      if value = 0 then ['0']
      else if 0 < value then positiveText value
      else '-' :: positiveText (-value)

/-! ## `parseInt(text, 10)` -/

/-- The digits at the start. -/
def leadingInt (text : List Char) : JsNumber :=
  match text.takeWhile Char.isDigit with
  | [] => .nan
  | digits => .ofRat (Nat.ofDigitChars 10 digits 0)

/-- `parseInt(text, 10)`. -/
def parseInt (text : List Char) : JsNumber :=
  match text.dropWhile isTrimmed with
  | '-' :: rest => (leadingInt rest).neg
  | '+' :: rest => leadingInt rest
  | rest => leadingInt rest

/-! ## Writing and reading an integer -/

section Integers

variable {number : ℕ} {digits : List Char}

/-- A number is printed with digits only. -/
theorem toDigits_all_isDigit (number : ℕ) : ∀ char ∈ Nat.toDigits 10 number, char.isDigit :=
  fun _ member => Nat.isDigit_of_mem_toDigits (by norm_num) (by norm_num) member

/-- The zeros at the end are what is left out. -/
theorem rdropWhile_append_zeros (digits : List Char) :
    (digits.rdropWhile fun char => char = '0') ++
      List.replicate (digits.length - (digits.rdropWhile fun char => char = '0').length) '0' =
    digits := by
  have split : (digits.rdropWhile fun char => char = '0') ++
      (digits.rtakeWhile fun char => char = '0') = digits := List.rdropWhile_append_rtakeWhile
  have zeros : digits.rtakeWhile (fun char => char = '0') =
      List.replicate (digits.rtakeWhile fun char => char = '0').length '0' := by
    apply List.eq_replicate_of_mem
    intro char member
    have zero := List.mem_rtakeWhile_imp member
    exact of_decide_eq_true zero
  have lengths := congrArg List.length split
  rw [List.length_append] at lengths
  rw [← Nat.eq_sub_of_add_eq' lengths, ← zeros, split]

/-- A decimal has no more places than its value allows. -/
theorem length_toDigits_add_le {mantissa exponent places : ℕ} (positive : 0 < mantissa)
    (small : mantissa * 10 ^ exponent < 10 ^ places) :
    (Nat.toDigits 10 mantissa).length + exponent ≤ places := by
  have one : 0 < (Nat.toDigits 10 mantissa).length := Nat.length_toDigits_pos
  have least : 10 ^ ((Nat.toDigits 10 mantissa).length - 1) ≤ mantissa := by
    by_contra! less
    rcases Nat.eq_zero_or_pos ((Nat.toDigits 10 mantissa).length - 1) with single | more
    · rw [single] at less
      omega
    · have fewer := (Nat.length_toDigits_le_iff (by norm_num) more).mpr less
      omega
  have power : 10 ^ ((Nat.toDigits 10 mantissa).length - 1 + exponent) < 10 ^ places := by
    rw [pow_add]
    exact (Nat.mul_le_mul_right _ least).trans_lt small
  have places_lt := (Nat.pow_lt_pow_iff_right (by norm_num)).mp power
  omega

/-- A positive number is printed without a sign. -/
theorem toText_of_pos {value : ℚ} (positive : 0 < value) :
    (JsNumber.finite value).toText = positiveText value := by
  simp only [JsNumber.toText, positive.ne', ↓reduceIte, positive]

/-- A natural number is written with its digits only: those of a mantissa, with zeros behind
them. -/
theorem exists_toText_natCast (positive : 0 < number) (small : number < 2 ^ 52) :
    ∃ mantissa exponent : ℕ, (JsNumber.finite number).toText =
        Nat.toDigits 10 mantissa ++ List.replicate exponent '0' ∧
      mantissa * 10 ^ exponent = number := by
  obtain ⟨mantissa, exponent, found, value⟩ := exists_shortest_natCast positive small
  refine ⟨mantissa, exponent, ?_, value⟩
  have mantissa_pos : 0 < mantissa := by
    rcases Nat.eq_zero_or_pos mantissa with zero | pos
    · rw [zero, Nat.zero_mul] at value
      omega
    · exact pos
  have bounded : mantissa * 10 ^ exponent < 10 ^ 21 := by
    rw [value]
    exact small.trans (by norm_num)
  have places := length_toDigits_add_le mantissa_pos bounded
  have zeros := rdropWhile_append_zeros (Nat.toDigits 10 mantissa)
  rw [toText_of_pos (Nat.cast_pos.mpr positive), positiveText, found]
  simp only [strippedDecimal]
  generalize (Nat.toDigits 10 mantissa).rdropWhile (fun char => char = '0') = significant at *
  have lengths := congrArg List.length zeros
  rw [List.length_append, List.length_replicate] at lengths
  have trailing :
      ((exponent : ℤ) + ((Nat.toDigits 10 mantissa).length - significant.length)).toNat =
      (Nat.toDigits 10 mantissa).length - significant.length + exponent := by omega
  rw [layout, if_pos]
  · rw [trailing, List.replicate_add, ← List.append_assoc, zeros]
  · simp only [Bool.and_eq_true, decide_eq_true_eq]
    omega

/-- A digit is not trimmed away. -/
theorem isTrimmed_of_isDigit {char : Char} (digit : char.isDigit = true) :
    isTrimmed char = false := by
  have range : 48 ≤ char.toNat ∧ char.toNat ≤ 57 := Char.isDigit_iff_toNat.mp digit
  obtain ⟨low, high⟩ := range
  rw [Bool.eq_false_iff]
  intro white
  simp only [isTrimmed, List.contains_iff_mem, Bool.or_eq_true, Bool.and_eq_true,
    decide_eq_true_eq, List.mem_cons, List.not_mem_nil, or_false] at white
  omega

/-- A natural number below 2^53 is a double, so nothing is rounded. -/
theorem ofRat_natCast (small : number < 2 ^ 53) : JsNumber.ofRat number = .finite number := by
  unfold JsNumber.ofRat
  split
  · rename_i zero
    rw [zero]
  · rw [nearest?_natCast small]

/-- A text of digits is read as a whole, in base ten: it has no sign and no prefix of
another base. -/
theorem parseInt_of_isDigit (nonempty : digits ≠ []) (all : ∀ char ∈ digits, char.isDigit = true) :
    parseInt digits = .ofRat (Nat.ofDigitChars 10 digits 0) := by
  have leading : leadingInt digits = .ofRat (Nat.ofDigitChars 10 digits 0) := by
    rw [leadingInt, List.takeWhile_eq_self_iff.mpr all]
    cases digits with
    | nil => exact (nonempty rfl).elim
    | cons first rest => rfl
  cases digits with
  | nil => exact (nonempty rfl).elim
  | cons first rest =>
      have digit := all first List.mem_cons_self
      have kept : (first :: rest).dropWhile isTrimmed = first :: rest := by
        rw [List.dropWhile_cons_of_neg]
        rw [isTrimmed_of_isDigit digit]
        exact Bool.false_ne_true
      unfold parseInt
      rw [kept]
      split
      · rename_i minus
        injection minus with sign
        rw [sign] at digit
        cases digit
      · rename_i plus
        injection plus with sign
        rw [sign] at digit
        cases digit
      · exact leading

/-- Writing a natural number and reading it back gives the number. -/
theorem parseInt_toText_natCast (positive : 0 < number) (small : number < 2 ^ 52) :
    parseInt (JsNumber.finite number).toText = .finite number := by
  obtain ⟨mantissa, exponent, text, value⟩ := exists_toText_natCast positive small
  rw [text, parseInt_of_isDigit]
  · have read : Nat.ofDigitChars 10
        (Nat.toDigits 10 mantissa ++ List.replicate exponent '0') 0 = number := by
      rw [Nat.ofDigitChars_append, Nat.ofDigitChars_ten_toDigits,
        Nat.ofDigitChars_replicate_zero, Nat.mul_comm, value]
    rw [read, ofRat_natCast (small.trans (by norm_num))]
  · exact List.append_ne_nil_of_left_ne_nil Nat.toDigits_ne_nil _
  · intro char member
    rcases List.mem_append.mp member with significant | zero
    · exact toDigits_all_isDigit mantissa char significant
    · rw [List.eq_of_mem_replicate zero]
      rfl

end Integers

/-! ## Texts that are no numbers -/

section NotNumbers

variable {first : Char} {rest : List Char}

/-- A text that starts with no digit is no natural number. -/
theorem naturalIn?_cons {base : ℕ} (noDigit : digitIn? base first = none) :
    naturalIn? base (first :: rest) = none := by
  rw [naturalIn?, if_neg (List.cons_ne_nil _ _), List.mapM_cons, noDigit]
  rfl

/-- What an unsigned decimal starts with. -/
theorem unsignedDecimal_cons (noInfinity : first ≠ 'I') (noDigit : digitIn? 10 first = none)
    (noExponent : (decide (first = 'e') || decide (first = 'E')) = false)
    (noPoint : decide (first = '.') = false) : unsignedDecimal (first :: rest) = .nan := by
  have finite : first :: rest ≠ "Infinity".toList := by
    intro same
    injection same with head
    exact noInfinity head
  rw [unsignedDecimal, if_neg finite]
  simp only [splitFirst, List.takeWhile_cons, noExponent, noPoint, Bool.not_false, ↓reduceIte,
    List.cons_append, naturalIn?_cons noDigit]

/-- A text that starts with a quote is no number. -/
theorem numericLiteral_quote (quote : first = '"' ∨ first = '\'') :
    numericLiteral (first :: rest) = .nan := by
  have unsigned : numericLiteral (first :: rest) = unsignedDecimal (first :: rest) := by
    rcases quote with rfl | rfl <;> rfl
  rw [unsigned]
  rcases quote with rfl | rfl
  · exact unsignedDecimal_cons (by decide) rfl rfl rfl
  · exact unsignedDecimal_cons (by decide) rfl rfl rfl

end NotNumbers


end NestMonorepo
