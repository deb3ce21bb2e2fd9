import Mathlib.Data.Int.Log
import Mathlib.Data.Rat.Floor
import Mathlib.Data.Nat.Log
import Mathlib.Tactic.Linarith
import Mathlib.Tactic.Positivity

/-! # Doubles and their shortest decimals

A positive double is a rational, and rounding takes a rational to the nearest one. The
shortest decimal of a double is the one with the fewest digits that rounds to it; for a natural
number that is not too large it is the number itself.
-/

namespace Doubles

/-- The nearest integer, the even one of two. -/
def roundEven (value : ℚ) : ℤ :=
  let rest := value - ⌊value⌋
  if rest < 1 / 2 then ⌊value⌋
  else if 1 / 2 < rest then ⌊value⌋ + 1
  else if ⌊value⌋ % 2 = 0 then ⌊value⌋ else ⌊value⌋ + 1

/-- The exponent of the last of the 53 bits, or of the last one there is. -/
def lastBit (value : ℚ) : ℤ := max (Int.log 2 value - 52) (-1074)

/-- The double nearest to a positive rational, if it is finite. -/
def nearest? (value : ℚ) : Option ℚ :=
  let rounded := roundEven (value / 2 ^ lastBit value) * (2 : ℚ) ^ lastBit value
  if rounded < 2 ^ 1024 then some rounded else none

/-- A positive rational rounded to so many decimal digits, with the exponent of the last. -/
def decimal (value : ℚ) (count : ℕ) : ℕ × ℤ :=
  let exponent := Int.log 10 value + 1 - count
  (⌊value / 10 ^ exponent + 1 / 2⌋₊, exponent)

/-- Whether a decimal rounds to a double. -/
def ReadsAs (value : ℚ) (digits : ℕ × ℤ) : Prop :=
  nearest? (digits.1 * 10 ^ digits.2) = some value

instance (value : ℚ) (digits : ℕ × ℤ) : Decidable (ReadsAs value digits) :=
  inferInstanceAs (Decidable (_ = _))

/-- The first decimal that rounds to a double; seventeen digits always do. -/
def shortest (value : ℚ) : ℕ × ℤ :=
  let count? := (List.range 16).find? fun count => ReadsAs value (decimal value (count + 1))
  decimal value (count?.getD 16 + 1)

section Naturals

variable {number : ℕ}

/-- An integer is rounded to itself. -/
theorem roundEven_intCast (value : ℤ) : roundEven value = value := by
  simp only [roundEven, Int.floor_intCast, sub_self, one_div, inv_pos, Nat.ofNat_pos, ↓reduceIte]

/-- A natural number below 2^53 has no bit that a double would drop. -/
theorem lastBit_natCast_le (small : number < 2 ^ 53) : lastBit number ≤ 0 := by
  have bits : Nat.log 2 number < 53 := by
    rcases Nat.eq_zero_or_pos number with rfl | positive
    · decide
    · exact Nat.log_lt_of_lt_pow positive.ne' small
  rw [lastBit, Int.log_natCast]
  omega

/-- A natural number below 2⁵³ is a double. -/
theorem nearest?_natCast (small : number < 2 ^ 53) : nearest? number = some (number : ℚ) := by
  obtain ⟨shift, lastBit_eq⟩ := Int.eq_ofNat_of_zero_le (neg_nonneg.mpr (lastBit_natCast_le small))
  have power : (2 : ℚ) ^ lastBit number = (2 ^ shift)⁻¹ := by
    rw [← neg_neg (lastBit _), lastBit_eq, zpow_neg, zpow_natCast]
  have whole : (number : ℚ) / 2 ^ lastBit number = ((number * 2 ^ shift : ℕ) : ℤ) := by
    rw [power, div_inv_eq_mul]
    norm_cast
  have rounded : (roundEven ((number : ℚ) / 2 ^ lastBit number) : ℚ) * 2 ^ lastBit number =
      number := by
    rw [whole, roundEven_intCast, power]
    push_cast
    exact mul_inv_cancel_right₀ (by positivity) _
  have finite : (number : ℚ) < 2 ^ 1024 := by
    calc (number : ℚ) < ((2 ^ 53 : ℕ) : ℚ) := Nat.cast_lt.mpr small
      _ = 2 ^ 53 := by norm_cast
      _ ≤ 2 ^ 1024 := pow_le_pow_right₀ (by norm_num) (by norm_num)
  rw [nearest?, rounded]
  exact if_pos finite

/-- With as many digits as it has, a natural number's decimal is itself. -/
theorem decimal_natCast : decimal number (Nat.log 10 number + 1) = (number, 0) := by
  have exponent : Int.log 10 (number : ℚ) + 1 - ((Nat.log 10 number + 1 : ℕ) : ℤ) = 0 := by
    rw [Int.log_natCast]
    omega
  have floor : ⌊(number : ℚ) + 1 / 2⌋₊ = number := by
    rw [add_comm, Nat.floor_add_natCast (by norm_num), Nat.floor_eq_zero.mpr (by norm_num),
      Nat.zero_add]
  rw [decimal, exponent]
  simp only [zpow_zero, div_one, floor]

/-- With fewer digits, none of them is after the point. -/
theorem decimal_natCast_succ {count : ℕ} (within : count ≤ Nat.log 10 number) :
    decimal number (count + 1) =
      (⌊(number : ℚ) / 10 ^ (Nat.log 10 number - count) + 1 / 2⌋₊,
        ((Nat.log 10 number - count : ℕ) : ℤ)) := by
  have exponent : Int.log 10 (number : ℚ) + 1 - ((count + 1 : ℕ) : ℤ) =
      ((Nat.log 10 number - count : ℕ) : ℤ) := by
    rw [Int.log_natCast]
    omega
  rw [decimal, exponent, zpow_natCast]

/-- A rounded natural number is at most twice the number. -/
theorem decimal_mul_le (positive : 0 < number) {exponent : ℕ}
    (within : exponent ≤ Nat.log 10 number) :
    ⌊(number : ℚ) / 10 ^ exponent + 1 / 2⌋₊ * 10 ^ exponent ≤ 2 * number := by
  have power : (10 : ℚ) ^ exponent ≤ number := by
    have le : 10 ^ exponent ≤ number :=
      (Nat.pow_le_pow_right (by norm_num) within).trans (Nat.pow_log_le_self 10 positive.ne')
    exact_mod_cast le
  have floor : (⌊(number : ℚ) / 10 ^ exponent + 1 / 2⌋₊ : ℚ) ≤ number / 10 ^ exponent + 1 / 2 :=
    Nat.floor_le (by positivity)
  have product : (⌊(number : ℚ) / 10 ^ exponent + 1 / 2⌋₊ : ℚ) * 10 ^ exponent ≤ 2 * number := by
    calc (⌊(number : ℚ) / 10 ^ exponent + 1 / 2⌋₊ : ℚ) * 10 ^ exponent
        ≤ (number / 10 ^ exponent + 1 / 2) * 10 ^ exponent :=
          mul_le_mul_of_nonneg_right floor (by positivity)
      _ = number + 10 ^ exponent / 2 := by
          rw [add_mul, div_mul_cancel₀ _ (by positivity)]
          ring
      _ ≤ 2 * number := by linarith
  exact_mod_cast product

/-- The search for the shortest decimal ends at the number of digits that a natural number
has, at the latest: written out in full it reads as itself. -/
theorem exists_shortest_eq (positive : 0 < number) (small : number < 2 ^ 53) :
    ∃ count ≤ Nat.log 10 number, shortest number = decimal number (count + 1) ∧
      ReadsAs number (decimal number (count + 1)) := by
  have places : Nat.log 10 number < 16 :=
    Nat.log_lt_of_lt_pow positive.ne' (small.trans (by norm_num))
  have reads : ReadsAs number (decimal number (Nat.log 10 number + 1)) := by
    rw [decimal_natCast, ReadsAs]
    simp only [zpow_zero, mul_one]
    exact nearest?_natCast small
  cases search : (List.range 16).find? fun count =>
      decide (ReadsAs (number : ℚ) (decimal number (count + 1))) with
  | none =>
      have misses := List.find?_eq_none.mp search _ (List.mem_range.mpr places)
      exact (misses (decide_eq_true reads)).elim
  | some count =>
      obtain ⟨found, -, first⟩ := List.find?_range_eq_some.mp search
      refine ⟨count, ?_, ?_, of_decide_eq_true found⟩
      · by_contra! beyond
        have misses := first _ beyond
        rw [decide_eq_true reads] at misses
        cases misses
      · rw [shortest, search, Option.getD_some]

/-- The shortest decimal of a natural number has its value, and no digit after the point. -/
theorem exists_shortest_natCast (positive : 0 < number) (small : number < 2 ^ 52) :
    ∃ digits exponent : ℕ, shortest number = (digits, (exponent : ℤ)) ∧
      digits * 10 ^ exponent = number := by
  obtain ⟨count, within, found, reads⟩ :=
    exists_shortest_eq positive (small.trans (by norm_num))
  rw [decimal_natCast_succ within] at found reads
  refine ⟨_, _, found, ?_⟩
  have bound := decimal_mul_le positive (Nat.sub_le (Nat.log 10 number) count)
  have itself := nearest?_natCast (bound.trans_lt (by omega))
  rw [ReadsAs, zpow_natCast] at reads
  push_cast at itself
  rw [itself] at reads
  exact_mod_cast Option.some.inj reads

end Naturals

end Doubles
