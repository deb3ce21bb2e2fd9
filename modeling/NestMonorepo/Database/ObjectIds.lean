import Mathlib.Data.List.Basic
import Mathlib.Tactic.Ring
import NestMonorepo.Database.Backend

/-! # Object ids in hexadecimal

The printed form of an id, its parser, and a choice of library functions whose
ids are printed that way. The cryptographic functions of that choice keep their
argument readable, so that concrete runs can be evaluated.
-/

namespace NestMonorepo

namespace ObjectIds

/-- The number of digits of a printed id. -/
def width : Nat := 24

def alphabet : List Char := "0123456789abcdef".toList

def digit (value : Nat) : Char := alphabet.getD value '0'

def digitValue (char : Char) : Option Nat := alphabet.idxOf? char.toLower

/-- The lowest digits of a number, most significant first. -/
def digits : Nat → Nat → List Char
  | 0, _ => []
  | count + 1, number => digits count (number / 16) ++ [digit (number % 16)]

/-- Read digits behind a number already read. -/
def readDigits (number : Nat) (text : List Char) : Option Nat :=
  text.foldlM (fun before char => (digitValue char).map fun value => before * 16 + value) number

/-- `toHexString`; ids past 24 digits do not occur and are printed in full. -/
def toHexString (id : ObjectId) : String :=
  String.ofList (digits (if id < 16 ^ width then width else id) id)

/-- `new ObjectId(text)`, which refuses anything but the digits of an id. -/
def ofHexString (text : String) : Option ObjectId :=
  if text.length < width then none else readDigits 0 text.toList

/-- A hexadecimal digit has the value it was printed for. -/
theorem digitValue_digit : ∀ value < 16, digitValue (digit value) = some value := by
  decide

/-- A number is printed with the requested count of digits. -/
theorem digits_length (count number : Nat) : (digits count number).length = count := by
  induction count generalizing number with
  | zero => rfl
  | succ count ih =>
      rw [digits, List.length_append, ih, List.length_singleton]

/-- Reading the printed digits gives back the number, as far as the count of digits reaches. -/
theorem readDigits_digits (count number before : Nat) :
    readDigits before (digits count number) =
      some (before * 16 ^ count + number % 16 ^ count) := by
  induction count generalizing number with
  | zero => simp only [digits, readDigits, List.foldlM_nil, Option.pure_def, pow_zero,
      mul_one, Nat.mod_one, add_zero]
  | succ count ih =>
      unfold readDigits at ih ⊢
      rw [digits, List.foldlM_append, ih]
      simp only [Option.bind_eq_bind, Option.bind_some, List.foldlM_cons, List.foldlM_nil,
        digitValue_digit _ (Nat.mod_lt number (by decide : 0 < 16)), Option.map_some,
        Option.pure_def, Option.some.injEq]
      rw [pow_succ', Nat.mod_mul]
      ring

/-- Every id fits into the digits it is printed with. -/
theorem fits (id : ObjectId) : id < 16 ^ (if id < 16 ^ width then width else id) := by
  split
  · assumption
  · exact Nat.lt_pow_self (by decide)

/-- An id reads back as it was printed. -/
theorem ofHexString_toHexString (id : ObjectId) : ofHexString (toHexString id) = some id := by
  have long : ¬(toHexString id).length < width := by
    rw [toHexString, String.length_ofList, digits_length]
    split
    · exact lt_irrefl _
    · rename_i large
      exact not_lt.mpr (le_trans (by decide) (not_lt.mp large))
  rw [ofHexString, if_neg long, toHexString, String.toList_ofList, readDigits_digits,
    Nat.mod_eq_of_lt (fits id), zero_mul, zero_add]

/-- Different ids are printed differently. -/
theorem toHexString_injective : Function.Injective toHexString := by
  intro first second same
  have read := congrArg ofHexString same
  rw [ofHexString_toHexString, ofHexString_toHexString] at read
  exact Option.some.inj read

end ObjectIds

/-- Library functions for evaluating concrete runs, with either order of each flush. -/
@[reducible] def plainLibraries (outboxFirst deviceFirst : Bool) : Libraries where
  toHexString := ObjectIds.toHexString
  ofHexString := ObjectIds.ofHexString
  ofHexString_toHexString := ObjectIds.ofHexString_toHexString
  sha256Hex text := "sha256:" ++ text
  randomHex draw := ObjectIds.toHexString draw
  argon2Hash draw password := "$argon2id$" ++ ObjectIds.toHexString draw ++ "$" ++ password
  argon2Verify passwordHash password :=
    .ok (String.ofList (passwordHash.toList.drop 35) == password)
  toISOString at_ := ObjectIds.toHexString at_
  subDays at_ amount := at_ - amount * (24 * 60 * 60 * 1000)
  outboxFirst
  deviceFirst

namespace Plain

/-- The functions of concrete runs, with outbox rows and device rows written before
users. -/
scoped instance libraries : Libraries := plainLibraries true true

end Plain

end NestMonorepo
