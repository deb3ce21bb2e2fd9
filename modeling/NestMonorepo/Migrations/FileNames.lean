import Mathlib.Data.List.Lex
import Mathlib.Data.List.TakeWhile
import Mathlib.Data.Nat.Digits.Lemmas

/-! # Names of migration files

The loader takes the files whose name starts with three or more digits, and sorts them
as JavaScript sorts strings: by UTF-16 code units. Between prefixes with the same number
of digits this is the order of their numbers.
-/

namespace NestMonorepo

/-- The UTF-16 code units of a character. -/
def codeUnits (character : Char) : List Nat :=
  let code := character.toNat
  if code < 0x10000 then [code]
  else [0xD800 + (code - 0x10000) / 0x400, 0xDC00 + (code - 0x10000) % 0x400]

/-- A string as JavaScript holds it. -/
def utf16 (text : String) : List Nat := text.toList.flatMap codeUnits

/-- `first < second` between two strings. -/
def Precedes (first second : String) : Prop := utf16 first < utf16 second

instance : DecidableRel Precedes := fun first second =>
  inferInstanceAs (Decidable (utf16 first < utf16 second))

/-- What `.` does not match. -/
def isLineTerminator (character : Char) : Bool :=
  [10, 13, 8232, 8233].contains character.toNat

/-- Whether `.+\.(cjs|js)$` matches. -/
def isDescription (text : List Char) : Bool :=
  [".cjs", ".js"].any fun extension =>
    extension.toList.isSuffixOf text &&
      let stem := text.take (text.length - extension.toList.length)
      !stem.isEmpty && stem.all fun character => !isLineTerminator character

/-- The digits a name starts with. -/
def prefixDigits (name : String) : List Char := name.toList.takeWhile Char.isDigit

/-- The filter of `loadMigrations`. -/
def isMigrationFile (name : String) : Bool :=
  (match name.toList.dropWhile Char.isDigit with
    | '_' :: description => decide (3 ≤ (prefixDigits name).length) && isDescription description
    | _ => false) &&
  !".d.ts".toList.isSuffixOf name.toList

def digitValue (digit : Char) : Nat := digit.toNat - '0'.toNat

/-- The number a list of digits stands for. -/
def number (digits : List Char) : Nat := Nat.ofDigits 10 (digits.map digitValue).reverse

/-- The sequence number of a name. -/
def prefixNumber (name : String) : Nat := number (prefixDigits name)

/-! ## Order of strings and order of numbers -/

/-- The digits have the code points from 48 to 57. -/
theorem isDigit_bounds {digit : Char} (isDigit : digit.isDigit = true) :
    48 ≤ digit.toNat ∧ digit.toNat ≤ 57 := by
  rw [Char.isDigit, Bool.and_eq_true, decide_eq_true_eq, decide_eq_true_eq] at isDigit
  exact isDigit

/-- A digit is one code unit. -/
theorem codeUnits_digit {digit : Char} (isDigit : digit.isDigit = true) :
    codeUnits digit = [digit.toNat] := by
  have bounds := isDigit_bounds isDigit
  rw [codeUnits, if_pos (by omega)]

/-- The first digit of a number counts by its place. -/
theorem number_cons (digit : Char) (digits : List Char) :
    number (digit :: digits) = number digits + 10 ^ digits.length * digitValue digit := by
  rw [number, List.map_cons, List.reverse_cons, Nat.ofDigits_append, List.length_reverse,
    List.length_map, Nat.ofDigits_singleton, number]

/-- A number is below the power of ten of the count of its digits. -/
theorem number_lt {digits : List Char} (all : ∀ digit ∈ digits, digit.isDigit = true) :
    number digits < 10 ^ digits.length := by
  have bound : ∀ value ∈ (digits.map digitValue).reverse, value < 10 := by
    intro value member
    obtain ⟨digit, inside, rfl⟩ := List.mem_map.mp (List.mem_reverse.mp member)
    have bounds := isDigit_bounds (all digit inside)
    change digit.toNat - 48 < 10
    omega
  have below := Nat.ofDigits_lt_base_pow_length (by decide) bound
  rwa [List.length_reverse, List.length_map] at below

/-- Of two numerals of one length the smaller comes first as a text, whatever follows them.
The induction is on the first numeral. -/
theorem flatMap_lt_of_number_lt {first second : List Char} (rest other : List Char)
    (length : first.length = second.length)
    (firstDigits : ∀ digit ∈ first, digit.isDigit = true)
    (secondDigits : ∀ digit ∈ second, digit.isDigit = true)
    (smaller : number first < number second) :
    (first ++ rest).flatMap codeUnits < (second ++ other).flatMap codeUnits := by
  induction first generalizing second with
  | nil =>
      rw [List.length_eq_zero_iff.mp length.symm] at smaller
      exact (Nat.lt_irrefl _ smaller).elim
  | cons digit digits ih =>
      cases second with
      | nil => cases length
      | cons digit' digits' =>
          have tails := Nat.succ.inj length
          have here := firstDigits digit List.mem_cons_self
          have there := secondDigits digit' List.mem_cons_self
          rw [List.cons_append, List.cons_append, List.flatMap_cons, List.flatMap_cons,
            codeUnits_digit here, codeUnits_digit there, List.singleton_append,
            List.singleton_append, List.cons_lt_cons_iff]
          rw [number_cons, number_cons, tails] at smaller
          have bound := number_lt fun other member =>
            secondDigits other (List.mem_cons_of_mem _ member)
          have bounds := isDigit_bounds here
          have bounds' := isDigit_bounds there
          have ordered : digitValue digit ≤ digitValue digit' := by
            by_contra greater
            have step : 10 ^ digits'.length * (digitValue digit' + 1) ≤
                10 ^ digits'.length * digitValue digit :=
              Nat.mul_le_mul_left _ (Nat.lt_of_not_le greater)
            rw [Nat.mul_add_one] at step
            omega
          rcases Nat.lt_or_eq_of_le ordered with less | same
          · left
            change digit.toNat - 48 < digit'.toNat - 48 at less
            omega
          · right
            refine ⟨?_, ih tails (fun other member => firstDigits other
              (List.mem_cons_of_mem _ member)) (fun other member => secondDigits other
              (List.mem_cons_of_mem _ member)) ?_⟩
            · change digit.toNat - 48 = digit'.toNat - 48 at same
              omega
            · rw [same] at smaller
              omega

/-- Between prefixes of one width, JavaScript's order is that of the numbers. -/
theorem precedes_of_prefixNumber_lt {first second : String}
    (width : (prefixDigits first).length = (prefixDigits second).length)
    (smaller : prefixNumber first < prefixNumber second) : Precedes first second := by
  have digits : ∀ name : String, ∀ digit ∈ prefixDigits name, digit.isDigit = true :=
    fun name digit member => List.mem_takeWhile_imp member
  have whole : ∀ name : String,
      name.toList = prefixDigits name ++ name.toList.dropWhile Char.isDigit :=
    fun name => List.takeWhile_append_dropWhile.symm
  rw [Precedes, utf16, utf16, whole first, whole second]
  exact flatMap_lt_of_number_lt _ _ width (digits first) (digits second) smaller

end NestMonorepo
