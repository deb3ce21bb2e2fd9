import Mathlib.Data.List.Basic

/-! # Base64

A strict reading accepts groups of four digits, the last one possibly padded. A lenient
reading takes the digits before the first padding and leaves out everything else. They agree
on what the strict one accepts.
-/

namespace Base64

/-- The value of a digit of the standard alphabet. -/
def digit? (char : Char) : Option Nat :=
  if 'A' ≤ char && char ≤ 'Z' then some (char.toNat - 'A'.toNat)
  else if 'a' ≤ char && char ≤ 'z' then some (char.toNat - 'a'.toNat + 26)
  else if '0' ≤ char && char ≤ '9' then some (char.toNat - '0'.toNat + 52)
  else if char = '+' then some 62
  else if char = '/' then some 63
  else none

/-- The value of a digit that may also be of the alphabet for URLs. -/
def lenientDigit? (char : Char) : Option Nat :=
  if char = '-' then some 62 else if char = '_' then some 63 else digit? char

/-- The bytes that four digits, or two or three at the end, stand for. -/
def bytes : List Nat → List UInt8
  | a :: b :: c :: d :: rest =>
      [UInt8.ofNat (a * 4 + b / 16), UInt8.ofNat (b % 16 * 16 + c / 4),
        UInt8.ofNat (c % 4 * 64 + d)] ++ bytes rest
  | [a, b, c] => [UInt8.ofNat (a * 4 + b / 16), UInt8.ofNat (b % 16 * 16 + c / 4)]
  | [a, b] => [UInt8.ofNat (a * 4 + b / 16)]
  | _ => []

/-- The digits before the first padding. -/
def digits (text : List Char) : List Nat :=
  (text.takeWhile fun char => char ≠ '=').filterMap lenientDigit?

/-- How many digits there are before the first padding. -/
def digitCount (text : List Char) : Nat :=
  (text.takeWhile fun char => char ≠ '=').countP fun char => (lenientDigit? char).isSome

/-- Reading without complaint. -/
def decode (text : List Char) : List UInt8 := bytes (digits text)

/-- `Encodes text data`: the text is well formed and stands for the data. -/
inductive Encodes : List Char → List UInt8 → Prop
  | nil : Encodes [] []
  | one {first second : Char} {a b : Nat} : digit? first = some a → digit? second = some b →
      Encodes [first, second, '=', '='] (bytes [a, b])
  | two {first second third : Char} {a b c : Nat} : digit? first = some a →
      digit? second = some b → digit? third = some c →
      Encodes [first, second, third, '='] (bytes [a, b, c])
  | three {first second third fourth : Char} {a b c d : Nat} {text : List Char}
      {data : List UInt8} : digit? first = some a → digit? second = some b →
      digit? third = some c → digit? fourth = some d → Encodes text data →
      Encodes (first :: second :: third :: fourth :: text) (bytes [a, b, c, d] ++ data)

section Reading

variable {char : Char} {value : Nat} {text : List Char} {data other : List UInt8}

/-- A digit is not padding, and both readings value it alike. -/
theorem lenientDigit?_of_digit? (digit : digit? char = some value) :
    char ≠ '=' ∧ lenientDigit? char = some value := by
  refine ⟨?_, ?_⟩
  · rintro rfl
    have none : digit? '=' = none := by decide
    rw [none] at digit
    cases digit
  · unfold lenientDigit?
    split
    · rename_i minus
      have none : digit? '-' = none := by decide
      rw [minus, none] at digit
      cases digit
    · split
      · rename_i underscore
        have none : digit? '_' = none := by decide
        rw [underscore, none] at digit
        cases digit
      · exact digit

/-- A digit of the alphabet is read as its value. -/
theorem digits_cons_of_digit? (digit : digit? char = some value) (text : List Char) :
    digits (char :: text) = value :: digits text := by
  obtain ⟨unpadded, lenient⟩ := lenientDigit?_of_digit? digit
  rw [digits, List.takeWhile_cons, decide_eq_true unpadded]
  simp only [↓reduceIte, List.filterMap_cons, lenient]
  rfl

/-- At the first padding character the reading ends. -/
theorem digits_padding (text : List Char) : digits ('=' :: text) = [] := by
  simp only [digits, List.takeWhile_cons, ne_eq, not_true_eq_false, decide_false,
    Bool.false_eq_true, ↓reduceIte, List.filterMap_nil]

/-- The lenient reading of a well-formed text is what it stands for. -/
theorem Encodes.decode_eq (encodes : Encodes text data) : decode text = data := by
  unfold decode
  induction encodes with
  | nil => rfl
  | one first second =>
      rw [digits_cons_of_digit? first, digits_cons_of_digit? second, digits_padding]
  | two first second third =>
      rw [digits_cons_of_digit? first, digits_cons_of_digit? second, digits_cons_of_digit? third,
        digits_padding]
  | three first second third fourth _ ih =>
      rw [digits_cons_of_digit? first, digits_cons_of_digit? second, digits_cons_of_digit? third,
        digits_cons_of_digit? fourth, bytes, ih]
      rfl

/-- A text encodes one sequence of bytes. -/
theorem Encodes.unique (encodes : Encodes text data) (encodesOther : Encodes text other) :
    data = other := encodes.decode_eq.symm.trans encodesOther.decode_eq

/-- Three bytes for four digits. -/
theorem length_bytes (values : List Nat) : (bytes values).length = values.length * 3 / 4 := by
  induction values using bytes.induct with
  | case1 a b c d rest ih =>
      rw [bytes, List.length_append, ih]
      simp only [List.length_cons, List.length_nil]
      omega
  | case2 a b c => simp only [bytes, List.length_cons, List.length_nil, Nat.reduceAdd,
      Nat.reduceMul, Nat.reduceDiv]
  | case3 a b => simp only [bytes, List.length_cons, List.length_nil, Nat.reduceAdd,
      Nat.reduceMul, Nat.reduceDiv]
  | case4 values notThree notTwo notMore =>
      rcases values with - | ⟨a, - | ⟨b, - | ⟨c, - | ⟨d, rest⟩⟩⟩⟩
      · rfl
      · simp only [bytes, List.length_cons, List.length_nil, Nat.reduceAdd, Nat.reduceMul,
          Nat.reduceDiv]
      · exact (notMore a b rfl).elim
      · exact (notTwo a b c rfl).elim
      · exact (notThree a b c d rest rfl).elim

/-- Of four digits three bytes are decoded; a byte that is not complete is dropped. -/
theorem length_decode (text : List Char) : (decode text).length = digitCount text * 3 / 4 := by
  rw [decode, length_bytes, digits, List.length_filterMap_eq_countP, digitCount]

end Reading

end Base64
