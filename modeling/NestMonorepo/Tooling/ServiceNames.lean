import NestMonorepo.Collections.Lines
import NestMonorepo.Common.Text
import Mathlib.Data.Set.Insert

/-! # Names of services

A service is named in kebab case; every other name it goes by is derived from that one.
-/

namespace NestMonorepo

/-- A character of `[a-z0-9]`. -/
def isNameChar (char : Char) : Bool := char.isLower || char.isDigit

/-- `/^[a-z][a-z0-9]*(-[a-z0-9]+)*$/`. -/
def isKebab (name : String) : Bool :=
  name.toList.head?.any Char.isLower &&
    (name.toList.splitOn '-').all fun part => part ≠ [] && part.all isNameChar

/-- A name that the scaffold accepts. -/
structure ServiceName where
  kebab : String
  accepted : isKebab kebab = true
  deriving DecidableEq

/-- `text.replace(/_([a-z0-9])/g, (_, c) => c.toUpperCase())`. -/
def camelChars : List Char → List Char
  | '_' :: char :: rest =>
      if isNameChar char then char.toUpper :: camelChars rest
      else '_' :: camelChars (char :: rest)
  | char :: rest => char :: camelChars rest
  | [] => []

namespace ServiceName

/-- The service of this repository. -/
def user : ServiceName := ⟨"user", by decide⟩

def snake (name : ServiceName) : String :=
  String.ofList (name.kebab.toList.map fun char => if char = '-' then '_' else char)

/-- `CONST`. -/
def constant (name : ServiceName) : String := name.snake.toUpper ++ "_SERVICE"

def camel (name : ServiceName) : String := String.ofList (camelChars name.snake.toList)

def queue (name : ServiceName) : String := name.snake ++ "_service_queue"

end ServiceName

/-! ## The characters of a name -/

/-- A character of any name that a service goes by. -/
def isPlainChar (char : Char) : Bool := char.isAlphanum || char = '_' || char = '-'

/-- All characters of a text may be in a name. -/
def IsWord (text : String) : Prop := ∀ char ∈ text.toList, isPlainChar char = true

section Words

variable {name : ServiceName} {char : Char} {text other : String}

/-- The characters of a service name are plain. -/
theorem isPlainChar_of_isNameChar (named : isNameChar char = true) : isPlainChar char = true := by
  unfold isNameChar at named
  rcases Bool.or_eq_true _ _ ▸ named with lower | digit
  · have alpha : char.isAlpha = (char.isUpper || char.isLower) := rfl
    simp only [isPlainChar, Char.isAlphanum, alpha, lower, Bool.or_true, Bool.true_or]
  · simp only [isPlainChar, Char.isAlphanum, digit, Bool.or_true, Bool.true_or]

/-- A lower case letter's upper case is one. -/
theorem isUpper_toUpper (lower : 'a'.val ≤ char.val ∧ char.val ≤ 'z'.val) :
    char.toUpper.isUpper = true := by
  have shift : char.toUpper.val = char.val + ('A'.val - 'a'.val) := by
    delta Char.toUpper
    rw [dif_pos lower]
  have value : ('A'.val - 'a'.val).toNat = 2 ^ 32 - 32 := rfl
  obtain ⟨low, high⟩ := lower
  have least : 97 ≤ char.val.toNat := low
  have most : char.val.toNat ≤ 122 := high
  have sum : char.toUpper.val.toNat = char.val.toNat - 32 := by
    rw [shift, UInt32.toNat_add, value]
    omega
  delta Char.isUpper
  rw [decide_eq_true_eq]
  constructor
  · change 65 ≤ char.toUpper.val.toNat
    omega
  · change char.toUpper.val.toNat ≤ 90
    omega

/-- Upper case letters are plain where the letter was. -/
theorem isPlainChar_toUpper (word : isPlainChar char = true) : isPlainChar char.toUpper = true := by
  by_cases lower : 'a'.val ≤ char.val ∧ char.val ≤ 'z'.val
  · have alpha : char.toUpper.isAlpha = (char.toUpper.isUpper || char.toUpper.isLower) := rfl
    simp only [isPlainChar, Char.isAlphanum, alpha, isUpper_toUpper lower, Bool.true_or]
  · delta Char.toUpper
    rw [dif_neg lower]
    exact word

/-- Two words make a word. -/
theorem IsWord.append (word : IsWord text) (otherWord : IsWord other) : IsWord (text ++ other) := by
  intro char member
  rw [String.toList_append, List.mem_append] at member
  rcases member with here | there
  · exact word char here
  · exact otherWord char there

/-- A character that no name has. -/
theorem IsWord.not_mem (word : IsWord text) (foreign : isPlainChar char = false) :
    char ∉ text.toList := by
  intro member
  rw [word char member] at foreign
  cases foreign

/-- A kebab-case name has lower-case letters, digits and hyphens. -/
theorem isNameChar_of_mem_kebab (member : char ∈ name.kebab.toList) :
    char = '-' ∨ isNameChar char = true := by
  have accepted := (Bool.and_eq_true _ _ ▸ name.accepted).2
  have parts : List.intercalate ['-'] (name.kebab.toList.splitOn '-') = name.kebab.toList :=
    List.intercalate_splitOn '-'
  rw [← parts] at member
  rcases Collections.mem_block member with hyphen | ⟨part, isPart, inside⟩
  · exact .inl hyphen
  · have whole := List.all_eq_true.mp accepted part isPart
    exact .inr (List.all_eq_true.mp (Bool.and_eq_true _ _ ▸ whole).2 char inside)

/-- The name with dashes is a word. -/
theorem isWord_kebab (name : ServiceName) : IsWord name.kebab := by
  intro char member
  rcases isNameChar_of_mem_kebab member with rfl | named
  · rfl
  · exact isPlainChar_of_isNameChar named

/-- The name with underscores is a word. -/
theorem isWord_snake (name : ServiceName) : IsWord name.snake := by
  intro char member
  rw [ServiceName.snake, String.toList_ofList, List.mem_map] at member
  obtain ⟨spelled, isSpelled, rfl⟩ := member
  split
  · rfl
  · exact isWord_kebab name spelled isSpelled

/-- The name of the constant is a word. -/
theorem isWord_constant (name : ServiceName) : IsWord name.constant := by
  apply IsWord.append
  · intro char member
    rw [String.toUpper, String.toList_map, List.mem_map] at member
    obtain ⟨lower, isLower, rfl⟩ := member
    exact isPlainChar_toUpper (isWord_snake name lower isLower)
  · intro char member
    exact List.all_eq_true.mp (by decide : "_SERVICE".toList.all isPlainChar = true) char member

/-- The name of the queue is a word. -/
theorem isWord_queue (name : ServiceName) : IsWord name.queue := by
  apply (isWord_snake name).append
  intro char member
  exact List.all_eq_true.mp (by decide : "_service_queue".toList.all isPlainChar = true) char member

/-- Camel case keeps plain characters plain. -/
theorem isPlainChar_of_mem_camelChars {chars : List Char}
    (words : ∀ char ∈ chars, isPlainChar char = true) :
    ∀ char ∈ camelChars chars, isPlainChar char = true := by
  induction chars using camelChars.induct with
  | case1 char rest named ih =>
      rw [camelChars, if_pos named]
      rw [List.forall_mem_cons] at words ⊢
      obtain ⟨-, words⟩ := words
      rw [List.forall_mem_cons] at words
      exact ⟨isPlainChar_toUpper words.1, ih words.2⟩
  | case2 char rest unnamed ih =>
      rw [camelChars, if_neg unnamed]
      rw [List.forall_mem_cons] at words ⊢
      exact ⟨words.1, ih words.2⟩
  | case3 char rest other ih =>
      rw [camelChars.eq_2 _ _ other]
      rw [List.forall_mem_cons] at words ⊢
      exact ⟨words.1, ih words.2⟩
  | case4 => exact words

/-- The name in camel case is a word. -/
theorem isWord_camel (name : ServiceName) : IsWord name.camel := by
  intro char member
  rw [ServiceName.camel, String.toList_ofList] at member
  exact isPlainChar_of_mem_camelChars (isWord_snake name) char member

end Words

end NestMonorepo
