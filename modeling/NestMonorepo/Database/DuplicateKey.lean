import Mathlib.Data.List.Basic

/-! # Recognising a duplicate-key violation

A MongoDB error carries a code, possibly the key pattern of the index that
fired, and a message. `isDuplicateKeyError` attributes an E11000 to a field.
-/

namespace NestMonorepo

/-- An error raised by the MongoDB driver. -/
structure MongoError where
  code : Nat
  keyPattern : Option (List String) := none
  message : String
  deriving DecidableEq, Repr

/-- The regular expression class `\w`. -/
def isWordChar (char : Char) : Bool :=
  ('a' ≤ char && char ≤ 'z') || ('A' ≤ char && char ≤ 'Z') || ('0' ≤ char && char ≤ '9') ||
    char = '_'

/-- `\b` between two positions of a text: exactly one side is a word character. -/
def wordBoundary (before after : Option Char) : Bool :=
  (before.any isWordChar) != (after.any isWordChar)

/-- Whether `field(?:_|\b)` matches right at the start of a text whose previous
character is given. -/
def fieldMatchesHere (field : List Char) (before : Option Char) (text : List Char) : Bool :=
  wordBoundary before text.head? && field.isPrefixOf text &&
    (((text.drop field.length).head? = some '_') ||
      wordBoundary (field.getLast?.or before) (text.drop field.length).head?)

/-- Whether `\bfield(?:_|\b)` matches somewhere in a text. -/
def fieldMatches (field : List Char) : Option Char → List Char → Bool
  | before, [] => fieldMatchesHere field before []
  | before, char :: rest =>
      fieldMatchesHere field before (char :: rest) || fieldMatches field (some char) rest

/-- `isDuplicateKeyError(err, field)`: the key pattern decides when it names the
field, otherwise the message is searched. -/
def isDuplicateKeyError (error : MongoError) (field : String) : Bool :=
  if error.code ≠ 11000 then false
  else if field = "" then true
  else if error.keyPattern.any (fun fields => fields.contains field) then true
  else fieldMatches field.toList none error.message.toList

/-- An error whose key pattern names the field is attributed to it. -/
theorem isDuplicateKeyError_of_keyPattern {error : MongoError} {field : String}
    {fields : List String} (code : error.code = 11000) (pattern : error.keyPattern = some fields)
    (named : field ∈ fields) : isDuplicateKeyError error field = true := by
  unfold isDuplicateKeyError
  simp only [code, ne_eq, not_true_eq_false, ↓reduceIte, pattern, Option.any_some,
    List.contains_iff_mem.mpr named, ite_self]

/-- A match that starts here is a match. -/
theorem fieldMatches_of_here {field text : List Char} {before : Option Char}
    (here : fieldMatchesHere field before text = true) :
    fieldMatches field before text = true := by
  cases text with
  | nil => exact here
  | cons char rest => rw [fieldMatches, here, Bool.true_or]

/-- A match further on is found, whatever comes before it. -/
theorem fieldMatches_append {field skipped text : List Char} {before : Option Char}
    (matched : fieldMatches field (skipped.getLast?.or before) text = true) :
    fieldMatches field before (skipped ++ text) = true := by
  induction skipped generalizing before with
  | nil => exact matched
  | cons char rest ih =>
      rw [List.cons_append, fieldMatches, ih, Bool.or_true]
      cases last : rest.getLast? with
      | none => rwa [List.getLast?_cons, last] at matched
      | some other => rwa [List.getLast?_cons, last] at matched

/-- How a violation of `users_email_unique` is reported: the key pattern or the message
names the field. -/
structure ReportsEmail (error : MongoError) : Prop where
  code : error.code = 11000
  names : (∃ fields, error.keyPattern = some fields ∧ "email" ∈ fields) ∨
    ∃ before value, error.message =
      before ++ "index: users_email_unique dup key: \x7b " ++ ("email: " ++ value)

/-- The field of the message matches: a space stands before it and a colon behind. -/
theorem fieldMatches_email (value : List Char) :
    fieldMatchesHere "email".toList (some ' ') ("email: ".toList ++ value) = true := by
  have field : "email".toList = ['e', 'm', 'a', 'i', 'l'] := by decide
  have named : "email: ".toList = ['e', 'm', 'a', 'i', 'l', ':', ' '] := by decide
  rw [field, named]
  rfl

/-- Either way it is attributed to the field. -/
theorem ReportsEmail.isDuplicateKeyError {error : MongoError} (reports : ReportsEmail error) :
    isDuplicateKeyError error "email" = true := by
  rcases reports.names with ⟨fields, pattern, named⟩ | ⟨before, value, message⟩
  · exact isDuplicateKeyError_of_keyPattern reports.code pattern named
  · have space : "index: users_email_unique dup key: \x7b ".toList.getLast? = some ' ' := by decide
    have matched : fieldMatches "email".toList none error.message.toList = true := by
      rw [message, String.toList_append, String.toList_append, String.toList_append]
      apply fieldMatches_append
      apply fieldMatches_of_here
      rw [List.getLast?_append, space, Option.some_or, Option.some_or]
      exact fieldMatches_email value.toList
    unfold NestMonorepo.isDuplicateKeyError
    simp only [reports.code, ne_eq, not_true_eq_false, ↓reduceIte, matched, ite_self]

end NestMonorepo
