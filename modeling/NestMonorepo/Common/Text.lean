import Mathlib.Data.List.DropRight
import Mathlib.Data.Option.Basic

/-! # Texts as JavaScript reads them -/

namespace NestMonorepo

/-- A text JavaScript takes for true: present and not empty. -/
def truthy (text : Option String) : Option String :=
  text.filter fun value => value ≠ ""

/-- A truthy text is one that is there and not empty. -/
theorem truthy_eq_some {text : Option String} {value : String} :
    truthy text = some value ↔ text = some value ∧ value ≠ "" := by
  simp only [truthy, Option.filter_eq_some_iff, ne_eq, decide_eq_true_eq]

/-- The names an object literal inherits from `Object.prototype`. -/
def objectPrototypeNames : List String :=
  ["constructor", "hasOwnProperty", "isPrototypeOf", "propertyIsEnumerable", "toLocaleString",
    "toString", "valueOf", "__defineGetter__", "__defineSetter__", "__lookupGetter__",
    "__lookupSetter__", "__proto__"]

/-- Whether a character is white space to `String.prototype.trim`. -/
def isTrimmed (character : Char) : Bool :=
  let code := character.toNat
  (9 ≤ code && code ≤ 13) || (8192 ≤ code && code ≤ 8202) ||
    [32, 160, 5760, 8232, 8233, 8239, 8287, 12288, 65279].contains code

/-- `String.prototype.trim`. -/
def trim (text : String) : String :=
  String.ofList ((text.toList.dropWhile isTrimmed).reverse.dropWhile isTrimmed).reverse

/-- Trimming drops the blanks at both ends. -/
theorem toList_trim (text : String) :
    (trim text).toList = (text.toList.dropWhile isTrimmed).rdropWhile isTrimmed :=
  String.toList_ofList

/-- Trimming the end leaves the start as it is. -/
theorem dropWhile_rdropWhile {α : Type} (p : α → Bool) (list : List α) :
    ((list.dropWhile p).rdropWhile p).dropWhile p = (list.dropWhile p).rdropWhile p := by
  obtain ⟨dropped, split⟩ := List.rdropWhile_prefix p (list.dropWhile p)
  cases kept : (list.dropWhile p).rdropWhile p with
  | nil => rfl
  | cons first rest =>
      have start := List.head?_dropWhile_not p list
      rw [← split, kept, List.cons_append, List.head?_cons] at start
      exact List.dropWhile_cons_of_neg (Bool.eq_false_iff.mp start)

/-- Trimming twice does no more. -/
theorem trim_trim (text : String) : trim (trim text) = trim text := by
  apply String.toList_inj.mp
  rw [toList_trim, toList_trim, dropWhile_rdropWhile, List.rdropWhile_idempotent]

/-- Trimming lengthens no text. -/
theorem length_trim_le (text : String) : (trim text).length ≤ text.length := by
  rw [← String.length_toList, ← String.length_toList, toList_trim]
  exact (List.rdropWhile_prefix _ _).length_le.trans (List.length_dropWhile_le _ _)

/-! ## Parts of texts -/

section Parts

variable {left right line : String} {char last : Char}

/-- A character absent from both parts is absent from the whole. -/
theorem not_mem_append :
    char ∉ (left ++ right).toList ↔ char ∉ left.toList ∧ char ∉ right.toList := by
  rw [String.toList_append, List.mem_append, not_or]

/-- The last character of a text. -/
def lastChar (text : String) : Option Char := text.toList.getLast?

/-- A text ends as its second part does, or as its first where the second is empty. -/
theorem lastChar_append : lastChar (left ++ right) = (lastChar right).or (lastChar left) := by
  rw [lastChar, String.toList_append, List.getLast?_append]
  rfl

/-- A text is not a part of one without one of its characters. -/
theorem not_infix_of_not_mem (member : char ∈ left.toList) (absent : char ∉ line.toList) :
    ¬left.toList <:+: line.toList := fun part => absent (part.subset member)

end Parts

end NestMonorepo
