import NestMonorepo.Collections.Separators
import Mathlib.Data.List.Infix

/-! # Replacing lines of a text

A search text of several lines is found where its first line ends a line of the text and the
others follow. Lines before that place, and lines after it, stay as they are.
-/

namespace Collections

section Lines

variable {α : Type}

/-- Lines as a text, with a line break after each. -/
def unlines (lineBreak : α) (lines : List (List α)) : List α :=
  lines.flatMap fun line => line ++ [lineBreak]

/-- Lines as a part of a text, with line breaks between them. -/
def block (lineBreak : α) (lines : List (List α)) : List α := [lineBreak].intercalate lines

variable {lineBreak entry : α} {anchor first next more line rest : List α}
  {lines others front back : List (List α)}

/-- A text's first line comes first, with its line break. -/
theorem unlines_cons : unlines lineBreak (line :: lines) =
    line ++ lineBreak :: unlines lineBreak lines := by
  rw [unlines, List.flatMap_cons, List.append_assoc]
  rfl

/-- Lines in two parts make the text of the one followed by that of the other. -/
theorem unlines_append : unlines lineBreak (front ++ back) =
    unlines lineBreak front ++ unlines lineBreak back := List.flatMap_append

/-- Between two lines of a block there is one line break. -/
theorem block_cons_cons : block lineBreak (line :: next :: lines) =
    line ++ lineBreak :: block lineBreak (next :: lines) := by
  rw [block, List.intercalate_cons_cons, List.append_assoc]
  rfl

/-- A block has nothing in it but line breaks and the entries of its lines. -/
theorem mem_block (member : entry ∈ block lineBreak lines) :
    entry = lineBreak ∨ ∃ line ∈ lines, entry ∈ line := by
  induction lines with
  | nil => cases member
  | cons line lines ih =>
      cases lines with
      | nil =>
          rw [block, List.intercalate_singleton] at member
          exact .inr ⟨line, List.mem_cons_self, member⟩
      | cons next others =>
          rw [block_cons_cons, List.mem_append, List.mem_cons] at member
          rcases member with here | lineBreak_eq | further
          · exact .inr ⟨line, List.mem_cons_self, here⟩
          · exact .inl lineBreak_eq
          · rcases ih further with same | ⟨found, later, inside⟩
            · exact .inl same
            · exact .inr ⟨found, List.mem_cons_of_mem _ later, inside⟩

/-- A part of a text with a line break after it is lines of the text. -/
theorem block_append_break (filled : lines ≠ []) (rest : List α) :
    block lineBreak lines ++ lineBreak :: rest = unlines lineBreak lines ++ rest := by
  induction lines with
  | nil => exact (filled rfl).elim
  | cons line lines ih =>
      rw [unlines_cons]
      cases lines with
      | nil => rw [block, List.intercalate_singleton, unlines, List.flatMap_nil,
          List.append_assoc, List.cons_append, List.nil_append]
      | cons next others =>
          rw [block_cons_cons, List.append_assoc, List.cons_append, ih (List.cons_ne_nil _ _),
            List.append_assoc, List.cons_append]

/-- A text without line breaks at the start of another is in its first line. -/
theorem prefix_of_prefix_append (unbroken : lineBreak ∉ anchor)
    (found : anchor <+: line ++ lineBreak :: rest) : anchor <+: line := by
  obtain ⟨after, same⟩ := found
  rcases List.append_eq_append_iff.mp same with ⟨between, longer, -⟩ | ⟨between, longer, rests⟩
  · exact ⟨between, longer.symm⟩
  · cases between with
    | nil => exact ⟨[], by rw [longer, List.append_nil, List.append_nil]⟩
    | cons head between =>
        injection rests with head_eq
        rw [longer, ← head_eq] at unbroken
        exact (unbroken (List.mem_append_right _ List.mem_cons_self)).elim

/-- A search text of several lines starts where its first line ends. -/
theorem prefix_append_iff (unbroken : lineBreak ∉ first) (whole : lineBreak ∉ line) :
    first ++ lineBreak :: more <+: line ++ lineBreak :: rest ↔ first = line ∧ more <+: rest := by
  constructor
  · intro found
    obtain ⟨after, same⟩ := found
    rw [List.append_assoc, List.cons_append] at same
    obtain ⟨firsts, -, rests⟩ := append_cons_inj whole unbroken same
    exact ⟨firsts, after, rests⟩
  · rintro ⟨rfl, after, rfl⟩
    exact ⟨after, by rw [List.append_assoc, List.cons_append]⟩

/-- No line of the first ones is where the search text starts. -/
def Clear (lineBreak : α) (first more : List α) : List (List α) → List α → Prop
  | [], _ => True
  | line :: front, rest => lineBreak ∉ line ∧
      (first <:+ line → ¬more <+: unlines lineBreak front ++ rest) ∧
      Clear lineBreak first more front rest

/-- Lines that do not end as the search text's first line are clear. -/
theorem clear_of_not_suffix
    (clear : ∀ line ∈ front, lineBreak ∉ line ∧ ¬first <:+ line) :
    Clear lineBreak first more front rest := by
  induction front with
  | nil => trivial
  | cons line front ih =>
      rw [List.forall_mem_cons] at clear
      obtain ⟨⟨whole, ends⟩, further⟩ := clear
      exact ⟨whole, fun start => (ends start).elim, ih further⟩

/-- A block starts with its first line. -/
theorem prefix_block : next <+: block lineBreak (next :: others) := by
  cases others with
  | nil => rw [block, List.intercalate_singleton]
  | cons another others =>
      rw [block_cons_cons]
      exact List.prefix_append _ _

/-- Lines are clear of a search text if none of those that follow starts as its second line,
so that it can be found only where it was put. -/
theorem clear_of_not_prefix (unbroken : lineBreak ∉ next)
    (clear : ∀ line ∈ front ++ [first], lineBreak ∉ line ∧ ¬next <+: line) :
    Clear lineBreak first (block lineBreak (next :: others)) front
      (unlines lineBreak (first :: lines)) := by
  induction front with
  | nil => trivial
  | cons line front ih =>
      rw [List.cons_append, List.forall_mem_cons] at clear
      obtain ⟨⟨whole, -⟩, further⟩ := clear
      constructor
      · exact whole
      constructor
      · rw [← unlines_append]
        intro _ found
        replace found := prefix_block.trans found
        cases front with
        | nil =>
            rw [List.nil_append, unlines_cons] at found
            exact (further first List.mem_cons_self).2 (prefix_of_prefix_append unbroken found)
        | cons following front =>
            rw [List.cons_append, unlines_cons] at found
            exact (further following List.mem_cons_self).2 (prefix_of_prefix_append unbroken found)
      · exact ih further

end Lines

section Replacing

variable {α : Type} [DecidableEq α]

instance decidableClear (lineBreak : α) (first more : List α) : (front : List (List α)) →
    (rest : List α) → Decidable (Clear lineBreak first more front rest)
  | [], _ => .isTrue trivial
  | line :: front, rest =>
      have := decidableClear lineBreak first more front rest
      inferInstanceAs (Decidable (lineBreak ∉ line ∧
        (first <:+ line → ¬more <+: unlines lineBreak front ++ rest) ∧
        Clear lineBreak first more front rest))

/-- Replaces the first occurrence, if there is one. -/
def replaceFirst? (anchor replacement : List α) : List α → Option (List α)
  | [] => if anchor = [] then some replacement else none
  | entry :: rest =>
      if anchor <+: entry :: rest then some (replacement ++ (entry :: rest).drop anchor.length)
      else (replaceFirst? anchor replacement rest).map fun after => entry :: after

variable {lineBreak entry : α} {anchor replacement first more line rest text : List α}
  {lines front back replacements : List (List α)}

/-- Nothing is replaced exactly when the anchor does not occur. -/
theorem replaceFirst?_eq_none_iff :
    replaceFirst? anchor replacement text = none ↔ ¬anchor <:+: text := by
  induction text with
  | nil =>
      rw [List.infix_nil, replaceFirst?]
      split
      · rename_i empty
        simp only [reduceCtorEq, empty, not_true_eq_false]
      · rename_i filled
        simp only [filled, not_false_eq_true]
  | cons entry rest ih =>
      rw [List.infix_cons_iff, not_or, replaceFirst?]
      split
      · rename_i found
        simp only [reduceCtorEq, found, not_true_eq_false, false_and]
      · rename_i missed
        rw [Option.map_eq_none_iff, ih]
        exact (and_iff_right missed).symm

/-- An anchor that stands at the start is the one replaced. -/
theorem replaceFirst?_of_start (found : anchor <+: text) :
    replaceFirst? anchor replacement text = some (replacement ++ text.drop anchor.length) := by
  cases text with
  | nil =>
      have empty := List.prefix_nil.mp found
      rw [replaceFirst?, if_pos empty, List.drop_nil, List.append_nil]
  | cons entry rest => rw [replaceFirst?, if_pos found]

/-- An anchor in front of the rest is replaced there, and the rest stays. -/
theorem replaceFirst?_append (rest : List α) :
    replaceFirst? anchor replacement (anchor ++ rest) = some (replacement ++ rest) := by
  rw [replaceFirst?_of_start (List.prefix_append anchor rest), List.drop_left]

/-- Where the anchor does not stand at the start, the first entry stays and the search goes
on behind it. -/
theorem replaceFirst?_of_not_prefix (missed : ¬anchor <+: entry :: rest) :
    replaceFirst? anchor replacement (entry :: rest) =
      (replaceFirst? anchor replacement rest).map fun after => entry :: after := by
  rw [replaceFirst?, if_neg missed]

/-- A line without the search text is passed over. -/
theorem replaceFirst?_line (unbroken : lineBreak ∉ anchor) (absent : ¬anchor <:+: line) :
    replaceFirst? anchor replacement (line ++ lineBreak :: rest) =
      (replaceFirst? anchor replacement rest).map fun after => line ++ lineBreak :: after := by
  induction line with
  | nil =>
      apply replaceFirst?_of_not_prefix
      intro found
      exact absent (prefix_of_prefix_append unbroken found).isInfix
  | cons entry line ih =>
      rw [List.infix_cons_iff, not_or] at absent
      obtain ⟨missed, absent⟩ := absent
      rw [List.cons_append, replaceFirst?_of_not_prefix, ih absent, Option.map_map]
      · rfl
      · intro found
        exact missed (prefix_of_prefix_append unbroken found)

/-- A line is passed over if the search text does not start at its end. -/
theorem replaceFirst?_line_of_clear (unbroken : lineBreak ∉ first) (whole : lineBreak ∉ line)
    (clear : first <:+ line → ¬more <+: rest) :
    replaceFirst? (first ++ lineBreak :: more) replacement (line ++ lineBreak :: rest) =
      (replaceFirst? (first ++ lineBreak :: more) replacement rest).map
        fun after => line ++ lineBreak :: after := by
  induction line with
  | nil =>
      apply replaceFirst?_of_not_prefix
      intro found
      obtain ⟨rfl, following⟩ := (prefix_append_iff unbroken whole).mp found
      exact clear List.suffix_rfl following
  | cons entry line ih =>
      have shorter : lineBreak ∉ line := fun member => whole (List.mem_cons_of_mem _ member)
      have still : first <:+ line → ¬more <+: rest := fun ends =>
        clear (ends.trans (List.suffix_cons entry line))
      rw [List.cons_append, replaceFirst?_of_not_prefix, ih shorter still, Option.map_map]
      · rfl
      · intro found
        obtain ⟨rfl, following⟩ := (prefix_append_iff unbroken whole).mp found
        exact clear List.suffix_rfl following

/-- Lines without a search text of one line are passed over. -/
theorem replaceFirst?_unlines (unbroken : lineBreak ∉ anchor)
    (absent : ∀ line ∈ front, ¬anchor <:+: line) :
    replaceFirst? anchor replacement (unlines lineBreak front ++ rest) =
      (replaceFirst? anchor replacement rest).map
        fun after => unlines lineBreak front ++ after := by
  induction front with
  | nil => exact Option.map_id'.symm
  | cons line front ih =>
      rw [List.forall_mem_cons] at absent
      rw [unlines_cons, List.append_assoc, List.cons_append, replaceFirst?_line unbroken absent.1,
        ih absent.2, Option.map_map]
      congr 1
      funext after
      rw [Function.comp_apply, List.append_assoc, List.cons_append]

/-- Lines where a search text does not start are passed over. -/
theorem replaceFirst?_unlines_of_clear (unbroken : lineBreak ∉ first)
    (clear : Clear lineBreak first more front rest) :
    replaceFirst? (first ++ lineBreak :: more) replacement (unlines lineBreak front ++ rest) =
      (replaceFirst? (first ++ lineBreak :: more) replacement rest).map
        fun after => unlines lineBreak front ++ after := by
  induction front with
  | nil => exact Option.map_id'.symm
  | cons line front ih =>
      obtain ⟨whole, here, further⟩ := clear
      rw [unlines_cons, List.append_assoc, List.cons_append,
        replaceFirst?_line_of_clear unbroken whole here, ih further, Option.map_map]
      congr 1
      funext after
      rw [Function.comp_apply, List.append_assoc, List.cons_append]

/-- A text of lines without a search text of one line does not have it. -/
theorem not_infix_unlines (unbroken : lineBreak ∉ anchor) (filled : anchor ≠ [])
    (absent : ∀ line ∈ lines, ¬anchor <:+: line) : ¬anchor <:+: unlines lineBreak lines := by
  have missed : replaceFirst? anchor anchor (unlines lineBreak lines ++ []) =
      (replaceFirst? anchor anchor []).map _ := replaceFirst?_unlines unbroken absent
  rw [replaceFirst?, if_neg filled, Option.map_none, List.append_nil] at missed
  exact replaceFirst?_eq_none_iff.mp missed

/-- The first line that is the search text is replaced. -/
theorem replaceFirst?_single (unbroken : lineBreak ∉ anchor) (filled : replacements ≠ [])
    (absent : ∀ line ∈ front, ¬anchor <:+: line) :
    replaceFirst? anchor (block lineBreak replacements)
        (unlines lineBreak (front ++ anchor :: back)) =
      some (unlines lineBreak (front ++ replacements ++ back)) := by
  rw [unlines_append, unlines_cons, replaceFirst?_unlines unbroken absent, replaceFirst?_append,
    Option.map_some, block_append_break filled, unlines_append, unlines_append, List.append_assoc]

/-- The first lines that are the search text are replaced. -/
theorem replaceFirst?_several {next : List α} {others : List (List α)}
    (unbroken : lineBreak ∉ first) (filled : replacements ≠ [])
    (clear : Clear lineBreak first (block lineBreak (next :: others)) front
      (unlines lineBreak (first :: next :: others ++ back))) :
    replaceFirst? (block lineBreak (first :: next :: others)) (block lineBreak replacements)
        (unlines lineBreak (front ++ (first :: next :: others) ++ back)) =
      some (unlines lineBreak (front ++ replacements ++ back)) := by
  have text : unlines lineBreak (first :: next :: others ++ back) =
      block lineBreak (first :: next :: others) ++ lineBreak :: unlines lineBreak back := by
    rw [block_append_break (List.cons_ne_nil _ _), unlines_append]
  rw [List.append_assoc, unlines_append, block_cons_cons,
    replaceFirst?_unlines_of_clear unbroken clear, text, block_cons_cons, replaceFirst?_append,
    Option.map_some, block_append_break filled, unlines_append,
    unlines_append, List.append_assoc]

end Replacing

end Collections
