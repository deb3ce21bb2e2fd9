import Mathlib.Data.List.Forall2

/-! # Paths and the routes they match

A route is a list of segments. Case is ignored in its literal segments and one slash
at the end of the path, so a path that matches is only determined up to these.
-/

namespace Collections

/-- A segment of a route. -/
inductive Segment where
  | literal (text : List Char)
  | parameter
  deriving DecidableEq, Repr

/-- The text with its upper-case letters made lower-case. -/
def lowered (text : List Char) : List Char := text.map Char.toLower

/-- The text has no upper-case letter. -/
def Lowered (text : List Char) : Prop := ∀ character ∈ text, character.isUpper = false

instance (text : List Char) : Decidable (Lowered text) := List.decidableBAll _ _

/-- A character that is no upper case letter is its own lower case. -/
theorem toLower_of_not_upper {character : Char} (lower : character.isUpper = false) :
    character.toLower = character := by
  unfold Char.toLower
  split
  · rename_i upper
    exact (of_decide_eq_false lower upper).elim
  · rfl

/-- A text in lower case is its own lowering. -/
theorem Lowered.eq {text : List Char} (lower : Lowered text) : lowered text = text := by
  calc lowered text = text.map id :=
        List.map_congr_left fun character member => toLower_of_not_upper (lower character member)
    _ = text := List.map_id text

/-- A segment of a path is one of the route's; a parameter is any that is not empty. -/
def Segment.Accepts : Segment → List Char → Prop
  | .literal text, spelled => lowered spelled = text
  | .parameter, spelled => spelled ≠ []

instance : ∀ (segment : Segment) (spelled : List Char), Decidable (segment.Accepts spelled)
  | .literal _, _ => inferInstanceAs (Decidable (_ = _))
  | .parameter, _ => inferInstanceAs (Decidable (_ ≠ _))

/-- The path without one slash at its end. -/
def unslashed (path : List Char) : List Char :=
  if path.getLast? = some '/' then path.dropLast else path

/-- The path matches the route. -/
def Matches (route : List Segment) (path : List Char) : Prop :=
  List.Forall₂ Segment.Accepts route ((unslashed path).splitOn '/')

instance (route : List Segment) (path : List Char) : Decidable (Matches route path) :=
  inferInstanceAs (Decidable (List.Forall₂ _ _ _))

/-- The canonical spelling of literal segments, each with a slash behind it. -/
def leading (texts : List (List Char)) : List Char := texts.flatMap (· ++ ['/'])

/-- A path ends in a slash, which is taken off, or it stays as it is. -/
theorem unslashed_cases (path : List Char) :
    path = unslashed path ∧ path.getLast? ≠ some '/' ∨ path = unslashed path ++ ['/'] := by
  unfold unslashed
  split
  · rename_i slashed
    exact .inr (List.dropLast_append_getLast? _ slashed).symm
  · rename_i bare
    exact .inl ⟨rfl, bare⟩

/-- A first segment is followed by a slash and the other segments. -/
theorem intercalate_cons_of_ne_nil (first : List Char) {rest : List (List Char)}
    (more : rest ≠ []) :
    ['/'].intercalate (first :: rest) = first ++ '/' :: ['/'].intercalate rest := by
  cases rest with
  | nil => exact (more rfl).elim
  | cons second others => simp only [List.intercalate, List.intersperse, List.flatten_cons,
      List.cons_append, List.nil_append]

/-- A path that matches begins with the route's literal segments, up to case, and goes on
with a path of the rest. -/
theorem lowered_of_literals {texts : List (List Char)} {route : List Segment}
    {segments : List (List Char)} (more : route ≠ [])
    (accepted : List.Forall₂ Segment.Accepts (texts.map .literal ++ route) segments) :
    ∃ others, List.Forall₂ Segment.Accepts route others ∧
      lowered (['/'].intercalate segments) =
        leading texts ++ lowered (['/'].intercalate others) := by
  induction texts generalizing segments with
  | nil => exact ⟨segments, accepted, rfl⟩
  | cons text texts ih =>
      cases accepted with
      | @cons _ spelled _ rest same accepted =>
          obtain ⟨others, accepts, spells⟩ := ih accepted
          have left : rest ≠ [] := by
            intro none
            have lengths := accepted.length_eq
            rw [none, List.length_nil] at lengths
            exact more (List.append_eq_nil_iff.mp (List.length_eq_zero_iff.mp lengths)).2
          refine ⟨others, accepts, ?_⟩
          calc lowered (['/'].intercalate (spelled :: rest))
              = lowered spelled ++ '/' :: lowered (['/'].intercalate rest) := by
                rw [intercalate_cons_of_ne_nil spelled left]
                exact List.map_append
            _ = text ++ '/' :: (leading texts ++ lowered (['/'].intercalate others)) := by
                rw [spells, show _ = text from same]
            _ = leading (text :: texts) ++ lowered (['/'].intercalate others) := by
                simp only [leading, List.flatMap_cons, List.append_assoc, List.cons_append,
                  List.nil_append]

/-- What a matching path is, up to case and one slash at its end. -/
theorem Matches.spelled {texts : List (List Char)} {route : List Segment} {path : List Char}
    (more : route ≠ []) (accepted : Matches (texts.map .literal ++ route) path) :
    ∃ others, List.Forall₂ Segment.Accepts route others ∧
      lowered (unslashed path) = leading texts ++ lowered (['/'].intercalate others) := by
  obtain ⟨others, accepts, spells⟩ := lowered_of_literals more accepted
  rw [List.intercalate_splitOn] at spells
  exact ⟨others, accepts, spells⟩

/-- Every path that matches begins with the route's literal segments, up to case. -/
theorem Matches.starts {texts : List (List Char)} {route : List Segment} {path : List Char}
    (more : route ≠ []) (accepted : Matches (texts.map .literal ++ route) path) :
    ∃ tail, lowered path = leading texts ++ tail := by
  obtain ⟨others, _, spells⟩ := accepted.spelled more
  rcases unslashed_cases path with ⟨same, _⟩ | same
  · rw [same]
    exact ⟨_, spells⟩
  · refine ⟨lowered (['/'].intercalate others) ++ ['/'], ?_⟩
    rw [same, ← List.append_assoc, ← spells]
    exact List.map_append

end Collections
