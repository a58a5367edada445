/-!
# Cutting text at separators

`split` cuts a text at every separator and keeps what lies between them, empty
stretches included.  `cutFirst` cuts at the first separator only.
-/

namespace CardLimits.Text

/-- The stretches of a text between its separators, empty ones included. -/
def split (separates : Char → Bool) : List Char → List (List Char)
  | [] => [[]]
  | character :: rest =>
    if separates character then [] :: split separates rest
    else (split separates rest).modifyHead (character :: ·)

/-- What stands in front of the first separator and what stands behind it; without a
separator, the whole text and nothing. -/
def cutFirst (separates : Char → Bool) (text : List Char) : List Char × List Char :=
  (text.takeWhile fun character => !separates character,
    (text.dropWhile fun character => !separates character).tail)

/-- Every text has a first stretch. -/
theorem split_ne_nil (separates : Char → Bool) (text : List Char) :
    split separates text ≠ [] := by
  cases text with
  | nil => simp [split]
  | cons character rest =>
    have rest_ne_nil := split_ne_nil separates rest
    simp only [split]
    split
    · simp
    · cases split_eq : split separates rest with
      | nil => exact absurd split_eq rest_ne_nil
      | cons => simp

/-- A separator divides a text, and each side is cut for itself. -/
theorem split_append_separator {separates : Char → Bool} {separator : Char}
    (separator_separates : separates separator = true) (before after : List Char) :
    split separates (before ++ separator :: after) =
      split separates before ++ split separates after := by
  induction before with
  | nil => simp [split, separator_separates]
  | cons character rest inductionHypothesis =>
    simp only [List.cons_append, split]
    by_cases first_separates : separates character = true
    · rw [if_pos first_separates, if_pos first_separates, inductionHypothesis, List.cons_append]
    · rw [if_neg first_separates, if_neg first_separates, inductionHypothesis]
      obtain ⟨stretch, later, rest_eq⟩ := List.exists_cons_of_ne_nil (split_ne_nil separates rest)
      rw [rest_eq, List.cons_append, List.modifyHead_cons, List.modifyHead_cons, List.cons_append]

/-- A text without separators is one stretch. -/
theorem split_of_solid {separates : Char → Bool} {text : List Char}
    (solid : ∀ character ∈ text, separates character = false) : split separates text = [text] := by
  induction text with
  | nil => rfl
  | cons character rest inductionHypothesis =>
    obtain ⟨inside, rest_solid⟩ := List.forall_mem_cons.mp solid
    rw [split, if_neg (by simp [inside]), inductionHypothesis rest_solid, List.modifyHead_cons]

end CardLimits.Text
