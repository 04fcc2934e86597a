/-!
# Cutting at a separator

A list is cut at the first occurrence of a separator, or into the pieces between all occurrences.
-/

namespace Preseed.Split

variable {α : Type} [DecidableEq α]

/-- The pieces between occurrences of a separator. -/
def pieces (sep : α) : List α → List (List α)
  | [] => [[]]
  | x :: rest =>
    if x = sep then [] :: pieces sep rest
    else
      match pieces sep rest with
      | piece :: more => (x :: piece) :: more
      | [] => [[x]]

/-- What stands before and after the first separator. -/
def cut? (sep : α) : List α → Option (List α × List α)
  | [] => none
  | x :: rest =>
    if x = sep then some ([], rest)
    else (cut? sep rest).map fun (before, after) => (x :: before, after)

/-- What stands before and after the first separator; everything and nothing without one. -/
def cut (sep : α) (l : List α) : List α × List α :=
  (cut? sep l).getD (l, [])

theorem eq_append_of_cut? {sep : α} {l before after : List α}
    (h : cut? sep l = some (before, after)) : l = before ++ sep :: after := by
  induction l generalizing before after with
  | nil => simp [cut?] at h
  | cons x rest ih =>
    unfold cut? at h
    split at h
    · simp_all
    · obtain ⟨⟨b, a⟩, hcut, heq⟩ := Option.map_eq_some_iff.1 h
      obtain ⟨rfl, rfl⟩ := Prod.mk.inj heq
      simp [ih hcut]

theorem length_lt_of_cut? {sep : α} {l before after : List α}
    (h : cut? sep l = some (before, after)) : after.length < l.length := by
  rw [eq_append_of_cut? h]
  simp only [List.length_append, List.length_cons]
  omega

end Preseed.Split
