/-! # Lists that differ where it does not count -/

namespace Preseed

variable {α β : Type} {skipped : α → Prop} {l l' : List α}

/-- Two lists are the same but for items that are skipped. Any number of these may be added to a list and
taken from it, wherever they stand. -/
inductive SameBut (skipped : α → Prop) : List α → List α → Prop where
  | nil : SameBut skipped [] []
  | kept (a : α) {l l' : List α} : SameBut skipped l l' → SameBut skipped (a :: l) (a :: l')
  | added {a : α} {l l' : List α} : skipped a → SameBut skipped l l' → SameBut skipped l (a :: l')
  | removed {a : α} {l l' : List α} : skipped a → SameBut skipped l l' → SameBut skipped (a :: l) l'

theorem SameBut.flatMap_eq {f : α → List β} (h : SameBut skipped l l')
    (hf : ∀ a, skipped a → f a = []) : l.flatMap f = l'.flatMap f := by
  induction h with
  | nil => rfl
  | kept a _ ih => rw [List.flatMap_cons, List.flatMap_cons, ih]
  | added ha _ ih => rw [List.flatMap_cons, hf _ ha, List.nil_append, ih]
  | removed ha _ ih => rw [List.flatMap_cons, hf _ ha, List.nil_append, ih]

theorem SameBut.findSome?_eq {f : α → Option β} (h : SameBut skipped l l')
    (hf : ∀ a, skipped a → f a = none) : l.findSome? f = l'.findSome? f := by
  induction h with
  | nil => rfl
  | kept a _ ih => rw [List.findSome?_cons, List.findSome?_cons, ih]
  | added ha _ ih => rw [List.findSome?_cons, hf _ ha, ih]
  | removed ha _ ih => rw [List.findSome?_cons, hf _ ha, ih]

/-- An item that is left out gives nothing. -/
theorem flatMap_filter_eq (p : α → Bool) (f : α → List β) (xs : List α) :
    (xs.filter p).flatMap f = xs.flatMap fun x => if p x = true then f x else [] := by
  induction xs with
  | nil => rfl
  | cons x xs ih =>
      by_cases hx : p x = true
      · rw [List.filter_cons_of_pos hx, List.flatMap_cons, List.flatMap_cons, if_pos hx, ih]
      · rw [List.filter_cons_of_neg hx, List.flatMap_cons, if_neg hx, List.nil_append, ih]

end Preseed
