/-! # Texts without line breaks -/

namespace Preseed

def IsOneLine (s : String) : Prop :=
  '\n' ∉ s.toList ∧ '\r' ∉ s.toList

instance (s : String) : Decidable (IsOneLine s) :=
  inferInstanceAs (Decidable (_ ∧ _))

theorem isOneLine_append {s t : String} : IsOneLine (s ++ t) ↔ IsOneLine s ∧ IsOneLine t := by
  unfold IsOneLine
  rw [String.toList_append, List.mem_append, List.mem_append, not_or, not_or]
  exact and_and_and_comm

theorem isOneLine_comment {s : String} (h : IsOneLine s) : IsOneLine ("# " ++ s) :=
  isOneLine_append.mpr ⟨by decide, h⟩

/-- A set of characters without line breaks makes texts without them. -/
theorem isOneLine_of_all {p : Char → Bool} (hfeed : p '\n' = false) (hreturn : p '\r' = false)
    {s : String} (h : s.toList.all p = true) : IsOneLine s := by
  rw [List.all_eq_true] at h
  constructor
  · intro hc
    rw [h _ hc] at hfeed
    cases hfeed
  · intro hc
    rw [h _ hc] at hreturn
    cases hreturn

end Preseed
