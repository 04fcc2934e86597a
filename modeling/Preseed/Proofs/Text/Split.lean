import Preseed.Text.Split

/-! # Pieces between separators -/

namespace Preseed.Split

variable {α : Type} [DecidableEq α]

theorem pieces_eq_splitOn (sep : α) (l : List α) : pieces sep l = l.splitOn sep := by
  induction l with
  | nil => simp [pieces, List.splitOn_eq_splitOnP]
  | cons x rest ih =>
      rw [List.splitOn_cons_eq_if_modifyHead, pieces, ih]
      simp only [beq_iff_eq]
      split
      · rfl
      · cases h : rest.splitOn sep with
        | nil => exact absurd h (List.splitOn_ne_nil sep rest)
        | cons piece more => rfl

/-- Joined pieces are the pieces of what they are joined to, if there is one and none of them holds the
separator. -/
theorem pieces_intercalate {sep : α} {parts : List (List α)} (hparts : parts ≠ [])
    (hsep : ∀ part ∈ parts, sep ∉ part) : pieces sep ([sep].intercalate parts) = parts := by
  rw [pieces_eq_splitOn]
  exact List.splitOn_intercalate sep hsep hparts

theorem pieces_append_cons (sep : α) (l more : List α) :
    pieces sep (l ++ sep :: more) = pieces sep l ++ pieces sep more := by
  simp only [pieces_eq_splitOn]
  exact List.splitOn_append_cons_self l more

theorem not_mem_of_mem_pieces {sep : α} {l piece : List α} (h : piece ∈ pieces sep l) :
    sep ∉ piece := by
  induction l generalizing piece with
  | nil =>
      obtain rfl := List.mem_singleton.mp h
      exact List.not_mem_nil
  | cons x rest ih =>
      unfold pieces at h
      split at h
      · rcases List.mem_cons.mp h with rfl | h
        · exact List.not_mem_nil
        · exact ih h
      · rename_i hx
        cases hpieces : pieces sep rest with
        | nil =>
            rw [hpieces] at h
            obtain rfl := List.mem_singleton.mp h
            simpa using Ne.symm hx
        | cons first more =>
            rw [hpieces] at h ih
            rcases List.mem_cons.mp h with rfl | h
            · rw [List.mem_cons, not_or]
              exact ⟨Ne.symm hx, ih List.mem_cons_self⟩
            · exact ih (List.mem_cons_of_mem first h)

/-- What a joined list holds comes from the joint or from a piece. -/
theorem mem_of_mem_intercalate {α : Type} {sep : List α} {parts : List (List α)} {x : α}
    (h : x ∈ sep.intercalate parts) : x ∈ sep ∨ ∃ part ∈ parts, x ∈ part := by
  induction parts with
  | nil => simp at h
  | cons part parts ih =>
      cases parts with
      | nil => exact .inr ⟨part, by simp, by simpa using h⟩
      | cons next parts =>
          rw [List.intercalate_cons_cons, List.mem_append, List.mem_append] at h
          rcases h with (h | h) | h
          · exact .inr ⟨part, by simp, h⟩
          · exact .inl h
          · rcases ih h with h | ⟨other, hother, h⟩
            · exact .inl h
            · exact .inr ⟨other, List.mem_cons_of_mem part hother, h⟩

theorem mem_intercalate_of_mem {α : Type} {sep part : List α} {parts : List (List α)} {x : α}
    (hpart : part ∈ parts) (hx : x ∈ part) : x ∈ sep.intercalate parts := by
  induction parts with
  | nil => cases hpart
  | cons first parts ih =>
      cases parts with
      | nil =>
          obtain rfl := List.mem_singleton.mp hpart
          simpa using hx
      | cons next parts =>
          rw [List.intercalate_cons_cons, List.mem_append]
          rcases List.mem_cons.mp hpart with rfl | hpart
          · exact .inl (List.mem_append_left sep hx)
          · exact .inr (ih hpart)

theorem cut?_eq_none {sep : α} {l : List α} (h : sep ∉ l) : cut? sep l = none := by
  induction l with
  | nil => rfl
  | cons x rest ih =>
      rw [List.mem_cons, not_or] at h
      rw [cut?, if_neg (Ne.symm h.1), ih h.2, Option.map_none]

theorem cut_eq_self {sep : α} {l : List α} (h : sep ∉ l) : cut sep l = (l, []) := by
  rw [cut, cut?_eq_none h, Option.getD_none]

theorem cut?_append {sep : α} {before : List α} (after : List α) (h : sep ∉ before) :
    cut? sep (before ++ sep :: after) = some (before, after) := by
  induction before with
  | nil => simp [cut?]
  | cons x before ih =>
      have hne : x ≠ sep := by
        intro heq
        exact h (by simp [heq])
      have hrest : sep ∉ before := fun hmem => h (List.mem_cons_of_mem x hmem)
      simp [cut?, hne, ih hrest]

theorem cut?_eq_some_iff {sep : α} {l before after : List α} :
    cut? sep l = some (before, after) ↔ l = before ++ sep :: after ∧ sep ∉ before := by
  constructor
  · intro h
    refine ⟨eq_append_of_cut? h, ?_⟩
    induction l generalizing before with
    | nil => cases h
    | cons x rest ih =>
        rw [cut?] at h
        split at h
        · obtain ⟨rfl, -⟩ := Prod.mk.inj (Option.some.inj h)
          exact List.not_mem_nil
        · rename_i hx
          obtain ⟨⟨b, a⟩, hcut, heq⟩ := Option.map_eq_some_iff.mp h
          obtain ⟨rfl, rfl⟩ := Prod.mk.inj heq
          rw [List.mem_cons, not_or]
          exact ⟨Ne.symm hx, ih hcut⟩
  · rintro ⟨rfl, h⟩
    exact cut?_append after h

theorem cut_append {sep : α} {before : List α} (after : List α) (h : sep ∉ before) :
    cut sep (before ++ sep :: after) = (before, after) := by
  rw [cut, cut?_append after h, Option.getD_some]

/-- What stands before the first separator holds none. -/
theorem takeWhile_eq_cut (sep : α) (l : List α) : l.takeWhile (· ≠ sep) = (cut sep l).1 := by
  induction l with
  | nil => rfl
  | cons x rest ih =>
      by_cases h : x = sep
      · simp [cut, cut?, h]
      · rw [List.takeWhile_cons_of_pos (by simpa using h), ih, cut, cut, cut?, if_neg h]
        cases cut? sep rest <;> rfl

/-- The first piece is what stands before the first separator. -/
theorem head?_pieces (sep : α) (l : List α) : (pieces sep l).head? = some (cut sep l).1 := by
  induction l with
  | nil => rfl
  | cons x rest ih =>
      by_cases h : x = sep
      · simp [pieces, cut, cut?, h]
      · unfold pieces cut cut?
        rw [cut] at ih
        cases hpieces : pieces sep rest with
        | nil =>
            rw [hpieces] at ih
            cases ih
        | cons piece more =>
            rw [hpieces, List.head?_cons, Option.some_inj] at ih
            rw [if_neg h, if_neg h, ih]
            cases cut? sep rest <;> rfl

/-- Lists are the same if they are before and after their first separators. -/
theorem append_cons_inj {sep : α} {before before' after after' : List α} (h : sep ∉ before)
    (h' : sep ∉ before') :
    before ++ sep :: after = before' ++ sep :: after' ↔ before = before' ∧ after = after' := by
  constructor
  · intro heq
    have hcut := congrArg (cut? sep) heq
    rw [cut?_append after h, cut?_append after' h'] at hcut
    exact Prod.mk.inj (Option.some.inj hcut)
  · rintro ⟨rfl, rfl⟩
    rfl

end Preseed.Split
