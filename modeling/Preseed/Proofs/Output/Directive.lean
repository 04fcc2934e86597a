import Mathlib.Data.List.Basic
import Preseed.Output.Directive
import Preseed.Proofs.Text.Split

/-! # Displayed directives

A directive is displayed as its parts with a space between them, and an empty value is left out with its
space. The first three spaces of the line tell the parts apart, whatever spaces the value holds. -/

namespace Preseed

/-! ## Cutting a number of times -/

namespace Split

variable {α : Type} [DecidableEq α] {sep : α}

/-- The pieces between the first separators, as many as are to be cut at; the last piece is the rest. -/
def cuts (sep : α) : Nat → List α → List (List α)
  | 0, l => [l]
  | n + 1, l =>
    match cut? sep l with
    | none => [l]
    | some (before, after) => before :: cuts sep n after

theorem cuts_append_cons {before : List α} (h : sep ∉ before) (n : ℕ) (after : List α) :
    cuts sep (n + 1) (before ++ sep :: after) = before :: cuts sep n after := by
  simp [cuts, cut?_append after h]

theorem cuts_of_notMem {l : List α} (h : sep ∉ l) (n : ℕ) : cuts sep n l = [l] := by
  cases n with
  | zero => rfl
  | succ n => simp [cuts, cut?_eq_none h]

theorem cuts_ne_nil (sep : α) (n : ℕ) (l : List α) : cuts sep n l ≠ [] := by
  cases n with
  | zero => exact List.cons_ne_nil _ _
  | succ n =>
      unfold cuts
      split <;> exact List.cons_ne_nil _ _

/-- Only the last piece may hold separators, and only after all the cuts. -/
theorem notMem_of_mem_cuts {n : ℕ} {l piece : List α}
    (h : piece ∈ (cuts sep n l).dropLast ∨ (cuts sep n l).length ≤ n ∧ piece ∈ cuts sep n l) :
    sep ∉ piece := by
  induction n generalizing l with
  | zero => simp [cuts] at h
  | succ n ih =>
      cases hcut : cut? sep l with
      | none =>
          have hl : sep ∉ l := by
            intro hmem
            obtain ⟨before, after, rfl, hbefore⟩ := List.eq_append_cons_of_mem hmem
            rw [cut?_append after hbefore] at hcut
            cases hcut
          rw [cuts_of_notMem hl] at h
          simp only [List.dropLast_singleton, List.not_mem_nil, List.mem_singleton, false_or] at h
          exact h.2 ▸ hl
      | some parts =>
          obtain ⟨rfl, hbefore⟩ := cut?_eq_some_iff.mp hcut
          rw [cuts_append_cons hbefore, List.dropLast_cons_of_ne_nil (cuts_ne_nil sep n _),
            List.mem_cons, List.mem_cons, List.length_cons, Nat.add_le_add_iff_right] at h
          rcases h with (rfl | h) | ⟨hlength, rfl | h⟩
          · exact hbefore
          · exact ih (.inl h)
          · exact hbefore
          · exact ih (.inr ⟨hlength, h⟩)

end Split

namespace Directive

/-! ## The parts of a directive -/

/-- The parts that are displayed. -/
def parts (d : Directive) : List (List Char) :=
  d.owner.toList :: d.key.toList :: d.type.toList :: if d.value = "" then [] else [d.value.toList]

/-- Only the value may hold spaces. -/
structure HasWords (d : Directive) : Prop where
  owner : ' ' ∉ d.owner.toList
  key : ' ' ∉ d.key.toList
  type : ' ' ∉ d.type.toList

theorem toList_text (d : Directive) :
    d.text.toList = d.owner.toList ++ ' ' :: (d.key.toList ++ ' ' :: (d.type.toList ++
      if d.value = "" then [] else ' ' :: d.value.toList)) := by
  unfold text
  by_cases hvalue : d.value = ""
  · simp [hvalue]
  · simp [hvalue, String.isEmpty_iff]

theorem parts_inj {d e : Directive} : d.parts = e.parts ↔ d = e := by
  refine ⟨fun h => ?_, congrArg parts⟩
  unfold parts at h
  simp only [List.cons.injEq, String.toList_inj] at h
  obtain ⟨howner, hkey, htype, hvalue⟩ := h
  have hvalue : d.value = e.value := by
    split at hvalue <;> split at hvalue <;> simp_all [String.toList_inj]
  cases d
  cases e
  simp_all

/-! ## Cutting at spaces -/

theorem HasWords.cuts_eq {d : Directive} (h : d.HasWords) : Split.cuts ' ' 3 d.text.toList = d.parts := by
  rw [toList_text, parts, Split.cuts_append_cons h.owner, Split.cuts_append_cons h.key]
  by_cases hvalue : d.value = ""
  · rw [if_pos hvalue, if_pos hvalue, List.append_nil, Split.cuts_of_notMem h.type]
  · rw [if_neg hvalue, if_neg hvalue, Split.cuts_append_cons h.type, Split.cuts]

theorem hasWords_of_cuts_eq {d : Directive} (h : Split.cuts ' ' 3 d.text.toList = d.parts) :
    d.HasWords := by
  have hnot : ∀ part ∈ [d.owner.toList, d.key.toList, d.type.toList], ' ' ∉ part := by
    intro part hpart
    refine Split.notMem_of_mem_cuts (n := 3) (l := d.text.toList) ?_
    rw [h, parts]
    -- Without a value there are too few pieces for the type to be the rest.
    by_cases hvalue : d.value = ""
    · rw [if_pos hvalue]
      exact .inr ⟨Nat.le_refl 3, hpart⟩
    · rw [if_neg hvalue]
      exact .inl hpart
  exact ⟨hnot _ (by simp), hnot _ (by simp), hnot _ (by simp)⟩

theorem HasWords.count_text {d : Directive} (h : d.HasWords) :
    d.text.toList.count ' ' = 2 + if d.value = "" then 0 else 1 + d.value.toList.count ' ' := by
  rw [toList_text, List.count_append, List.count_cons_self, List.count_append, List.count_cons_self,
    List.count_append, List.count_eq_zero.mpr h.owner, List.count_eq_zero.mpr h.key,
    List.count_eq_zero.mpr h.type]
  split
  · rw [List.count_nil]
  · rw [List.count_cons_self]
    omega

/-- A displayed directive is cut at the first three spaces into its owner, key, type and value if and only
if no space stands in the first three of them. Then there is no third space if and only if the value is
empty, and no two directives are displayed alike. -/
theorem text_cut_in_parts :
    (∀ d : Directive, Split.cuts ' ' 3 d.text.toList = d.parts ↔ d.HasWords) ∧
    (∀ d : Directive, d.HasWords → (d.value = "" ↔ d.text.toList.count ' ' = 2)) ∧
    (∀ d e : Directive, d.HasWords → e.HasWords → (d.text = e.text ↔ d = e)) := by
  refine ⟨fun d => ⟨hasWords_of_cuts_eq, HasWords.cuts_eq⟩, fun d h => ?_, fun d e hd he => ?_⟩
  · rw [h.count_text]
    split <;> simp_all
  · refine ⟨fun htext => ?_, congrArg text⟩
    rw [← parts_inj, ← hd.cuts_eq, ← he.cuts_eq, htext]

theorem text_cut_in_parts_of_spaces :
    let d : Directive := { owner := "d-i", key := "a/b", type := "string", value := "  x  y " }
    let e : Directive := { owner := "d-i", key := "a/b", type := "string", value := "" }
    d.HasWords ∧ e.HasWords ∧
      Split.cuts ' ' 3 d.text.toList = ["d-i", "a/b", "string", "  x  y "].map String.toList ∧
      e.text.toList.count ' ' = 2 ∧ d.text ≠ e.text := by
  intro d e
  have hd : d.HasWords := ⟨by decide, by decide, by decide⟩
  have he : e.HasWords := ⟨by decide, by decide, by decide⟩
  obtain ⟨hparts, hempty, hinj⟩ := text_cut_in_parts
  exact ⟨hd, he, (hparts d).mpr hd, (hempty e he).mp rfl, mt (hinj d e hd he).mp (by decide)⟩

end Directive

end Preseed
