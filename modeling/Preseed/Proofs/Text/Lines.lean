import Mathlib.Algebra.BigOperators.Group.List.Basic
import Mathlib.Algebra.GroupWithZero.Nat
import Mathlib.Data.List.Basic
import Mathlib.Data.Nat.Init
import Preseed.Proofs.Text.Split
import Preseed.Text.Lines

/-! # Lines and the texts that they make

A text is cut into lines at its line feeds. Joining lines and cutting texts undo one another except where a
carriage return is lost with the line feed behind it, where a line holds a line feed of its own, and where
the last line of a text has no ending. -/

namespace Preseed.Lines

/-- Lines with a line feed behind each. -/
def ended (lines : List (List Char)) : List Char :=
  lines.flatMap (· ++ ['\n'])

theorem ended_cons (line : List Char) (lines : List (List Char)) :
    ended (line :: lines) = line ++ '\n' :: ended lines := by
  simp [ended]

theorem toList_join (lines : List String) : (join lines).toList = ended (lines.map String.toList) := by
  rw [join, String.toList_ofList, ended, List.flatMap_map]

/-- What a line keeps when its ending is taken off: a carriage return at its end goes with it. -/
def withoutReturn (line : List Char) : List Char :=
  if line.getLast? = some '\r' then line.dropLast else line

theorem withoutReturn_cons_cons (c d : Char) (line : List Char) :
    withoutReturn (c :: d :: line) = c :: withoutReturn (d :: line) := by
  unfold withoutReturn
  rw [List.getLast?_cons_cons]
  split <;> rfl

theorem withoutReturn_eq_self_iff (line : List Char) :
    line = withoutReturn line ↔ line.getLast? ≠ some '\r' := by
  unfold withoutReturn
  split
  · rename_i h
    refine iff_of_false (fun heq => ?_) (fun hne => hne h)
    have hlength := congrArg List.length heq
    cases line with
    | nil => cases h
    | cons c line => simp at hlength
  · rename_i h
    exact iff_of_true rfl h

theorem notMem_withoutReturn {line : List Char} (h : '\n' ∉ line) : '\n' ∉ withoutReturn line := by
  unfold withoutReturn
  split
  · exact fun hmem => h (List.dropLast_subset line hmem)
  · exact h

/-! ## Cutting at line feeds -/

theorem split_feed (rest : List Char) : split ('\n' :: rest) = [] :: split rest := by
  rw [split.eq_def]
  simp

theorem split_return_feed (rest : List Char) : split ('\r' :: '\n' :: rest) = [] :: split rest := by
  rw [split.eq_def]
  simp

theorem split_singleton {c : Char} (h : c ≠ '\n') : split [c] = [[c]] := by
  rw [split.eq_def]
  simp [h]

theorem split_cons_cons {c d : Char} {rest line : List Char} {lines : List (List Char)} (h : c ≠ '\n')
    (hending : c = '\r' → d ≠ '\n') (hrest : split (d :: rest) = line :: lines) :
    split (c :: d :: rest) = (c :: line) :: lines := by
  have hnot : ¬ (c = '\r' ∧ d = '\n') := fun hboth => hending hboth.1 hboth.2
  rw [split.eq_def]
  simp [h, hnot, hrest]

theorem split_append_feed {line : List Char} (h : '\n' ∉ line) (rest : List Char) :
    split (line ++ '\n' :: rest) = withoutReturn line :: split rest := by
  induction line with
  | nil => exact split_feed rest
  | cons c line ih =>
      rw [List.mem_cons, not_or] at h
      have hc : c ≠ '\n' := Ne.symm h.1
      cases line with
      | nil =>
          by_cases hreturn : c = '\r'
          · subst hreturn
            exact split_return_feed rest
          · rw [withoutReturn, if_neg (by simpa using hreturn), List.singleton_append]
            exact split_cons_cons hc (fun heq => absurd heq hreturn) (split_feed rest)
      | cons d line =>
          have hd : d ≠ '\n' := fun heq => h.2 (by simp [heq])
          rw [withoutReturn_cons_cons]
          exact split_cons_cons hc (fun _ => hd) (ih h.2)

theorem split_of_notMem {cs : List Char} (h : '\n' ∉ cs) (hne : cs ≠ []) : split cs = [cs] := by
  induction cs with
  | nil => exact absurd rfl hne
  | cons c cs ih =>
      rw [List.mem_cons, not_or] at h
      have hc : c ≠ '\n' := Ne.symm h.1
      cases cs with
      | nil => exact split_singleton hc
      | cons d cs =>
          have hd : d ≠ '\n' := fun heq => h.2 (by simp [heq])
          exact split_cons_cons hc (fun _ => hd) (ih h.2 (List.cons_ne_nil d cs))

/-- What holds of texts without line feeds, and of a line with its feed in front of what it holds of, holds
of every text. -/
theorem induction_on_feeds {motive : List Char → Prop} (last : ∀ cs, '\n' ∉ cs → motive cs)
    (feed : ∀ line rest, '\n' ∉ line → motive rest → motive (line ++ '\n' :: rest)) (cs : List Char) :
    motive cs := by
  induction hn : cs.length using Nat.strong_induction_on generalizing cs with
  | _ n ih =>
      cases hcut : Split.cut? '\n' cs with
      | none =>
          refine last cs fun hmem => ?_
          obtain ⟨line, rest, rfl, hline⟩ := List.eq_append_cons_of_mem hmem
          rw [Split.cut?_append rest hline] at hcut
          cases hcut
      | some parts =>
          obtain ⟨rfl, hline⟩ := Split.cut?_eq_some_iff.mp hcut
          have hlt : parts.2.length < n := hn ▸ Split.length_lt_of_cut? hcut
          exact feed _ _ hline (ih _ hlt _ rfl)

theorem notMem_of_mem_split {cs line : List Char} (h : line ∈ split cs) : '\n' ∉ line := by
  induction cs using induction_on_feeds with
  | last cs hcs =>
      by_cases hne : cs = []
      · simp [hne, split] at h
      · rw [split_of_notMem hcs hne, List.mem_singleton] at h
        exact h ▸ hcs
  | feed first rest hfirst ih =>
      rw [split_append_feed hfirst, List.mem_cons] at h
      rcases h with rfl | h
      · exact notMem_withoutReturn hfirst
      · exact ih h

/-! ## Carriage returns before line feeds -/

theorem infix_append_feed_iff {line : List Char} (h : '\n' ∉ line) (rest : List Char) :
    ['\r', '\n'] <:+: line ++ '\n' :: rest ↔
      line.getLast? = some '\r' ∨ ['\r', '\n'] <:+: rest := by
  induction line with
  | nil => simp [List.infix_cons_iff, List.cons_prefix_cons]
  | cons c line ih =>
      rw [List.mem_cons, not_or] at h
      rw [List.cons_append, List.infix_cons_iff, ih h.2, List.cons_prefix_cons]
      cases line with
      | nil => simp [List.cons_prefix_cons, eq_comm]
      | cons d line =>
          have hd : '\n' ≠ d := fun heq => h.2 (heq ▸ List.mem_cons_self)
          rw [List.getLast?_cons_cons, List.cons_append, List.cons_prefix_cons]
          exact or_iff_right fun hprefix => hd hprefix.2.1

theorem infix_ended_of_mem {lines : List (List Char)} {line : List Char} (hline : line ∈ lines)
    (h : line.getLast? = some '\r') : ['\r', '\n'] <:+: ended lines := by
  obtain ⟨before, hbefore⟩ := List.getLast?_eq_some_iff.mp h
  have hself : ['\r', '\n'] <:+: line ++ ['\n'] := ⟨before, [], by simp [hbefore]⟩
  exact hself.trans (List.infix_of_mem_flatten (List.mem_map_of_mem hline))

/-! ## Texts that are cut and joined -/

/-- Whole lines: nothing stands behind the last line feed, and no carriage return before one. -/
def AreWhole (cs : List Char) : Prop :=
  (cs = [] ∨ cs.getLast? = some '\n') ∧ ¬ ['\r', '\n'] <:+: cs

theorem areWhole_append_feed_iff {line : List Char} (h : '\n' ∉ line) (rest : List Char) :
    AreWhole (line ++ '\n' :: rest) ↔ line.getLast? ≠ some '\r' ∧ AreWhole rest := by
  have hlast : (line ++ '\n' :: rest = [] ∨ (line ++ '\n' :: rest).getLast? = some '\n') ↔
      (rest = [] ∨ rest.getLast? = some '\n') := by
    cases rest with
    | nil => simp
    | cons c rest => simp [List.getLast?_append, List.getLast?_cons_cons]
  rw [AreWhole, AreWhole, hlast, infix_append_feed_iff h, not_or, and_left_comm]

/-- Cutting a text and joining its lines gives the text back exactly if it consists of whole lines. -/
theorem ended_split_eq_iff (cs : List Char) : ended (split cs) = cs ↔ AreWhole cs := by
  induction cs using induction_on_feeds with
  | last cs h =>
      by_cases hne : cs = []
      · subst hne
        exact iff_of_true rfl ⟨.inl rfl, by decide⟩
      · rw [split_of_notMem h hne]
        refine iff_of_false (by simp [ended]) fun hwhole => ?_
        rcases hwhole.1 with hnil | hlast
        · exact hne hnil
        · exact h (List.mem_of_getLast? hlast)
  | feed line rest h ih =>
      rw [split_append_feed h, ended_cons, Split.append_cons_inj (notMem_withoutReturn h) h, ih,
        eq_comm (a := withoutReturn line), withoutReturn_eq_self_iff, areWhole_append_feed_iff h]

/-! ## Lines that are joined and cut -/

/-- One line by itself: no line feed in it, and no carriage return at its end. -/
def IsLine (line : List Char) : Prop :=
  '\n' ∉ line ∧ line.getLast? ≠ some '\r'

theorem split_ended {lines : List (List Char)} (h : ∀ line ∈ lines, IsLine line) :
    split (ended lines) = lines := by
  induction lines with
  | nil => rfl
  | cons line lines ih =>
      obtain ⟨hline, hlines⟩ := List.forall_mem_cons.mp h
      rw [ended_cons, split_append_feed hline.1, ih hlines,
        ← (withoutReturn_eq_self_iff line).mpr hline.2]

/-- Joining lines and cutting the text gives the lines back exactly if each is one line by itself. -/
theorem split_ended_eq_iff (lines : List (List Char)) :
    split (ended lines) = lines ↔ ∀ line ∈ lines, IsLine line := by
  refine ⟨fun h line hline => ⟨?_, fun hreturn => ?_⟩, split_ended⟩
  · exact notMem_of_mem_split (h.symm ▸ hline)
  · have hwhole : AreWhole (ended lines) := (ended_split_eq_iff _).mp (congrArg ended h)
    exact hwhole.2 (infix_ended_of_mem hline hreturn)

/-- There is one line feed for each line, and those that lines hold. -/
theorem count_ended (lines : List (List Char)) :
    (ended lines).count '\n' = lines.length + (lines.map (List.count '\n')).sum := by
  induction lines with
  | nil => rfl
  | cons line lines ih =>
      rw [ended_cons, List.count_append, List.count_cons_self, ih, List.length_cons, List.map_cons,
        List.sum_cons]
      omega

theorem count_ended_eq_iff (lines : List (List Char)) :
    (ended lines).count '\n' = lines.length ↔ ∀ line ∈ lines, '\n' ∉ line := by
  simp [count_ended, List.sum_eq_zero_iff_forall_eq_nat, List.count_eq_zero]

end Preseed.Lines
