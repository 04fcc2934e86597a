import Preseed.Proofs.Lifecycle.Calls

/-! # The frame of an answer

The lines that no plugin wrote are four blocks, as many of them as the run came to. Which these are is
told by the hook in which the run ended. -/

namespace Preseed

variable {σ : Type}

/-- The hook in which a failure ended a run. -/
def Run.stop (r : Run σ) : Option Hook :=
  match r.failure with
  | some (.hook _ hook _) => some hook
  | _ => none

namespace Run

theorem stop_of_failure_none {r : Run σ} (h : r.failure = none) : r.stop = none := by
  rw [stop, h]

theorem failure_step_write {r : Run σ} (h : r.failure = none) (lines : List String) :
    (r.step (.write lines)).failure = none := by
  rw [step_write h]
  exact h

/-- The lines that the frame writes in some steps. -/
def written (r : Run σ) (steps : List Step) : List String :=
  (r.transcript steps).flatMap Event.frameLines

theorem written_of_failure {r : Run σ} {e : PluginError} (h : r.failure = some e)
    (steps : List Step) : r.written steps = [] := by
  rw [written, transcript_of_failure h, List.flatMap_nil]

theorem written_append (r : Run σ) (a b : List Step) :
    r.written (a ++ b) = r.written a ++ (a.foldl step r).written b := by
  rw [written, transcript_append, List.flatMap_append, written, written]

theorem written_write {r : Run σ} (h : r.failure = none) (lines : List String)
    (steps : List Step) :
    r.written (.write lines :: steps) = lines ++ (r.step (.write lines)).written steps := by
  rw [written, transcript_write h, List.flatMap_cons, written]
  rfl

theorem written_calls (r : Run σ) (slots : List Nat) (hook : Hook) :
    r.written (slots.map (Step.call · hook)) = [] := by
  induction slots generalizing r with
  | nil => rfl
  | cons index slots ih =>
      cases hfailure : r.failure with
      | some e => exact written_of_failure hfailure _
      | none =>
          have hrest := ih (r.step (.call index hook))
          cases hp : r.plugins[index]? with
          | none =>
              rw [List.map_cons, written, transcript_call_of_none hp]
              exact ih r
          | some p =>
              rw [List.map_cons, written, transcript_call hfailure hp, List.flatMap_cons]
              exact hrest

/-- Calls of one hook fail in this hook or not at all. -/
theorem failure_foldl_calls {r : Run σ} (h : r.failure = none) (slots : List Nat) (hook : Hook) :
    ((slots.map (Step.call · hook)).foldl step r).failure = none ∨
      ∃ name e, ((slots.map (Step.call · hook)).foldl step r).failure =
        some (.hook name hook e) := by
  induction slots generalizing r with
  | nil => exact .inl h
  | cons index slots ih =>
      rw [List.map_cons, List.foldl_cons]
      cases hp : r.plugins[index]? with
      | none =>
          rw [step_call_of_none hp]
          exact ih h
      | some p =>
          cases hnext : (r.step (.call index hook)).failure with
          | none => exact ih hnext
          | some e =>
              refine .inr ?_
              rw [foldl_step_of_failure hnext, hnext]
              rw [step_call h hp] at hnext
              obtain ⟨source, -, rfl⟩ := Option.map_eq_some_iff.mp hnext
              exact ⟨p.name, source, rfl⟩

end Run

/-- A block of the frame, and then the calls of at most one hook of `n` plugins. -/
def Step.part (n : Nat) (lines : List String) (hook : Option Hook) : List Step :=
  .write lines :: hook.toList.flatMap (Step.calls n)

namespace Run

/-- A run ends in the hook of a part or goes on behind the part. -/
theorem part_cases {r : Run σ} (h : r.failure = none) (n : Nat) (lines : List String)
    (hook : Option Hook) (rest : List Step) :
    (∃ place ∈ hook, ((Step.part n lines hook ++ rest).foldl step r).stop = some place ∧
        r.written (Step.part n lines hook ++ rest) = lines) ∨
      ((Step.part n lines hook).foldl step r).failure = none ∧
        r.written (Step.part n lines hook ++ rest) =
          lines ++ ((Step.part n lines hook).foldl step r).written rest := by
  have hnext := failure_step_write h lines
  cases hook with
  | none =>
      refine .inr ⟨hnext, ?_⟩
      change r.written (.write lines :: rest) = _
      rw [written_write h]
      rfl
  | some place =>
      have hpart : Step.part n lines (some place) =
          .write lines :: (List.range n).map (Step.call · place) := by
        simp [Step.part, Step.calls]
      have hwritten : r.written (Step.part n lines (some place) ++ rest) =
          lines ++ ((Step.part n lines (some place)).foldl step r).written rest := by
        rw [written_append, hpart, written_write h, written_calls, List.append_nil]
      rcases failure_foldl_calls hnext (List.range n) place with hnone | ⟨name, e, hsome⟩
      · refine .inr ⟨?_, hwritten⟩
        rw [hpart]
        exact hnone
      · have hended : ((Step.part n lines (some place)).foldl step r).failure =
            some (.hook name place e) := by
          rw [hpart]
          exact hsome
        refine .inl ⟨place, rfl, ?_, ?_⟩
        · rw [List.foldl_append, foldl_step_of_failure hended, stop, hended]
        · rw [hwritten, written_of_failure hended, List.append_nil]

end Run

namespace Lifecycle

/-- The lines of a run that no plugin wrote. -/
def frameLines (l : Lifecycle) (plugins : List (LoadedPlugin σ)) (out : Output) : List String :=
  (l.transcript plugins out).flatMap Event.frameLines

/-- How many blocks of the frame are written in a run that ends in a hook, or in none. -/
def blocksBefore : Option Hook → Nat
  | some .setUp => 1
  | some .tearDown => 3
  | some _ => 2
  | none => 4

/-- The frame of a run of plugins with the given names that ends in a hook, or in none. -/
def frame (l : Lifecycle) (names : List String) (stop : Option Hook) : List String :=
  ([l.headLines names, l.middleLines, l.closingLines, trailerLines].take (blocksBefore stop)).flatten

theorem steps_eq_parts (l : Lifecycle) (names : List String) :
    l.steps names = Step.part names.length (l.headLines names) (some .setUp) ++
      (Step.part names.length l.middleLines (modeHook l.mode) ++
        (Step.part names.length l.closingLines (some .tearDown) ++ [.write trailerLines])) := by
  simp [steps, Step.part]

theorem blocksBefore_modeHook {mode : Mode} {hook : Hook} (h : hook ∈ modeHook mode) :
    blocksBefore (some hook) = 2 := by
  cases mode with
  | preseed =>
      cases h
      rfl
  | script phase =>
      cases phase <;>
        cases h <;>
        rfl
  | unknownScript raw => cases h

/-- The frame of a run is told by the place where the run ends. -/
theorem frameLines_eq (l : Lifecycle) (plugins : List (LoadedPlugin σ)) (out : Output) :
    l.frameLines plugins out = l.frame (plugins.map (·.name)) (l.run plugins out).stop := by
  rw [run_eq_foldl]
  change Run.written { plugins, output := out } (l.steps (plugins.map (·.name))) = _
  rw [steps_eq_parts]
  generalize plugins.map (·.name) = names
  generalize hstart : ({ plugins, output := out } : Run σ) = start
  have hgoing : start.failure = none := by rw [← hstart]
  rcases Run.part_cases hgoing names.length (l.headLines names) (some .setUp) _ with
    ⟨place, hplace, hstop, heq⟩ | ⟨hhead, heq⟩
  · cases hplace
    rw [heq, hstop]
    simp [frame, blocksBefore]
  rw [heq, List.foldl_append]
  rcases Run.part_cases hhead names.length l.middleLines (modeHook l.mode) _ with
    ⟨place, hplace, hstop, heq⟩ | ⟨hmiddle, heq⟩
  · rw [heq, hstop, frame, blocksBefore_modeHook hplace]
    simp
  rw [heq, List.foldl_append]
  rcases Run.part_cases hmiddle names.length l.closingLines (some .tearDown) _ with
    ⟨place, hplace, hstop, heq⟩ | ⟨hclosing, heq⟩
  · cases hplace
    rw [heq, hstop]
    simp [frame, blocksBefore]
  have hend := Run.failure_step_write hclosing trailerLines
  rw [heq, Run.written_write hclosing, List.foldl_append, List.foldl_cons, List.foldl_nil,
    Run.stop_of_failure_none hend]
  simp [frame, blocksBefore, Run.written, Run.transcript]

/-- The lines of a run are those of its events. -/
theorem lines_run (l : Lifecycle) (plugins : List (LoadedPlugin σ)) (out : Output) :
    (l.run plugins out).output.lines =
      out.lines ++ (l.transcript plugins out).flatMap Event.lines :=
  (l.replays_run plugins out).lines_eq

end Lifecycle

end Preseed
