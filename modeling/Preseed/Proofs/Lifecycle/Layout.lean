import Preseed.Proofs.Lifecycle.Confinement

/-! # The layout of an answer

An answer in which no call failed: the lines of the frame, and between them in each hook what the plugins
wrote in it, one after the other. -/

namespace Preseed

variable {σ : Type}

/-! ## Blocks -/

namespace Call

/-- What was written in a hook, call by call. -/
def block (calls : List (Call σ)) (hook : Hook) : List String :=
  (calls.filter (·.hook == hook)).flatMap (·.reply.lines)

theorem block_append (a b : List (Call σ)) (hook : Hook) :
    block (a ++ b) hook = block a hook ++ block b hook := by
  simp [block]

theorem block_of_forall {calls : List (Call σ)} {hook : Hook} (h : ∀ c ∈ calls, c.hook = hook) :
    block calls hook = calls.flatMap (·.reply.lines) := by
  have hfilter : calls.filter (·.hook == hook) = calls :=
    List.filter_eq_self.mpr fun c hc => beq_iff_eq.mpr (h c hc)
  rw [block, hfilter]

theorem block_of_forall_ne {calls : List (Call σ)} {hook : Hook} (h : ∀ c ∈ calls, c.hook ≠ hook) :
    block calls hook = [] := by
  have hfilter : calls.filter (·.hook == hook) = [] :=
    List.filter_eq_nil_iff.mpr fun c hc => by simpa using h c hc
  rw [block, hfilter, List.flatMap_nil]

end Call

theorem Event.lines_of_frameLines_eq_nil {events : List (Event σ)}
    (h : events.flatMap frameLines = []) :
    events.flatMap lines = (events.filterMap call?).flatMap (·.reply.lines) := by
  induction events with
  | nil => rfl
  | cons event events ih =>
      rw [List.flatMap_cons, List.append_eq_nil_iff] at h
      cases event with
      | wrote lines =>
          obtain rfl : lines = [] := h.1
          exact ih h.2
      | called c => exact congrArg (c.reply.lines ++ ·) (ih h.2)

/-- A call sees an output that goes on from the first. -/
theorem Replays.prefix_of_called {plugins plugins' : List (LoadedPlugin σ)} {output output' : Output}
    {events : List (Event σ)} {c : Call σ} (h : Replays plugins output events plugins' output')
    (hc : .called c ∈ events) : output.lines <+: c.output.lines := by
  induction h with
  | nil => cases hc
  | wrote lines _ ih =>
      rcases List.mem_cons.mp hc with hwrote | hc
      · cases hwrote
      · exact (List.prefix_append _ _).trans (ih hc)
  | called hp hreply _ ih =>
      rcases List.mem_cons.mp hc with hcalled | hc
      · cases hcalled
        exact List.prefix_rfl
      · exact (List.prefix_append _ _).trans (ih hc)

/-! ## Parts -/

namespace Step

theorem hook_of_mem_part {n index : Nat} {lines : List String} {hook : Option Hook} {place : Hook}
    (h : call index place ∈ part n lines hook) : hook = some place := by
  cases hook with
  | none => simp [part] at h
  | some other =>
      simp only [part, calls, Option.toList_some, List.flatMap_singleton, List.mem_cons,
        reduceCtorEq, List.mem_map, false_or] at h
      obtain ⟨_, -, hcall⟩ := h
      cases hcall
      rfl

/-- Several parts of a run of `n` plugins, each with its lines and its hook. -/
def parts (n : Nat) (parts : List (List String × Option Hook)) : List Step :=
  parts.flatMap fun (lines, hook) => part n lines hook

end Step

namespace Run

/-- A call that is made is one of the steps. -/
theorem call_mem_of_made {r : Run σ} {steps : List Step} :
    ∀ c ∈ r.made steps, Step.call c.index c.hook ∈ steps := by
  induction steps generalizing r with
  | nil => simp [made, transcript]
  | cons s steps ih =>
      cases hfailure : r.failure with
      | some e => simp [made_of_failure hfailure]
      | none =>
          intro c hc
          cases s with
          | write lines =>
              rw [made_write hfailure] at hc
              exact List.mem_cons_of_mem _ (ih c hc)
          | call index hook =>
              cases hp : r.plugins[index]? with
              | none =>
                  rw [made_call_of_none hp] at hc
                  exact List.mem_cons_of_mem _ (ih c hc)
              | some p =>
                  rw [made_call hfailure hp] at hc
                  rcases List.mem_cons.mp hc with rfl | hc
                  · exact List.mem_cons_self
                  · exact List.mem_cons_of_mem _ (ih c hc)

theorem made_append (r : Run σ) (a b : List Step) :
    r.made (a ++ b) = r.made a ++ (a.foldl step r).made b := by
  rw [made, transcript_append, List.filterMap_append, made, made]

theorem hook_of_made_part {r : Run σ} {n : Nat} {lines : List String} {hook : Option Hook} :
    ∀ c ∈ r.made (Step.part n lines hook), hook = some c.hook := fun c hc =>
  Step.hook_of_mem_part (call_mem_of_made c hc)

theorem hook_of_made_parts {r : Run σ} {n : Nat} {parts : List (List String × Option Hook)} :
    ∀ c ∈ r.made (Step.parts n parts), c.hook ∈ parts.filterMap Prod.snd := by
  intro c hc
  obtain ⟨part, hpart, hcall⟩ := List.mem_flatMap.mp (call_mem_of_made c hc)
  exact List.mem_filterMap.mpr ⟨part, hpart, Step.hook_of_mem_part hcall⟩

/-- A part writes its own lines and then what the plugins write in its hook. -/
theorem lines_part {r : Run σ} (h : r.failure = none) (n : Nat) (lines : List String)
    (hook : Option Hook) :
    (r.transcript (Step.part n lines hook)).flatMap Event.lines =
      lines ++ hook.toList.flatMap (Call.block (r.made (Step.part n lines hook))) := by
  have hcalls : (r.step (.write lines)).written (hook.toList.flatMap (Step.calls n)) = [] := by
    cases hook with
    | none => rfl
    | some place =>
        rw [Option.toList_some, List.flatMap_singleton]
        exact written_calls _ (List.range n) place
  have hlines : (r.transcript (Step.part n lines hook)).flatMap Event.lines =
      lines ++ (r.made (Step.part n lines hook)).flatMap (·.reply.lines) := by
    rw [Step.part, transcript_write h, made_write h, List.flatMap_cons,
      Event.lines_of_frameLines_eq_nil hcalls]
    rfl
  rw [hlines]
  cases hook with
  | none =>
      have hnone : r.made (Step.part n lines none) = [] := by
        rw [List.eq_nil_iff_forall_not_mem]
        intro c hc
        cases hook_of_made_part c hc
      rw [hnone]
      rfl
  | some place =>
      rw [Option.toList_some, List.flatMap_singleton, Call.block_of_forall]
      intro c hc
      exact Option.some.inj (hook_of_made_part c hc).symm

theorem failure_eq_none_of_foldl {r : Run σ} {steps : List Step}
    (h : (steps.foldl step r).failure = none) : r.failure = none := by
  cases hfailure : r.failure with
  | none => rfl
  | some e =>
      rw [foldl_step_of_failure hfailure, hfailure] at h
      cases h

/-- In parts with different hooks each block is written once, behind the lines of its part. -/
theorem lines_parts {r : Run σ} {n : Nat} {parts : List (List String × Option Hook)}
    (hnodup : (parts.filterMap Prod.snd).Nodup)
    (h : ((Step.parts n parts).foldl step r).failure = none) :
    (r.transcript (Step.parts n parts)).flatMap Event.lines =
      parts.flatMap fun part =>
        part.1 ++ part.2.toList.flatMap (Call.block (r.made (Step.parts n parts))) := by
  induction parts generalizing r with
  | nil => rfl
  | cons part parts ih =>
      obtain ⟨lines, hook⟩ := part
      have hsteps : Step.parts n ((lines, hook) :: parts) =
          Step.part n lines hook ++ Step.parts n parts := rfl
      rw [hsteps] at h ⊢
      rw [List.foldl_append] at h
      generalize hr' : (Step.part n lines hook).foldl step r = r' at h
      have hrest : (parts.filterMap Prod.snd).Nodup :=
        hnodup.sublist (List.Sublist.filterMap _ (List.sublist_cons_self _ _))
      -- No call of the other parts is a call of this hook, and no call of this part is one of theirs.
      have hother : ∀ place ∈ hook, place ∉ parts.filterMap Prod.snd := by
        rintro place ⟨⟩
        exact (List.nodup_cons.mp (by simpa using hnodup)).1
      have hhere : hook.toList.flatMap
            (Call.block (r.made (Step.part n lines hook) ++ r'.made (Step.parts n parts))) =
          hook.toList.flatMap (Call.block (r.made (Step.part n lines hook))) := by
        apply List.flatMap_congr
        intro place hplace
        have hlater : Call.block (r'.made (Step.parts n parts)) place = [] := by
          refine Call.block_of_forall_ne ?_
          rintro c hc rfl
          exact hother c.hook (Option.mem_toList.mp hplace) (hook_of_made_parts c hc)
        rw [Call.block_append, hlater, List.append_nil]
      have hthere : ∀ q ∈ parts, q.1 ++ q.2.toList.flatMap
            (Call.block (r.made (Step.part n lines hook) ++ r'.made (Step.parts n parts))) =
          q.1 ++ q.2.toList.flatMap (Call.block (r'.made (Step.parts n parts))) := by
        intro q hq
        congr 1
        apply List.flatMap_congr
        intro place hplace
        have hearlier : Call.block (r.made (Step.part n lines hook)) place = [] := by
          refine Call.block_of_forall_ne ?_
          rintro c hc rfl
          exact hother c.hook (hook_of_made_part c hc)
            (List.mem_filterMap.mpr ⟨q, hq, Option.mem_toList.mp hplace⟩)
        rw [Call.block_append, hearlier, List.nil_append]
      rw [transcript_append, made_append, hr', List.flatMap_append,
        lines_part (failure_eq_none_of_foldl (hr' ▸ failure_eq_none_of_foldl h)), ih hrest h,
        List.flatMap_cons, hhere, List.flatMap_congr hthere]

end Run

/-! ## Blocks among lines -/

/-- How often a block stands among lines, its own lines all together. -/
def occurrences (block lines : List String) : Nat :=
  lines.tails.countP (block.isPrefixOf ·)

theorem occurrences_le_count (line : String) (block lines : List String) :
    occurrences (line :: block) lines ≤ lines.count line := by
  induction lines with
  | nil => simp [occurrences]
  | cons other lines ih =>
      rw [occurrences, List.tails_cons, List.countP_cons, List.count_cons]
      refine Nat.add_le_add ih ?_
      by_cases h : other = line
      · simp [h, List.isPrefixOf]
        split <;> simp
      · simp [h, Ne.symm h, List.isPrefixOf]

theorem occurrences_pos {block lines : List String} (h : block <:+: lines) :
    0 < occurrences block lines := by
  obtain ⟨before, after, rfl⟩ := h
  refine List.countP_pos_iff.mpr ⟨block ++ after, ?_, ?_⟩
  · rw [List.mem_tails, List.append_assoc]
    exact List.suffix_append _ _
  · exact List.isPrefixOf_iff_prefix.mpr (List.prefix_append _ _)

/-! ## The whole answer -/

theorem Mode.nodup_hooks (mode : Mode) : mode.hooks.Nodup := by
  cases mode with
  | preseed => decide
  | script phase => cases phase <;> decide
  | unknownScript raw => exact (by decide : [Hook.setUp, .tearDown].Nodup)

/-- Of several blocks one is kept. -/
theorem flatMap_ite {α β : Type} [DecidableEq α] {xs : List α} (h : xs.Nodup) (x : α) (ys : List β) :
    (xs.flatMap fun y => if y = x then ys else []) = if x ∈ xs then ys else [] := by
  induction xs with
  | nil => rfl
  | cons y xs ih =>
      obtain ⟨hy, hxs⟩ := List.nodup_cons.mp h
      rw [List.flatMap_cons, ih hxs]
      by_cases hyx : y = x
      · subst hyx
        rw [if_pos rfl, if_neg hy, if_pos List.mem_cons_self, List.append_nil]
      · rw [if_neg hyx, List.nil_append]
        simp [Ne.symm hyx]

/-- In a plan a hook's turns are one for each plugin, in order. -/
theorem Mode.plan_filter_hook {mode : Mode} {hook : Hook} (h : hook ∈ mode.hooks) (n : Nat) :
    ((mode.plan n).filter (·.2 == hook)).map Prod.fst = List.range n := by
  have hround : ∀ place : Hook, ((List.range n).map fun i => (i, place)).filter (·.2 == hook) =
      if place = hook then (List.range n).map fun i => (i, hook) else [] := by
    intro place
    by_cases hplace : place = hook
    · subst hplace
      simp
    · simp [hplace]
  rw [plan, List.filter_flatMap]
  simp only [hround]
  rw [flatMap_ite mode.nodup_hooks, if_pos h, List.map_map]
  exact List.map_id _

namespace Lifecycle

/-- The lines of an answer of the mode, where `block` gives what the plugins write in a hook. -/
def layout (l : Lifecycle) (names : List String) (block : Hook → List String) : List String :=
  let command (phase : Phase) := l.link.commandLine phase l.client l.pluginFilter
  let start := names.map (fun name => "# " ++ ("Plugin " ++ name)) ++ ["#", l.titleLine, "#", ""] ++
    Output.bannerLines "Initialize Plugins" ++ block .setUp
  let finish := Output.bannerLines "Deinitialize Plugins" ++ block .tearDown ++ ["#", "# EOF", "#"]
  let script (word command : String) (hook : Hook) :=
    ["#!/bin/bash", "#", "# " ++ ("Generate " ++ word ++ " script"), "# manual execute:",
      "# " ++ command, "#", "", "#", "# helper functions", "#"] ++ helperLines ++ [""] ++ start ++
    Output.bannerLines ("Perform " ++ word ++ " script") ++
    ["echo \"Running " ++ word ++ " script\""] ++ block hook ++
    ["echo \"Finished " ++ word ++ " script\"", ""] ++ finish
  match l.mode with
  | .preseed =>
    start ++ ["d-i preseed/early_command string " ++ command .early,
      "d-i preseed/late_command string " ++ command .late, ""] ++
      Output.bannerLines "Perform preseed" ++ block .preseed ++ finish
  | .script .early => script "early" (command .early) .scriptEarly
  | .script .late => script "late" (command .late) .scriptLate
  | .unknownScript raw =>
    "#!/bin/bash" :: start ++ ["# " ++ ("Unsupported script phase: " ++ raw), ""] ++ finish

theorem layout_eq_blocks (l : Lifecycle) (names : List String) (block : Hook → List String) :
    l.layout names block = l.headLines names ++ block .setUp ++ l.middleLines ++
      (modeHook l.mode).toList.flatMap block ++ l.closingLines ++ block .tearDown ++
      trailerLines := by
  have hnames : nameLine = fun name => "# " ++ ("Plugin " ++ name) := rfl
  unfold layout headLines openingLines middleLines closingLines trailerLines
  cases l.mode with
  | preseed => simp [hnames, modeHook, commandLine_eq, fetchStart, phaseWord, fetchCommand]
  | script phase => cases phase <;> simp [hnames, modeHook, preambleLines, phaseWord, fetchCommand]
  | unknownScript raw => simp [hnames, modeHook]

theorem steps_eq_parts_hooks (l : Lifecycle) (names : List String) :
    l.steps names = Step.parts names.length [(l.headLines names, some .setUp),
      (l.middleLines, modeHook l.mode), (l.closingLines, some .tearDown), (trailerLines, none)] := by
  rw [steps_eq_parts]
  simp [Step.parts, Step.part]

theorem lines_run_of_success {l : Lifecycle} {plugins : List (LoadedPlugin σ)} {out : Output}
    (h : (l.run plugins out).failure = none) :
    (l.run plugins out).output.lines =
      out.lines ++ l.layout (plugins.map (·.name)) (Call.block (l.made plugins out)) := by
  have hhooks : [(l.headLines (plugins.map (·.name)), some Hook.setUp),
      (l.middleLines, modeHook l.mode), (l.closingLines, some .tearDown),
      (trailerLines, none)].filterMap Prod.snd = l.mode.hooks := by
    cases l.mode with
    | preseed => rfl
    | script phase => cases phase <;> rfl
    | unknownScript raw => rfl
  have hnodup := l.mode.nodup_hooks
  rw [← hhooks] at hnodup
  rw [run_eq_foldl, steps_eq_parts_hooks] at h
  have hlines := Run.lines_parts hnodup h
  rw [← steps_eq_parts_hooks] at hlines
  have hmade : Run.made { plugins, output := out } (l.steps (plugins.map (·.name))) =
      l.made plugins out := rfl
  rw [lines_run, layout_eq_blocks]
  refine congrArg (out.lines ++ ·) (hlines.trans ?_)
  rw [hmade]
  simp

/-- The lines of the helper are written once in the script of a phase, and in no other answer. -/
theorem count_frame_of_mem_helper (l : Lifecycle) (names : List String) :
    ∀ line ∈ helperLines, (l.frame names none).count line =
      match l.mode with
      | .script _ => 1
      | _ => 0 := by
  intro line hline
  have hplain : isPlain line = true :=
    (by decide : ∀ line ∈ helperLines, isPlain line = true) line hline
  rw [← List.count_filter hplain, filter_isPlain_frame]
  cases l.mode with
  | preseed => exact (by decide : ∀ line ∈ helperLines, List.count line _ = 0) line hline
  | script phase =>
      revert line
      cases phase <;> decide
  | unknownScript raw =>
      exact (by decide : ∀ line ∈ helperLines, ["", "", "", ""].count line = 0) line hline

theorem helperLines_infix_headLines {l : Lifecycle} {phase : Phase} (h : l.mode = .script phase)
    (names : List String) : helperLines <:+: l.headLines names := by
  have hpreamble : helperLines <:+: l.preambleLines phase := ⟨_, [""], rfl⟩
  rw [headLines, openingLines, h]
  dsimp only
  rw [List.cons_append, List.cons_append, List.cons_append, List.append_assoc, List.append_assoc]
  exact List.infix_cons (hpreamble.trans (List.prefix_append _ _).isInfix)

theorem occurrences_helperLines (l : Lifecycle) (names : List String) :
    occurrences helperLines (l.frame names none) =
      match l.mode with
      | .script _ => 1
      | _ => 0 := by
  have hle := occurrences_le_count "download_file() \x7b" helperLines.tail (l.frame names none)
  rw [count_frame_of_mem_helper l names _ List.mem_cons_self] at hle
  cases hmode : l.mode with
  | preseed =>
      rw [hmode] at hle
      exact Nat.le_zero.mp hle
  | unknownScript raw =>
      rw [hmode] at hle
      exact Nat.le_zero.mp hle
  | script phase =>
      rw [hmode] at hle
      have hhead : l.headLines names <+: l.frame names none := List.prefix_append _ _
      have hinfix := (helperLines_infix_headLines hmode names).trans hhead.isInfix
      exact Nat.le_antisymm hle (occurrences_pos hinfix)

/-- A plugin sees what the output held and the head of the answer, whenever it is called. -/
theorem head_prefix_of_made (l : Lifecycle) (plugins : List (LoadedPlugin σ)) (out : Output) :
    ∀ c ∈ l.made plugins out,
      out.lines ++ l.headLines (plugins.map (·.name)) <+: c.output.lines := by
  intro c hc
  obtain ⟨event, hevent, hcall⟩ := List.mem_filterMap.mp hc
  obtain rfl : event = .called c := by
    cases event with
    | wrote lines => cases hcall
    | called d => rw [Option.some.inj hcall]
  have hreplays := l.replays_run plugins out
  have htranscript : l.transcript plugins out = .wrote (l.headLines (plugins.map (·.name))) ::
      Run.transcript _ _ := rfl
  rw [htranscript] at hevent hreplays
  cases hreplays with
  | wrote _ hrest =>
      rcases List.mem_cons.mp hevent with hhead | hevent
      · cases hhead
      · exact hrest.prefix_of_called hevent

/-- When no call fails, a run keeps what was written before and appends the layout of its mode, filled
in each hook with what the plugins write in it, one call of each plugin in order. The helper is there
once in the script of a phase and in no other answer, and there it is written before any plugin is called. -/
theorem run_writes_layout (l : Lifecycle) (plugins : List (LoadedPlugin σ)) (out : Output)
    (h : ∀ c ∈ l.made plugins out, c.reply.failure = none) :
    let r := l.run plugins out
    let made := l.made plugins out
    let layout := l.layout (plugins.map (·.name)) (Call.block made)
    Replays plugins out (l.transcript plugins out) r.plugins r.output ∧
      r.failure = none ∧
      r.output.lines = out.lines ++ layout ∧
      (∀ hook ∈ l.mode.hooks,
        (made.filter (·.hook == hook)).map (·.index) = List.range plugins.length) ∧
      (occurrences helperLines (l.frameLines plugins out) =
        match l.mode with
        | .script _ => 1
        | _ => 0) ∧
      ∀ c ∈ made, ∃ head, head <+: layout ∧ out.lines ++ head <+: c.output.lines ∧
        ∀ phase, l.mode = .script phase → helperLines <:+: head := by
  intro r made layout
  obtain ⟨hfailure, hplan⟩ := (carriedOut_run l plugins out).complete h
  refine ⟨l.replays_run plugins out, hfailure, lines_run_of_success hfailure, ?_, ?_, ?_⟩
  · intro hook hhook
    rw [← Mode.plan_filter_hook hhook, ← hplan, List.filter_map, List.map_map]
    rfl
  · rw [frameLines_eq, Run.stop_of_failure_none hfailure]
    exact occurrences_helperLines l _
  · intro c hc
    refine ⟨l.headLines (plugins.map (·.name)), ?_, head_prefix_of_made l plugins out c hc, ?_⟩
    · change _ <+: l.layout _ _
      rw [layout_eq_blocks]
      simp only [List.append_assoc]
      exact List.prefix_append _ _
    · exact fun phase hmode => helperLines_infix_headLines hmode _

theorem run_writes_layout_of_late_script :
    let l : Lifecycle :=
      { mode := .script .late
        client := (Client.Builder.ofQuery (.v4 ⟨10, 0, 0, 5⟩) (some "host7") none "script=late").build
        link := .ofUrl { scheme := "http", host := some (.name "install.lab.example")
                         path := .segments ["preseed"] } }
    let recorder (name : String) : LoadedPlugin Nat :=
      { name, kind := "Recorder"
        plugin :=
          { state := 0
            call := fun hook _ n =>
              { state := n + 1, lines := [name ++ " " ++ hook.toString, toString n] } } }
    let plugins := [recorder "Alpha", recorder "Beta"]
    let made := l.made plugins ⟨["# Earlier"]⟩
    let lines := (l.run plugins ⟨["# Earlier"]⟩).output.lines
    (∀ c ∈ made, c.reply.failure = none) ∧
      lines = "# Earlier" :: l.layout ["Alpha", "Beta"] (Call.block made) ∧
      occurrences helperLines lines = 1 ∧
      Call.block made .scriptLate = ["Alpha ScriptLate", "1", "Beta ScriptLate", "1"] := by
  intro l recorder plugins made lines
  have hmade : ∀ c ∈ made, c.reply.failure = none := by decide +kernel
  have hlines := (run_writes_layout l plugins ⟨["# Earlier"]⟩ hmade).2.2.1
  exact ⟨hmade, hlines, by decide +kernel, by decide +kernel⟩

end Lifecycle

end Preseed
