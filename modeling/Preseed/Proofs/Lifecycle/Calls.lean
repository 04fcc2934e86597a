import Mathlib.Data.List.Count
import Mathlib.Data.List.Nodup
import Preseed.Proofs.Lifecycle.Steps

/-! # The calls of a run

A transcript lists what a run did: the lines that the frame wrote, and each call with what the plugin saw
and answered. The calls follow a plan that the mode fixes, up to the first call that fails. -/

namespace Preseed

/-- One call of a plugin. -/
structure Call (σ : Type) where
  /-- The plugin's position. -/
  index : Nat
  name : String
  hook : Hook
  /-- The output that the plugin saw. -/
  output : Output
  /-- The plugin's state before the call. -/
  state : σ
  reply : Reply σ

inductive Event (σ : Type) where
  | wrote (lines : List String)
  | called (call : Call σ)

variable {σ : Type}

namespace Call

def slot (c : Call σ) : Nat × Hook :=
  (c.index, c.hook)

end Call

namespace Event

/-- The lines that an event adds to the output. -/
def lines : Event σ → List String
  | wrote lines => lines
  | called c => c.reply.lines

/-- Those of them that no plugin wrote. -/
def frameLines : Event σ → List String
  | wrote lines => lines
  | called _ => []

def call? : Event σ → Option (Call σ)
  | wrote _ => none
  | called c => some c

end Event

namespace Step

def slot? : Step → Option (Nat × Hook)
  | write _ => none
  | call index hook => some (index, hook)

end Step

/-! ## Transcripts -/

namespace Run

/-- The call of a plugin where a run stands. -/
def callOf (r : Run σ) (index : Nat) (p : LoadedPlugin σ) (hook : Hook) : Call σ :=
  { index, name := p.name, hook, output := r.output, state := p.plugin.state
    reply := r.reply p hook }

/-- What a step does where a run stands. -/
def event? (r : Run σ) (s : Step) : Option (Event σ) :=
  match r.failure with
  | some _ => none
  | none =>
    match s with
    | .write lines => some (.wrote lines)
    | .call index hook => r.plugins[index]?.map fun p => .called (r.callOf index p hook)

def transcript (r : Run σ) : List Step → List (Event σ)
  | [] => []
  | s :: steps => (r.event? s).toList ++ (r.step s).transcript steps

theorem transcript_of_failure {r : Run σ} {e : PluginError} (h : r.failure = some e)
    (steps : List Step) : r.transcript steps = [] := by
  induction steps with
  | nil => rfl
  | cons s steps ih => simp [transcript, event?, h, step_of_failure h, ih]

theorem transcript_append (r : Run σ) (a b : List Step) :
    r.transcript (a ++ b) = r.transcript a ++ (a.foldl step r).transcript b := by
  induction a generalizing r with
  | nil => rfl
  | cons s a ih => simp [transcript, ih]

theorem transcript_write {r : Run σ} (h : r.failure = none) (lines : List String)
    (steps : List Step) :
    r.transcript (.write lines :: steps) =
      .wrote lines :: (r.step (.write lines)).transcript steps := by
  simp [transcript, event?, h]

theorem transcript_call {r : Run σ} {index : Nat} {p : LoadedPlugin σ} (h : r.failure = none)
    (hp : r.plugins[index]? = some p) (hook : Hook) (steps : List Step) :
    r.transcript (.call index hook :: steps) =
      .called (r.callOf index p hook) :: (r.step (.call index hook)).transcript steps := by
  simp [transcript, event?, h, hp]

theorem transcript_call_of_none {r : Run σ} {index : Nat} (hp : r.plugins[index]? = none)
    (hook : Hook) (steps : List Step) :
    r.transcript (.call index hook :: steps) = r.transcript steps := by
  have hevent : r.event? (.call index hook) = none := by
    unfold event?
    split
    · rfl
    · simp [hp]
  simp [transcript, hevent, step_call_of_none hp]

end Run

/-- A transcript replays: each call is answered by the plugin as its earlier calls left it, for the
output as it then was. -/
inductive Replays : List (LoadedPlugin σ) → Output → List (Event σ) → List (LoadedPlugin σ) →
    Output → Prop where
  | nil (plugins output) : Replays plugins output [] plugins output
  | wrote (lines) {plugins output events plugins' output'} :
      Replays plugins (output.append lines) events plugins' output' →
      Replays plugins output (.wrote lines :: events) plugins' output'
  | called {index p hook reply plugins output events plugins' output'}
      (hp : plugins[index]? = some p) (hreply : p.plugin.call hook output p.plugin.state = reply) :
      Replays (plugins.set index (Run.after p reply)) (output.append reply.lines) events plugins'
        output' →
      Replays plugins output
        (.called { index, name := p.name, hook, output, state := p.plugin.state, reply } :: events)
        plugins' output'

theorem Run.replays_transcript (r : Run σ) (steps : List Step) :
    Replays r.plugins r.output (r.transcript steps) (steps.foldl step r).plugins
      (steps.foldl step r).output := by
  induction steps generalizing r with
  | nil => exact .nil _ _
  | cons s steps ih =>
      have hrest := ih (r.step s)
      cases hfailure : r.failure with
      | some e =>
          rw [transcript_of_failure hfailure, foldl_step_of_failure hfailure]
          exact .nil _ _
      | none =>
          cases s with
          | write lines =>
              rw [transcript_write hfailure, List.foldl_cons]
              rw [step_write hfailure] at hrest ⊢
              exact .wrote lines hrest
          | call index hook =>
              cases hp : r.plugins[index]? with
              | none =>
                  rw [transcript_call_of_none hp, List.foldl_cons]
                  rwa [step_call_of_none hp] at hrest ⊢
              | some p =>
                  rw [transcript_call hfailure hp, List.foldl_cons]
                  rw [step_call hfailure hp] at hrest ⊢
                  exact .called hp rfl hrest

/-- A replayed transcript accounts for every line. -/
theorem Replays.lines_eq {plugins plugins' : List (LoadedPlugin σ)} {output output' : Output}
    {events : List (Event σ)} (h : Replays plugins output events plugins' output') :
    output'.lines = output.lines ++ events.flatMap Event.lines := by
  induction h with
  | nil => simp
  | wrote lines _ ih => simp [ih, Event.lines]
  | called hp hreply _ ih => simp [ih, Event.lines]

/-! ## Plans -/

/-- How a plan of calls is carried out: one call after another, up to the first that fails. The failure
names that call's plugin and hook, and its cause. -/
inductive CarriedOut : List (Nat × Hook) → List (Call σ) → Option PluginError → Prop where
  | done : CarriedOut [] [] none
  | next {c plan made failure} (hc : c.reply.failure = none) :
      CarriedOut plan made failure → CarriedOut (c.slot :: plan) (c :: made) failure
  | stop {c e} (plan) (hc : c.reply.failure = some e) :
      CarriedOut (c.slot :: plan) [c] (some (.hook c.name c.hook e))

namespace CarriedOut

variable {plan : List (Nat × Hook)} {made : List (Call σ)} {failure : Option PluginError}

theorem order (h : CarriedOut plan made failure) : made.map Call.slot <+: plan := by
  induction h with
  | done => exact List.prefix_rfl
  | next hc _ ih => exact (List.prefix_cons_inj _).mpr ih
  | stop plan hc => exact ⟨plan, rfl⟩

theorem complete (h : CarriedOut plan made failure) (hmade : ∀ c ∈ made, c.reply.failure = none) :
    failure = none ∧ made.map Call.slot = plan := by
  induction h with
  | done => exact ⟨rfl, rfl⟩
  | next hc _ ih =>
      obtain ⟨hfailure, hplan⟩ := ih fun c hmem => hmade c (List.mem_cons_of_mem _ hmem)
      exact ⟨hfailure, by rw [List.map_cons, hplan]⟩
  | stop plan hc =>
      rw [hmade _ (List.mem_singleton_self _)] at hc
      cases hc

theorem cut (h : CarriedOut plan made failure) {before after : List (Call σ)} {c : Call σ}
    {e : PluginError} (hmade : made = before ++ c :: after) (hc : c.reply.failure = some e) :
    after = [] ∧ failure = some (.hook c.name c.hook e) := by
  induction h generalizing before with
  | done => simp at hmade
  | @next d plan made failure hd _ ih =>
      cases before with
      | nil =>
          obtain ⟨rfl, rfl⟩ := List.cons.inj hmade
          rw [hd] at hc
          cases hc
      | cons b before => exact ih (List.cons.inj hmade).2
  | @stop d e' plan hd =>
      cases before with
      | nil =>
          obtain ⟨rfl, hafter⟩ := List.cons.inj hmade
          rw [hd] at hc
          cases hc
          exact ⟨hafter.symm, rfl⟩
      | cons b before =>
          have hnil := (List.cons.inj hmade).2
          simp at hnil

end CarriedOut

namespace Run

/-- The calls among the events. -/
def made (r : Run σ) (steps : List Step) : List (Call σ) :=
  (r.transcript steps).filterMap Event.call?

theorem made_of_failure {r : Run σ} {e : PluginError} (h : r.failure = some e)
    (steps : List Step) : r.made steps = [] := by
  rw [made, transcript_of_failure h, List.filterMap_nil]

theorem made_write {r : Run σ} (h : r.failure = none) (lines : List String) (steps : List Step) :
    r.made (.write lines :: steps) = (r.step (.write lines)).made steps := by
  rw [made, transcript_write h, List.filterMap_cons_none rfl, made]

theorem made_call {r : Run σ} {index : Nat} {p : LoadedPlugin σ} (h : r.failure = none)
    (hp : r.plugins[index]? = some p) (hook : Hook) (steps : List Step) :
    r.made (.call index hook :: steps) =
      r.callOf index p hook :: (r.step (.call index hook)).made steps := by
  rw [made, transcript_call h hp]
  rfl

theorem made_call_of_none {r : Run σ} {index : Nat} (hp : r.plugins[index]? = none) (hook : Hook)
    (steps : List Step) : r.made (.call index hook :: steps) = r.made steps := by
  rw [made, transcript_call_of_none hp, made]

theorem carriedOut_made {r : Run σ} (h : r.failure = none) {steps : List Step}
    (hindex : ∀ slot ∈ steps.filterMap Step.slot?, slot.1 < r.plugins.length) :
    CarriedOut (steps.filterMap Step.slot?) (r.made steps) (steps.foldl step r).failure := by
  induction steps generalizing r with
  | nil =>
      rw [List.foldl_nil, h]
      exact .done
  | cons s steps ih =>
      cases s with
      | write lines =>
          have hnext := step_write h lines
          rw [made_write h, List.foldl_cons]
          exact ih (by rw [hnext]; exact h) (by rw [hnext]; exact hindex)
      | call index hook =>
          have hlt : index < r.plugins.length := hindex (index, hook) (by simp [Step.slot?])
          have hp := List.getElem?_eq_getElem hlt
          have hnext := step_call h hp hook
          rw [made_call h hp, List.foldl_cons]
          change CarriedOut ((r.callOf index r.plugins[index] hook).slot :: steps.filterMap Step.slot?)
            _ _
          cases hreply : (r.callOf index r.plugins[index] hook).reply.failure with
          | some e =>
              have hended : (r.step (.call index hook)).failure =
                  some (.hook r.plugins[index].name hook e) := by
                rw [hnext]
                exact congrArg (Option.map (PluginError.hook r.plugins[index].name hook)) hreply
              rw [made_of_failure hended, foldl_step_of_failure hended, hended]
              exact .stop _ hreply
          | none =>
              refine .next hreply (ih ?_ ?_)
              · rw [hnext]
                exact congrArg (Option.map (PluginError.hook r.plugins[index].name hook)) hreply
              · intro slot hslot
                rw [length_plugins_step]
                exact hindex slot (List.mem_cons_of_mem _ hslot)

theorem calls_foldl (r : Run σ) (steps : List Step) :
    (steps.foldl step r).calls = r.calls ++ (r.made steps).map fun c => (c.name, c.hook) := by
  induction steps generalizing r with
  | nil => simp [made, transcript]
  | cons s steps ih =>
      cases hfailure : r.failure with
      | some e => simp [made_of_failure hfailure, foldl_step_of_failure hfailure]
      | none =>
          rw [List.foldl_cons, ih]
          cases s with
          | write lines => rw [made_write hfailure, step_write hfailure]
          | call index hook =>
              cases hp : r.plugins[index]? with
              | none => rw [made_call_of_none hp, step_call_of_none hp]
              | some p =>
                  rw [made_call hfailure hp, step_call hfailure hp]
                  simp [callOf]

end Run

/-! ## The plan of a mode -/

/-- The hooks that a run of a mode goes through. -/
def Mode.hooks : Mode → List Hook
  | .preseed => [.setUp, .preseed, .tearDown]
  | .script .early => [.setUp, .scriptEarly, .tearDown]
  | .script .late => [.setUp, .scriptLate, .tearDown]
  | .unknownScript _ => [.setUp, .tearDown]

/-- Each hook of `n` plugins in order, one hook after another. -/
def Mode.plan (mode : Mode) (n : Nat) : List (Nat × Hook) :=
  mode.hooks.flatMap fun hook => (List.range n).map fun index => (index, hook)

example : (Mode.script .late).plan 2 =
    [(0, .setUp), (1, .setUp), (0, .scriptLate), (1, .scriptLate), (0, .tearDown), (1, .tearDown)] := by
  decide

/-- In a plan each plugin has each hook of the mode once, in order. -/
theorem Mode.plan_filter (mode : Mode) {n index : Nat} (h : index < n) :
    ((mode.plan n).filter (·.1 == index)).map Prod.snd = mode.hooks := by
  have hround : ∀ hook : Hook, ((List.range n).map fun i => (i, hook)).filter (·.1 == index) =
      [(index, hook)] := by
    intro hook
    have hrange : (List.range n).filter (· == index) = [index] := by
      rw [List.filter_beq, List.count_eq_one_of_mem List.nodup_range (List.mem_range.mpr h)]
      rfl
    rw [List.filter_map]
    change ((List.range n).filter (· == index)).map (fun i => (i, hook)) = _
    rw [hrange, List.map_singleton]
  unfold Mode.plan
  rw [List.filter_flatMap, List.map_flatMap]
  simp only [hround, List.map_singleton, List.flatMap_singleton']

namespace Lifecycle

theorem filterMap_slot?_calls (n : Nat) (hook : Hook) :
    (Step.calls n hook).filterMap Step.slot? = (List.range n).map fun index => (index, hook) := by
  rw [Step.calls, List.filterMap_map]
  change (List.range n).filterMap (some ∘ fun index => (index, hook)) = _
  rw [List.filterMap_eq_map]

theorem filterMap_slot?_steps (l : Lifecycle) (names : List String) :
    (l.steps names).filterMap Step.slot? = l.mode.plan names.length := by
  have hround := filterMap_slot?_calls names.length
  unfold steps Mode.plan
  cases l.mode with
  | preseed =>
      simp [modeHook, Mode.hooks, List.filterMap_cons, List.filterMap_append, hround, Step.slot?]
  | script phase =>
      cases phase <;>
        simp [modeHook, Mode.hooks, List.filterMap_cons, List.filterMap_append, hround, Step.slot?]
  | unknownScript raw =>
      simp [modeHook, Mode.hooks, List.filterMap_cons, List.filterMap_append, hround, Step.slot?]

/-- What a run does, in order. -/
def transcript (l : Lifecycle) (plugins : List (LoadedPlugin σ)) (out : Output) :
    List (Event σ) :=
  Run.transcript { plugins, output := out } (l.steps (plugins.map (·.name)))

/-- The calls that a run makes. -/
def made (l : Lifecycle) (plugins : List (LoadedPlugin σ)) (out : Output) : List (Call σ) :=
  (l.transcript plugins out).filterMap Event.call?

theorem replays_run (l : Lifecycle) (plugins : List (LoadedPlugin σ)) (out : Output) :
    Replays plugins out (l.transcript plugins out) (l.run plugins out).plugins
      (l.run plugins out).output := by
  rw [run_eq_foldl]
  exact Run.replays_transcript { plugins, output := out } _

theorem carriedOut_run (l : Lifecycle) (plugins : List (LoadedPlugin σ)) (out : Output) :
    CarriedOut (l.mode.plan plugins.length) (l.made plugins out) (l.run plugins out).failure := by
  have hslots := filterMap_slot?_steps l (plugins.map (·.name))
  rw [List.length_map] at hslots
  rw [run_eq_foldl, ← hslots]
  refine Run.carriedOut_made rfl ?_
  rw [hslots]
  intro slot hslot
  obtain ⟨hook, -, hslot⟩ := List.mem_flatMap.mp hslot
  obtain ⟨index, hindex, rfl⟩ := List.mem_map.mp hslot
  exact List.mem_range.mp hindex

/-- A run calls each hook of its mode on every plugin in order, one hook after another, and ends right
after the first call that fails, with a failure that names this call and carries its cause. -/
theorem run_follows_plan (l : Lifecycle) (plugins : List (LoadedPlugin σ)) (out : Output) :
    let r := l.run plugins out
    let made := l.made plugins out
    let plan := l.mode.plan plugins.length
    Replays plugins out (l.transcript plugins out) r.plugins r.output ∧
      r.calls = made.map (fun c => (c.name, c.hook)) ∧
      made.map Call.slot <+: plan ∧
      ((∀ c ∈ made, c.reply.failure = none) →
        r.failure = none ∧ made.map Call.slot = plan ∧
          ∀ index < plugins.length,
            (made.filter (·.index == index)).map (·.hook) = l.mode.hooks) ∧
      ∀ before c after e, made = before ++ c :: after → c.reply.failure = some e →
        after = [] ∧ r.failure = some (.hook c.name c.hook e) := by
  intro r made plan
  have hcarried : CarriedOut plan made r.failure := carriedOut_run l plugins out
  refine ⟨replays_run l plugins out, ?_, hcarried.order, ?_, ?_⟩
  · change (l.run plugins out).calls = _
    rw [run_eq_foldl, Run.calls_foldl]
    rfl
  · intro hmade
    obtain ⟨hfailure, hplan⟩ := hcarried.complete hmade
    refine ⟨hfailure, hplan, ?_⟩
    intro index hindex
    change made.map Call.slot = l.mode.plan plugins.length at hplan
    rw [← Mode.plan_filter l.mode hindex, ← hplan, List.filter_map, List.map_map]
    rfl
  · intro before c after e hsplit hc
    exact hcarried.cut hsplit hc

/-- The script of the early phase for three plugins: either no call fails, or the second plugin does in the
hook of the phase and the third is not called in it. -/
theorem run_follows_plan_of_early_script :
    let l : Lifecycle :=
      { mode := .script .early, client := (Client.builder (.v4 ⟨10, 0, 0, 5⟩)).build
        link := .ofUrl { scheme := "http", host := some (.name "install.lab.example")
                         path := .segments ["preseed"] } }
    let recorder (name : String) (failure : Hook → Option PluginError) : LoadedPlugin Nat :=
      { name, kind := "Recorder"
        plugin :=
          { state := 0
            call := fun hook _ n => { state := n + 1, failure := failure hook } } }
    let boom (hook : Hook) : Option PluginError :=
      if hook = .scriptEarly then some (.execution "boom") else none
    let sound := ["Alpha", "Beta", "Gamma"].map (recorder · fun _ => none)
    let broken := [recorder "Alpha" fun _ => none, recorder "Beta" boom, recorder "Gamma" fun _ => none]
    (∀ c ∈ l.made sound {}, c.reply.failure = none) ∧
      (l.run sound {}).failure = none ∧
      (l.made sound {}).map Call.slot =
        [(0, .setUp), (1, .setUp), (2, .setUp), (0, .scriptEarly), (1, .scriptEarly), (2, .scriptEarly),
          (0, .tearDown), (1, .tearDown), (2, .tearDown)] ∧
      (l.made broken {}).map Call.slot =
        [(0, .setUp), (1, .setUp), (2, .setUp), (0, .scriptEarly), (1, .scriptEarly)] ∧
      (l.run broken {}).failure = some (.hook "Beta" .scriptEarly (.execution "boom")) := by
  intro l recorder boom sound broken
  have hsound : ∀ c ∈ l.made sound {}, c.reply.failure = none := by decide +kernel
  obtain ⟨-, -, -, hcomplete, -⟩ := run_follows_plan l sound {}
  obtain ⟨hfailure, hplan, -⟩ := hcomplete hsound
  obtain ⟨-, -, -, -, hcut⟩ := run_follows_plan l broken {}
  have hslots : (l.made broken {}).map Call.slot =
      [(0, .setUp), (1, .setUp), (2, .setUp), (0, .scriptEarly), (1, .scriptEarly)] := by
    decide +kernel
  have hlast : ((l.made broken {}).drop 4).map (fun c => (c.name, c.hook, c.reply.failure)) =
      [("Beta", .scriptEarly, some (.execution "boom"))] := by
    decide +kernel
  obtain ⟨c, hdrop, hc⟩ := List.map_eq_singleton_iff.mp hlast
  have hsplit : l.made broken {} = (l.made broken {}).take 4 ++ [c] := by
    rw [← hdrop, List.take_append_drop]
  obtain ⟨hname, hhook, hreply⟩ : c.name = "Beta" ∧ c.hook = .scriptEarly ∧
      c.reply.failure = some (.execution "boom") := by
    simpa using hc
  refine ⟨hsound, hfailure, hplan.trans (by decide), hslots, ?_⟩
  rw [(hcut _ c [] _ hsplit hreply).2, hname, hhook]

end Lifecycle

end Preseed
