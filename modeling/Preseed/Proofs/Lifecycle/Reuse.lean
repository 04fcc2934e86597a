import Mathlib.Data.List.Forall2
import Preseed.Proofs.Lifecycle.Steps
import Preseed.Proofs.Plugin.Repetition

/-! # Runs of the same plugins

Plugins keep their states from one run to the next. Every run begins with the set-up of every plugin, so a
plugin whose set-up does not heed its state shows nothing of earlier runs, be they complete or not. -/

namespace Preseed

variable {σ : Type}

/-! ## Plugins in use -/

namespace LoadedPlugin

/-- A plugin, and what calls may have made of it. -/
inductive Used (p : LoadedPlugin σ) : LoadedPlugin σ → Prop where
  | fresh : Used p p
  | called {q} (hook : Hook) (out : Output) : Used p q →
      Used p (Run.after q (q.plugin.call hook out q.plugin.state))

/-- A plugin with another state. -/
def withState (p : LoadedPlugin σ) (s : σ) : LoadedPlugin σ :=
  { p with plugin := { p.plugin with state := s } }

/-- Calls change nothing but the state. -/
theorem Used.eq_withState {p q : LoadedPlugin σ} (h : p.Used q) : q = p.withState q.plugin.state := by
  induction h with
  | fresh => rfl
  | called hook out _ ih =>
      rw [ih]
      rfl

theorem Used.name_eq {p q : LoadedPlugin σ} (h : p.Used q) : q.name = p.name := by
  rw [h.eq_withState]
  rfl

theorem map_name_of_used {ps qs : List (LoadedPlugin σ)} (h : List.Forall₂ Used ps qs) :
    qs.map (·.name) = ps.map (·.name) := by
  induction h with
  | nil => rfl
  | cons hused _ ih => rw [List.map_cons, List.map_cons, hused.name_eq, ih]

/-- Calls that leave the state alone leave the plugin as it is. -/
theorem Used.eq_of_stateless {p q : LoadedPlugin σ}
    (hp : ∀ hook out s, (p.plugin.call hook out s).state = s) (h : p.Used q) : q = p := by
  induction h with
  | fresh => rfl
  | called hook out _ ih =>
      rw [ih, Run.after, hp]

/-- What a plugin answers in its set-up. -/
def setUp (p : LoadedPlugin σ) (out : Output) : Reply σ :=
  p.plugin.call .setUp out p.plugin.state

/-- In its set-up the plugin in use does what it did when it was new, and is then as if it were new; a set-up
that fails may leave it in another state. -/
def StartsAfresh (p : LoadedPlugin σ) : Prop :=
  ∀ q, p.Used q → ∀ out,
    (q.setUp out).lines = (p.setUp out).lines ∧
    (q.setUp out).failure = (p.setUp out).failure ∧
    (q.setUp out).closes = (p.setUp out).closes ∧
    ((p.setUp out).failure = none → Run.after q (q.setUp out) = Run.after p (p.setUp out))

end LoadedPlugin

namespace Run

theorem forall₂_used_callEach {ps qs : List (LoadedPlugin σ)}
    (h : List.Forall₂ LoadedPlugin.Used ps qs) (hook : Hook) (out : Output) :
    List.Forall₂ LoadedPlugin.Used ps (callEach hook out qs).plugins := by
  induction h generalizing out with
  | nil => exact .nil
  | @cons p q ps qs hused hrest ih =>
      have hcalled := hused.called hook out
      rw [callEach]
      cases (q.plugin.call hook out q.plugin.state).failure with
      | some e => exact .cons hcalled hrest
      | none => exact .cons hcalled (ih _)

theorem forall₂_used_call {ps : List (LoadedPlugin σ)} {r : Run σ}
    (h : List.Forall₂ LoadedPlugin.Used ps r.plugins) (hook : Hook) :
    List.Forall₂ LoadedPlugin.Used ps (r.call hook).plugins := by
  unfold call
  cases r.failure with
  | some e => exact h
  | none => exact forall₂_used_callEach h hook r.output

@[simp] theorem plugins_write (r : Run σ) (f : Output → Output) : (r.write f).plugins = r.plugins := by
  unfold write
  cases r.failure <;> rfl

end Run

/-- A run leaves the plugins in use. -/
theorem Lifecycle.forall₂_used_run (l : Lifecycle) {ps qs : List (LoadedPlugin σ)}
    (h : List.Forall₂ LoadedPlugin.Used ps qs) (out : Output) :
    List.Forall₂ LoadedPlugin.Used ps (l.run qs out).plugins := by
  have hbody : ∀ r : Run σ, List.Forall₂ LoadedPlugin.Used ps r.plugins →
      List.Forall₂ LoadedPlugin.Used ps (l.body r).plugins := by
    intro r hr
    unfold body
    cases l.mode with
    | preseed => exact Run.forall₂_used_call (by rwa [Run.plugins_write]) .preseed
    | script phase =>
        rw [Run.plugins_write]
        exact Run.forall₂_used_call (by rwa [Run.plugins_write]) (Hook.ofPhase phase)
    | unknownScript raw => rwa [Run.plugins_write]
  unfold run
  dsimp only
  rw [Run.plugins_write]
  refine Run.forall₂_used_call ?_ .tearDown
  rw [Run.plugins_write]
  exact hbody _ (Run.forall₂_used_call h .setUp)

/-! ## The set-up -/

namespace Run

/-- Two runs are the same, or have ended with the same failure and the same output. -/
inductive Alike (a : Run σ) : Run σ → Prop where
  | same : Alike a a
  | ended {b : Run σ} {e : PluginError} (ha : a.failure = some e) (hb : b.failure = some e)
      (output : a.output = b.output) : Alike a b

theorem Alike.failure_eq {a b : Run σ} (h : Alike a b) : a.failure = b.failure := by
  cases h with
  | same => rfl
  | ended ha hb _ => rw [ha, hb]

theorem Alike.output_eq {a b : Run σ} (h : Alike a b) : a.output = b.output := by
  cases h with
  | same => rfl
  | ended _ _ output => exact output

theorem Alike.foldl_step {a b : Run σ} (h : Alike a b) (steps : List Step) :
    Alike (steps.foldl step a) (steps.foldl step b) := by
  cases h with
  | same => exact .same
  | ended ha hb output =>
      rw [foldl_step_of_failure ha, foldl_step_of_failure hb]
      exact .ended ha hb output

/-- A run with one more call in front. -/
def behind (r : Run σ) (p : LoadedPlugin σ) (call : String × Hook) (closes : Nat) : Run σ :=
  { r with plugins := p :: r.plugins, calls := call :: r.calls, closes := closes + r.closes }

theorem Alike.behind {a b : Run σ} (h : Alike a b) (p : LoadedPlugin σ) (call : String × Hook)
    (closes : Nat) : Alike (a.behind p call closes) (b.behind p call closes) := by
  cases h with
  | same => exact .same
  | ended ha hb output => exact .ended ha hb output

theorem callEach_setUp_cons (p : LoadedPlugin σ) (rest : List (LoadedPlugin σ)) (out : Output) :
    callEach .setUp out (p :: rest) =
      match (p.setUp out).failure with
      | some e =>
        { plugins := after p (p.setUp out) :: rest, output := out.append (p.setUp out).lines
          calls := [(p.name, .setUp)], closes := (p.setUp out).closes
          failure := some (.hook p.name .setUp e) }
      | none =>
        (callEach .setUp (out.append (p.setUp out).lines) rest).behind (after p (p.setUp out))
          (p.name, .setUp) (p.setUp out).closes :=
  rfl

/-- The set-ups of plugins in use end like those of the new ones. -/
theorem alike_callEach_setUp {ps qs : List (LoadedPlugin σ)}
    (h : List.Forall₂ LoadedPlugin.Used ps qs) (hps : ∀ p ∈ ps, p.StartsAfresh) (out : Output) :
    Alike (callEach .setUp out qs) (callEach .setUp out ps) := by
  induction h generalizing out with
  | nil => exact .same
  | @cons p q ps qs hused _ ih =>
      obtain ⟨hlines, hfailure, hcloses, hafter⟩ := hps p (by simp) q hused out
      rw [callEach_setUp_cons, callEach_setUp_cons, hlines, hfailure, hcloses, hused.name_eq]
      cases hp : (p.setUp out).failure with
      | some e => exact .ended rfl rfl rfl
      | none =>
          dsimp only
          rw [hafter hp]
          exact (ih (fun p hmem => hps p (List.mem_cons_of_mem _ hmem)) _).behind _ _ _

end Run

namespace Lifecycle

/-- The steps of a run of `n` plugins behind its set-up. -/
def laterSteps (l : Lifecycle) (n : Nat) : List Step :=
  .write l.middleLines :: (modeHook l.mode).toList.flatMap (Step.calls n) ++
    .write l.closingLines :: Step.calls n .tearDown ++ [.write trailerLines]

theorem run_eq_foldl_setUp (l : Lifecycle) (plugins : List (LoadedPlugin σ)) (out : Output) :
    l.run plugins out = (l.laterSteps plugins.length).foldl Run.step
      (Run.callEach .setUp (out.append (l.headLines (plugins.map (·.name)))) plugins) := by
  have hsteps : l.steps (plugins.map (·.name)) =
      .write (l.headLines (plugins.map (·.name))) :: (Step.calls plugins.length .setUp ++
        l.laterSteps plugins.length) := by
    simp [steps, laterSteps]
  have hhead : Run.step { plugins, output := out } (.write (l.headLines (plugins.map (·.name)))) =
      { plugins, output := out.append (l.headLines (plugins.map (·.name))) } := rfl
  have hcall := Run.call_eq_foldl
    ({ plugins, output := out.append (l.headLines (plugins.map (·.name))) } : Run σ) .setUp
  rw [run_eq_foldl, hsteps, List.foldl_cons, hhead, List.foldl_append, ← hcall]
  simp [Run.call]

/-- A run of plugins in use ends like a run of the new ones. -/
theorem alike_run (l : Lifecycle) {ps qs : List (LoadedPlugin σ)}
    (h : List.Forall₂ LoadedPlugin.Used ps qs) (hps : ∀ p ∈ ps, p.StartsAfresh) (out : Output) :
    (l.run qs out).Alike (l.run ps out) := by
  rw [run_eq_foldl_setUp, run_eq_foldl_setUp, LoadedPlugin.map_name_of_used h, h.length_eq]
  exact (Run.alike_callEach_setUp h hps _).foldl_step _

end Lifecycle

/-! ## The built-in kinds -/

namespace LoadedPlugin

theorem startsAfresh_of_stateless {p : LoadedPlugin σ}
    (hp : ∀ hook out s, (p.plugin.call hook out s).state = s) : p.StartsAfresh := by
  intro q hused out
  rw [hused.eq_of_stateless hp]
  exact ⟨rfl, rfl, rfl, fun _ => rfl⟩

/-- The look-up replaces what an earlier one found. -/
theorem startsAfresh_ldapDirectives (name kind : String) (settings : LdapDirectives.Settings)
    (session : Session) (client : Client) :
    StartsAfresh ⟨name, kind, LdapDirectives.plugin settings session client⟩ := by
  intro q hused out
  rw [hused.eq_withState]
  generalize q.plugin.state = found
  simp only [setUp, withState, LdapDirectives.plugin, LdapDirectives.call]
  cases LdapDirectives.collect settings session client.classes with
  | ok entries => exact ⟨rfl, rfl, rfl, fun _ => rfl⟩
  | error e => exact ⟨rfl, rfl, rfl, fun h => absurd h (Option.some_ne_none _)⟩

theorem startsAfresh_of_create? {kind : String} {init : PluginInit} {p : LoadedPlugin (List Entry)}
    (h : Registry.builtin.create? kind init = some (.ok p.plugin)) : p.StartsAfresh := by
  obtain ⟨b, hb⟩ := Builtin.exists_of_create? h
  have hplugin : p.plugin = b.plugin init.session init.client :=
    Except.ok.inj (Option.some.inj (h.symm.trans (hb init.client)))
  obtain ⟨name, kind, plugin⟩ := p
  obtain rfl := hplugin
  cases b with
  | directives settings => exact startsAfresh_of_stateless fun _ _ _ => rfl
  | netcfg settings => exact startsAfresh_of_stateless fun _ _ _ => rfl
  | ldapDirectives settings =>
      exact startsAfresh_ldapDirectives name kind settings init.session init.client

end LoadedPlugin

/-! ## Runs in a row -/

/-- What is seen of a run: its failure, if it has one, and the text that it wrote. -/
def Run.result (r : Run σ) : Option PluginError × String :=
  (r.failure, r.output.render)

theorem Run.Alike.result_eq {a b : Run σ} (h : Alike a b) : a.result = b.result := by
  rw [Run.result, Run.result, h.failure_eq, h.output_eq]

namespace Lifecycle

/-- The results of runs of the same plugins one after the other, each with an output of its own. -/
def results (plugins : List (LoadedPlugin σ)) : List Lifecycle → List (Option PluginError × String)
  | [] => []
  | l :: ls => (l.run plugins {}).result :: results (l.run plugins {}).plugins ls

theorem results_of_used {ps qs : List (LoadedPlugin σ)} (h : List.Forall₂ LoadedPlugin.Used ps qs)
    (hps : ∀ p ∈ ps, p.StartsAfresh) (ls : List Lifecycle) :
    results qs ls = ls.map fun l => (l.run ps {}).result := by
  induction ls generalizing qs with
  | nil => rfl
  | cons l ls ih =>
      rw [results, List.map_cons, (l.alike_run h hps {}).result_eq, ih (l.forall₂_used_run h {})]

/-- Plugins of built-in kinds show nothing of the runs before, whichever these were and however they ended:
every run has the result that it has with the plugins as they were made. So a run that is repeated with the
same plugins ends and writes the same each time. The plugins may have sessions of their own; a session
answers the same search alike each time, by failing if need be. -/
theorem results_of_builtin {plugins : List (LoadedPlugin (List Entry))}
    (h : ∀ p ∈ plugins, ∃ kind init, Registry.builtin.create? kind init = some (.ok p.plugin)) :
    (∀ ls : List Lifecycle, results plugins ls = ls.map fun l => (l.run plugins {}).result) ∧
    ∀ (l : Lifecycle) (n : Nat),
      results plugins (List.replicate n l) = List.replicate n (l.run plugins {}).result := by
  have hfresh : ∀ p ∈ plugins, p.StartsAfresh := by
    intro p hp
    obtain ⟨kind, init, hmade⟩ := h p hp
    exact LoadedPlugin.startsAfresh_of_create? hmade
  have hused : List.Forall₂ LoadedPlugin.Used plugins plugins :=
    List.forall₂_same.mpr fun p _ => .fresh
  have hresults := results_of_used hused hfresh
  refine ⟨hresults, fun l n => ?_⟩
  rw [hresults, List.map_replicate]

/-- Every run is aborted in the set-up of the second plugin, when the first one has found its entries. -/
theorem results_of_builtin_of_aborted :
    let client := (Client.builder (.v4 ⟨10, 0, 0, 5⟩)).build
    let init (name : String) (d : Directory) : PluginInit :=
      { name, settings := .mapping [(.text "base_dn", .text "o=lab")], session := d.session, client }
    let full : Directory := .ofEntries [
      { dn := "cn=default,o=lab"
        attributes := [("cn", ["default"]), ("objectClass", ["preseedClass"]),
          ("preseedDirective", ["d-i mirror/country string manual"])] }]
    let p (name : String) (d : Directory) : LoadedPlugin (List Entry) :=
      ⟨name, "LdapDirectives", LdapDirectives.plugin { baseDn := some "o=lab" } d.session client⟩
    let plugins := [p "Full" full, p "Busy" (.failingSearch "busy")]
    let base : Url :=
      { scheme := "http", host := some (.name "install.lab.example"), path := .segments ["preseed"] }
    let l : Lifecycle := { mode := .preseed, client, link := .ofUrl base }
    Registry.builtin.create? "LdapDirectives" (init "Full" full) = some (.ok (p "Full" full).plugin) ∧
      (l.run plugins {}).failure = some (.hook "Busy" .setUp (.directory (.search "busy"))) ∧
      (l.run plugins {}).plugins.map (·.plugin.state) = [full.entries, []] ∧
      results plugins [l, l, l] = List.replicate 3 (l.run plugins {}).result := by
  intro client init full p plugins base l
  have hfull : Registry.builtin.create? "LdapDirectives" (init "Full" full) =
      some (.ok (p "Full" full).plugin) := by rfl
  have hbusy : Registry.builtin.create? "LdapDirectives" (init "Busy" (.failingSearch "busy")) =
      some (.ok (p "Busy" (.failingSearch "busy")).plugin) := by rfl
  refine ⟨hfull, by decide +kernel, by decide +kernel, ?_⟩
  refine (results_of_builtin ?_).2 l 3
  intro q hq
  rcases List.mem_pair.mp hq with rfl | rfl
  · exact ⟨_, _, hfull⟩
  · exact ⟨_, _, hbusy⟩

end Lifecycle

end Preseed
