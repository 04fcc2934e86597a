import Preseed.Proofs.Lifecycle.Steps
import Preseed.Proofs.Plugin.Loading
import Preseed.Proofs.Plugin.Repetition

/-! # Plugins that leave the session open

Plugins share the session of the request that they are made for, and could close it. The built-in kinds do
not. What is loaded and run with such kinds only never closes a session. -/

namespace Preseed

variable {σ : Type}

/-- No call of a hook closes the session, whatever state the plugin is in. -/
def Plugin.LeavesSession (p : Plugin σ) : Prop :=
  ∀ hook out state, (p.call hook out state).closes = 0

/-- The session is not closed while plugins are made, nor by any plugin that is made. -/
structure Factory.LeavesSession (factory : Factory σ) : Prop where
  closes_eq : ∀ init, factory.closes init = 0
  plugin : ∀ init p, factory init = .ok p → p.LeavesSession

/-- No kind of plugins closes the session. -/
def Registry.LeavesSession (registry : Registry σ) : Prop :=
  ∀ r ∈ registry.registrations, r.factory.LeavesSession

/-! ## Kinds -/

theorem Builtin.leavesSession (b : Builtin) (session : Session) (client : Client) :
    (b.plugin session client).LeavesSession := by
  intro hook out state
  cases b with
  | directives settings => rfl
  | netcfg settings => rfl
  | ldapDirectives settings =>
      cases hook with
      | setUp =>
          simp only [plugin, LdapDirectives.plugin, LdapDirectives.call]
          split <;> rfl
      | preseed | scriptEarly | scriptLate | tearDown => rfl

namespace Registry

theorem leavesSession_builtin : builtin.LeavesSession := by
  intro r hr
  refine ⟨fun init => ?_, fun init p hp => ?_⟩
  · rw [Builtin.registrations_builtin] at hr
    simp only [List.mem_cons, List.not_mem_nil, or_false] at hr
    rcases hr with rfl | rfl | rfl <;> rfl
  · obtain ⟨b, hb⟩ := Builtin.exists_of_mem_builtin hr hp
    obtain rfl := Except.ok.inj (hp.symm.trans (hb init.client))
    exact b.leavesSession init.session init.client

theorem LeavesSession.register {registry : Registry σ} (h : registry.LeavesSession) (kind : String)
    {factory : Factory σ} (hfactory : factory.LeavesSession) :
    (registry.register kind factory).LeavesSession := by
  intro r hr
  rcases Registration.eq_or_mem_of_mem_insert hr with rfl | hr
  · exact hfactory
  · exact h r hr

end Registry

/-! ## Loading -/

theorem Loading.closes_eq_zero {loading : Loading σ} (h : ∀ call ∈ loading.calls, call.closes = 0) :
    loading.closes = 0 := by
  rw [closes]
  revert h
  induction loading.calls with
  | nil => exact fun _ => rfl
  | cons call calls ih =>
      intro h
      obtain ⟨hcall, hcalls⟩ := List.forall_mem_cons.mp h
      rw [List.foldr_cons, hcall, ih hcalls]

namespace PluginSource

variable {registry : Registry σ} {files : FileTree} {session : Session} {client : Client}

theorem leavesSession_of_live? (h : registry.LeavesSession) {d : Descriptor} {live : Live σ}
    (hlive : live? registry files d = some live) : live.factory.LeavesSession := by
  unfold live? at hlive
  split at hlive
  · cases hlive
  · obtain ⟨kind, -, hlive⟩ := Option.bind_eq_some_iff.mp hlive
    obtain ⟨r, hr, rfl⟩ := Option.map_eq_some_iff.mp hlive
    exact h r (List.mem_of_find?_eq_some hr)

/-- Neither the calls of factories nor the plugins that come of them close the session. -/
theorem Loads.leavesSession (h : registry.LeavesSession) {ds : List Descriptor}
    {calls : List (FactoryCall σ)} {result : Except PluginError (List (LoadedPlugin σ))}
    (hloads : Loads registry files session client ds calls result) :
    (∀ call ∈ calls, call.closes = 0) ∧
      ∀ plugins, result = .ok plugins → ∀ p ∈ plugins, p.plugin.LeavesSession := by
  induction hloads with
  | nil => simp
  | skipped _ _ ih => exact ih
  | @made d live plugin ds calls result hlive hplugin _ ih =>
      have hfactory := leavesSession_of_live? h hlive
      refine ⟨List.forall_mem_cons.mpr ⟨hfactory.closes_eq _, ih.1⟩, fun plugins hresult => ?_⟩
      cases result with
      | error e => cases hresult
      | ok rest =>
          obtain rfl := Except.ok.inj hresult
          exact List.forall_mem_cons.mpr ⟨hfactory.plugin _ _ hplugin, ih.2 rest rfl⟩
  | refused ds hlive herror =>
      refine ⟨?_, fun plugins hresult => by cases hresult⟩
      rw [List.forall_mem_singleton]
      exact (leavesSession_of_live? h hlive).closes_eq _

/-- Loading closes no session, nor will the plugins that are loaded. -/
theorem load_leavesSession (h : registry.LeavesSession) (source : PluginSource) (files : FileTree)
    (filter : Option String) (session : Session) (client : Client) :
    let loading := source.load registry files filter session client
    loading.closes = 0 ∧
      ∀ plugins, loading.result = .ok plugins → ∀ p ∈ plugins, p.plugin.LeavesSession := by
  intro loading
  cases hfound : source.discover files filter with
  | error e =>
      have hloading : loading = .failed e := by
        simp only [loading, load, hfound]
      rw [hloading]
      exact ⟨rfl, fun plugins hresult => by cases hresult⟩
  | ok found =>
      have hloading : loading = instantiateAll registry files session client found := by
        simp only [loading, load, hfound]
      rw [hloading]
      obtain ⟨hcalls, hplugins⟩ := (loads_instantiateAll found).leavesSession h
      exact ⟨Loading.closes_eq_zero hcalls, hplugins⟩

end PluginSource

/-! ## Runs -/

namespace Run

/-- A step of plugins that leave the session open closes none, and the plugins go on like that. -/
theorem leavesSession_step {r : Run σ} (h : ∀ p ∈ r.plugins, p.plugin.LeavesSession) (s : Step) :
    (r.step s).closes = r.closes ∧ ∀ p ∈ (r.step s).plugins, p.plugin.LeavesSession := by
  cases hfailure : r.failure with
  | some e =>
      rw [step_of_failure hfailure]
      exact ⟨rfl, h⟩
  | none =>
      cases s with
      | write lines =>
          rw [step_write hfailure]
          exact ⟨rfl, h⟩
      | call index hook =>
          cases hp : r.plugins[index]? with
          | none =>
              rw [step_call_of_none hp]
              exact ⟨rfl, h⟩
          | some p =>
              have hleaves := h p (List.mem_of_getElem? hp)
              rw [step_call hfailure hp]
              refine ⟨?_, fun q hq => ?_⟩
              · rw [reply, hleaves, Nat.add_zero]
              · rcases List.mem_or_eq_of_mem_set hq with hq | rfl
                · exact h q hq
                · exact hleaves

theorem closes_foldl_step {r : Run σ} (h : ∀ p ∈ r.plugins, p.plugin.LeavesSession)
    (steps : List Step) : (steps.foldl step r).closes = r.closes := by
  induction steps generalizing r with
  | nil => rfl
  | cons s steps ih =>
      obtain ⟨hcloses, hplugins⟩ := leavesSession_step h s
      rw [List.foldl_cons, ih hplugins, hcloses]

end Run

theorem Lifecycle.closes_run (l : Lifecycle) {plugins : List (LoadedPlugin σ)}
    (h : ∀ p ∈ plugins, p.plugin.LeavesSession) (out : Output) : (l.run plugins out).closes = 0 := by
  rw [run_eq_foldl, Run.closes_foldl_step h]

end Preseed
