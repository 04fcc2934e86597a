import Preseed.Plugin.Load

/-! # The factories that loading calls

Loading goes through the definitions in order and calls one factory for each that names a registered kind,
up to the first factory that refuses. It keeps every call that it makes. -/

namespace Preseed

variable {σ : Type}

/-- A definition that names a registered kind. -/
structure Live (σ : Type) where
  name : String
  /-- The kind as the definition writes it. -/
  kind : String
  settings : Yaml.Value
  factory : Factory σ

namespace Live

/-- What the definition's plugin is made from. -/
def init (live : Live σ) (session : Session) (client : Client) : PluginInit :=
  { name := live.name, settings := live.settings, session, client }

def call (live : Live σ) (session : Session) (client : Client) : FactoryCall σ :=
  { factory := live.factory, init := live.init session client }

/-- The definition's plugin as it is loaded. -/
def load (live : Live σ) (plugin : Plugin σ) : LoadedPlugin σ :=
  { name := live.name, kind := live.kind, plugin }

end Live

namespace Loading

theorem make_of_ok {call : FactoryCall σ} {plugin : Plugin σ} (h : call.result = .ok plugin)
    (next : Plugin σ → Loading σ) :
    make call next = { next plugin with calls := call :: (next plugin).calls } := by
  simp [make, h]

theorem make_of_error {call : FactoryCall σ} {e : PluginError} (h : call.result = .error e)
    (next : Plugin σ → Loading σ) : make call next = { calls := [call], result := .error e } := by
  simp [make, h]

end Loading

namespace PluginSource

variable (registry : Registry σ) (files : FileTree) (session : Session) (client : Client)

/-- What a file defines, if it is a definition that names a registered kind. -/
def live? (d : Descriptor) : Option (Live σ) :=
  match Definition.read files d.path with
  | .error _ => none
  | .ok definition =>
    definition.kind.bind fun kind => (registry.find? kind).map fun r =>
      { name := d.name, kind, settings := definition.settings, factory := r.factory }

theorem call?_eq (d : Descriptor) :
    call? registry files session client d =
      (live? registry files d).map fun live => (live.kind, live.call session client) := by
  unfold call? live?
  cases Definition.read files d.path with
  | error e => rfl
  | ok definition =>
      dsimp only
      cases definition.kind with
      | none => rfl
      | some kind =>
          simp only [Option.bind_eq_bind, Option.bind_some, Registry.call?]
          cases registry.find? kind <;> rfl

theorem name_eq_of_live? {registry : Registry σ} {files : FileTree} {d : Descriptor} {live : Live σ}
    (h : live? registry files d = some live) : live.name = d.name := by
  unfold live? at h
  split at h
  · cases h
  · obtain ⟨kind, -, h⟩ := Option.bind_eq_some_iff.mp h
    obtain ⟨r, -, rfl⟩ := Option.map_eq_some_iff.mp h
    rfl

theorem instantiateAll_of_none {d : Descriptor} (h : live? registry files d = none)
    (ds : List Descriptor) :
    instantiateAll registry files session client (d :: ds) =
      instantiateAll registry files session client ds := by
  rw [instantiateAll, call?_eq, h]
  rfl

theorem instantiateAll_of_some {d : Descriptor} {live : Live σ}
    (h : live? registry files d = some live) (ds : List Descriptor) :
    instantiateAll registry files session client (d :: ds) =
      .make (live.call session client) fun plugin =>
        (instantiateAll registry files session client ds).cons (live.load plugin) := by
  rw [instantiateAll, call?_eq, h, ← name_eq_of_live? h]
  rfl

/-- The rules of loading: which factories are called for definitions, and what comes of it. -/
inductive Loads : List Descriptor → List (FactoryCall σ) →
    Except PluginError (List (LoadedPlugin σ)) → Prop where
  | nil : Loads [] [] (.ok [])
  | skipped {d ds calls result} (hlive : live? registry files d = none) :
      Loads ds calls result → Loads (d :: ds) calls result
  | made {d live plugin ds calls result} (hlive : live? registry files d = some live)
      (hplugin : live.factory (live.init session client) = .ok plugin) :
      Loads ds calls result →
      Loads (d :: ds) (live.call session client :: calls) (result.map (live.load plugin :: ·))
  | refused {d live e} (ds) (hlive : live? registry files d = some live)
      (herror : live.factory (live.init session client) = .error e) :
      Loads (d :: ds) [live.call session client] (.error e)

variable {registry files session client}

theorem loads_instantiateAll (ds : List Descriptor) :
    Loads registry files session client ds (instantiateAll registry files session client ds).calls
      (instantiateAll registry files session client ds).result := by
  induction ds with
  | nil => exact .nil
  | cons d ds ih =>
      cases hlive : live? registry files d with
      | none =>
          rw [instantiateAll_of_none _ _ _ _ hlive]
          exact .skipped hlive ih
      | some live =>
          rw [instantiateAll_of_some _ _ _ _ hlive]
          cases hplugin : (live.call session client).result with
          | error e =>
              rw [Loading.make_of_error hplugin]
              exact .refused ds hlive hplugin
          | ok plugin =>
              rw [Loading.make_of_ok hplugin]
              exact .made hlive hplugin ih

/-- Whatever is called is called for a definition, with the one client, within the one session. -/
theorem Loads.exists_eq_call {ds : List Descriptor} {calls : List (FactoryCall σ)}
    {result : Except PluginError (List (LoadedPlugin σ))}
    (h : Loads registry files session client ds calls result) :
    ∀ call ∈ calls, ∃ live : Live σ, call = live.call session client := by
  induction h with
  | nil => simp
  | skipped _ _ ih => exact ih
  | made _ _ _ ih => exact List.forall_mem_cons.mpr ⟨⟨_, rfl⟩, ih⟩
  | refused => exact List.forall_mem_cons.mpr ⟨⟨_, rfl⟩, by simp⟩

end PluginSource

end Preseed
