import Mathlib.Data.List.Induction
import Preseed.Proofs.Client.Query

/-! # Building a client step by step

The steps of a builder may come in any order and any number. Classes add up. Of every other fact the last
step that gives it counts, and what follows from the reverse name follows from nothing else. -/

namespace Preseed.Client.Builder

/-! ## Steps and runs -/

inductive Step where
  | reverseName (name : Option String)
  | hardwareAddress (address : Option String)
  | params (params : Params)
  | classes (classes : List String)

namespace Step

/-- What the look-up of the address answered. -/
def lookup? : Step → Option (Option String)
  | .reverseName name => some name
  | _ => none

def hardware? : Step → Option (Option String)
  | .hardwareAddress address => some address
  | _ => none

/-- What applied parameters give. -/
def given? {α : Type} (field : Params → Option α) : Step → Option α
  | .params p => field p
  | _ => none

/-- The classes that a step adds; the node of parameters comes after their classes. -/
def addedClasses : Step → List String
  | .params p => p.classes ++ p.node.toList
  | .classes names => names
  | _ => []

end Step

def step (b : Builder) : Step → Builder
  | .reverseName name => b.withReverseName name
  | .hardwareAddress address => b.withHardwareAddress address
  | .params params => b.applyParams params
  | .classes classes => b.extendClasses classes

def run (ip : Net.Address) (steps : List Step) : Builder :=
  steps.foldl step (builder ip)

theorem run_concat (ip : Net.Address) (steps : List Step) (s : Step) :
    run ip (steps ++ [s]) = (run ip steps).step s := by
  rw [run, List.foldl_append]
  rfl

/-! ## The last value given -/

def lastOf {α : Type} (f : Step → Option α) (steps : List Step) : Option α :=
  (steps.filterMap f).getLast?

theorem lastOf_concat {α : Type} (f : Step → Option α) (steps : List Step) (s : Step) :
    lastOf f (steps ++ [s]) = (f s).or (lastOf f steps) := by
  unfold lastOf
  cases h : f s <;> simp [h]

theorem exists_of_lastOf {α : Type} {f : Step → Option α} {steps : List Step} {a : α}
    (h : lastOf f steps = some a) : ∃ s ∈ steps, f s = some a :=
  List.mem_filterMap.mp (List.mem_of_getLast? h)

theorem lastOf_map {α β : Type} (f : Step → Option α) (g : α → β) (steps : List Step) :
    lastOf (fun s => (f s).map g) steps = (lastOf f steps).map g := by
  rw [lastOf, ← List.map_filterMap, List.getLast?_map, lastOf]

/-- A fact that every step either sets or keeps is the last one set. -/
theorem run_eq_lastOf {α : Type} (fact : Builder → Option α) {f : Step → Option α}
    (hstep : ∀ b s, fact (b.step s) = (f s).or (fact b)) (ip : Net.Address) (steps : List Step) :
    fact (run ip steps) = (lastOf f steps).or (fact (builder ip)) := by
  induction steps using List.reverseRecOn with
  | nil => rfl
  | append_singleton steps s ih => rw [run_concat, hstep, ih, lastOf_concat, Option.or_assoc]

/-- The answer of the last look-up, if it is a usable name. -/
def usableName (steps : List Step) : Option String :=
  (lastOf Step.lookup? steps).join.filter (Params.IsUsable ·)

section

variable (ip : Net.Address) (steps : List Step)

theorem ip_run : (run ip steps).ip = ip := by
  induction steps using List.reverseRecOn with
  | nil => rfl
  | append_singleton steps s ih =>
      rw [run_concat]
      cases s <;> exact ih

theorem classes_run :
    (run ip steps).classes = defaultClass :: steps.flatMap Step.addedClasses := by
  have hstep : ∀ (b : Builder) (s : Step), (b.step s).classes = b.classes ++ s.addedClasses := by
    intro b s
    cases s <;> simp [step, withReverseName, withHardwareAddress, applyParams, extendClasses,
      Step.addedClasses]
  induction steps using List.reverseRecOn with
  | nil => rfl
  | append_singleton steps s ih =>
      rw [run_concat, hstep, ih, List.flatMap_append, List.flatMap_singleton, List.cons_append]

theorem clientOverride_run :
    (run ip steps).clientOverride = lastOf (Step.given? Params.client) steps := by
  refine (run_eq_lastOf Builder.clientOverride (fun b s => ?_) ip steps).trans Option.or_none
  cases s with
  | params p => exact Option.orElse_eq_or ..
  | _ => rfl

theorem node_run : (run ip steps).node = lastOf (Step.given? Params.node) steps := by
  refine (run_eq_lastOf Builder.node (fun b s => ?_) ip steps).trans Option.or_none
  cases s with
  | params p => exact Option.orElse_eq_or ..
  | _ => rfl

theorem architecture_run :
    (run ip steps).architecture = lastOf (Step.given? Params.arch) steps := by
  refine (run_eq_lastOf Builder.architecture (fun b s => ?_) ip steps).trans Option.or_none
  cases s with
  | params p => exact Option.orElse_eq_or ..
  | _ => rfl

theorem distro_run :
    (run ip steps).distro = (lastOf (Step.given? Params.distro) steps).getD "" := by
  apply Option.some_inj.mp
  rw [← Option.or_some]
  refine run_eq_lastOf (fun b => some b.distro) (fun b s => ?_) ip steps
  cases s with
  | params p => exact Option.or_some.symm
  | _ => rfl

theorem hardwareAddress_run :
    (run ip steps).hardwareAddress = (lastOf Step.hardware? steps).join.getD "" := by
  have hlast := run_eq_lastOf (fun b => some b.hardwareAddress)
    (f := fun s => s.hardware?.map (·.getD "")) (fun b s => by cases s <;> rfl) ip steps
  rw [lastOf_map] at hlast
  revert hlast
  cases lastOf Step.hardware? steps <;> simp [builder, ofAddress]

theorem reverseName_withReverseName (b : Builder) (name : Option String) :
    (b.withReverseName name).reverseName = name.filter (Params.IsUsable ·) := by
  have husable : (fun n => !n.isEmpty && isSafe n) = fun n => decide (Params.IsUsable n) := by
    funext n
    rw [Bool.eq_iff_iff, decide_eq_true_iff, Bool.and_eq_true, Bool.not_eq_true']
    rfl
  rw [← husable]
  rfl

theorem reverseName_run : (run ip steps).reverseName = usableName steps := by
  have hlast := run_eq_lastOf (fun b => some b.reverseName)
    (f := fun s => s.lookup?.map (·.filter (Params.IsUsable ·))) (fun b s => ?_) ip steps
  · rw [lastOf_map] at hlast
    unfold usableName
    revert hlast
    cases lastOf Step.lookup? steps <;> simp [builder, ofAddress]
  · cases s with
    | reverseName name => exact congrArg some (reverseName_withReverseName b name)
    | _ => rfl

theorem mem_classes_of_node {node : String} (h : (run ip steps).node = some node) :
    node ∈ (run ip steps).classes := by
  rw [node_run] at h
  obtain ⟨s, hs, hnode⟩ := exists_of_lastOf h
  rw [classes_run]
  refine List.mem_cons_of_mem defaultClass (List.mem_flatMap.mpr ⟨s, hs, ?_⟩)
  cases s with
  | params p => exact List.mem_append_right p.classes (Option.mem_toList.mpr hnode)
  | _ => cases hnode

end

/-! ## Contexts -/

/-- What a client is after the steps of its builder. -/
structure FactsOf (ip : Net.Address) (steps : List Step) (client : Client) : Prop where
  ip_eq : client.ip = ip
  classes_eq : client.classes = defaultClass :: steps.flatMap Step.addedClasses
  reverseName_eq : client.reverseName = (usableName steps).getD ip.toString
  name_eq : client.name = (lastOf (Step.given? Params.client) steps).getD client.reverseName
  node_eq : client.node = lastOf (Step.given? Params.node) steps
  node_mem : ∀ node ∈ client.node, node ∈ client.classes
  architecture_eq : client.architecture = lastOf (Step.given? Params.arch) steps
  distro_eq : client.distro = (lastOf (Step.given? Params.distro) steps).getD ""
  hardwareAddress_eq : client.hardwareAddress = (lastOf Step.hardware? steps).join.getD ""

theorem factsOf_run (ip : Net.Address) (steps : List Step) :
    FactsOf ip steps (run ip steps).build := by
  have hreverse : (run ip steps).resolvedReverseName = (usableName steps).getD ip.toString := by
    rw [resolvedReverseName, reverseName_run, ip_run]
  exact
    { ip_eq := ip_run ip steps
      classes_eq := classes_run ip steps
      reverseName_eq := hreverse
      name_eq := by
        change (run ip steps).clientOverride.getD _ = _
        rw [clientOverride_run]
        rfl
      node_eq := node_run ip steps
      node_mem := fun node hnode => mem_classes_of_node ip steps hnode
      architecture_eq := architecture_run ip steps
      distro_eq := distro_run ip steps
      hardwareAddress_eq := hardwareAddress_run ip steps }

/-- After any steps the name is the one that the directory is asked for, every fact is as the steps tell
it, and the host name and the domain are the same as in any other client with this reverse name. -/
theorem build_of_steps (ip : Net.Address) (steps : List Step) :
    (run ip steps).lookupName = (run ip steps).build.name ∧
      FactsOf ip steps (run ip steps).build ∧
      ∀ ip' steps', (run ip' steps').build.reverseName = (run ip steps).build.reverseName →
        (run ip' steps').build.derivedHostname = (run ip steps).build.derivedHostname ∧
          (run ip' steps').build.domain = (run ip steps).build.domain := by
  refine ⟨rfl, factsOf_run ip steps, fun ip' steps' h => ⟨congrArg deriveHostname h, ?_⟩⟩
  unfold Client.domain
  rw [h]

/-- Parameters are applied before and between the look-ups, and the last look-up has the same answer
as that of another client. -/
theorem build_of_steps_of_repeated :
    let steps : List Step := [
      .params
        { client := some "first", classes := ["web"], node := some "n1", arch := some "amd64" },
      .reverseName (some "old.lab.example"),
      .classes ["gpu"],
      .params { client := some "second", classes := ["web"], node := some "n2" },
      .reverseName (some "host5.lab.example")]
    let steps' : List Step := [.reverseName (some "host5.lab.example")]
    let client := (run (.v4 ⟨10, 0, 0, 5⟩) steps).build
    let client' := (run (.v4 ⟨10, 0, 0, 6⟩) steps').build
    client'.reverseName = client.reverseName ∧ client'.domain = client.domain ∧
      client.name = "second" ∧ client.node = some "n2" ∧ client.architecture = some "amd64" ∧
      client.classes = ["default", "web", "n1", "gpu", "web", "n2"] := by
  intro steps steps' client client'
  have hname : client'.reverseName = client.reverseName := by decide +kernel
  obtain ⟨-, hfacts, hsame⟩ := build_of_steps (.v4 ⟨10, 0, 0, 5⟩) steps
  refine ⟨hname, (hsame _ steps' hname).2, hfacts.name_eq, hfacts.node_eq, hfacts.architecture_eq,
    hfacts.classes_eq⟩

end Preseed.Client.Builder
