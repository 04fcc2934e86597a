import Mathlib.Data.List.Flatten
import Mathlib.Data.List.Induction
import Preseed.Lifecycle

/-! # Repeated classes

A client may have a class several times. Directives and network answers are the same without the
repetitions. What the directory holds for a class is written as often as the client has the class. -/

namespace Preseed

/-! ## Lists without repetitions -/

section Lists

variable {α β : Type} [DecidableEq α]

theorem eraseDups_concat (xs : List α) (x : α) :
    (xs ++ [x]).eraseDups = if x ∈ xs then xs.eraseDups else xs.eraseDups ++ [x] := by
  rw [List.eraseDups_append]
  by_cases h : x ∈ xs
  · simp [h, List.removeAll]
  · simp [h, List.removeAll, List.eraseDups_cons]

theorem eraseDups_sublist (xs : List α) : xs.eraseDups.Sublist xs := by
  induction xs using List.reverseRecOn with
  | nil => exact List.Sublist.slnil
  | append_singleton xs x ih =>
      rw [eraseDups_concat]
      split
      · exact ih.trans (List.sublist_append_left xs [x])
      · exact ih.append (List.Sublist.refl [x])

theorem eraseDups_eraseDups (xs : List α) : xs.eraseDups.eraseDups = xs.eraseDups := by
  induction xs using List.reverseRecOn with
  | nil => rfl
  | append_singleton xs x ih =>
      rw [eraseDups_concat]
      split
      · exact ih
      · rename_i h
        rw [eraseDups_concat, if_neg (mt List.mem_eraseDups.mp h), ih]

theorem findSome?_eraseDups (f : α → Option β) (xs : List α) :
    xs.eraseDups.findSome? f = xs.findSome? f := by
  induction xs using List.reverseRecOn with
  | nil => rfl
  | append_singleton xs x ih =>
      rw [eraseDups_concat, List.findSome?_append]
      split
      · rename_i h
        rw [ih]
        cases hxs : xs.findSome? f with
        | some b => rfl
        | none => simp [List.findSome?_eq_none_iff.mp hxs x h]
      · rw [List.findSome?_append, ih]

theorem count_concat (xs : List α) (x y : α) :
    (xs ++ [x]).count y = xs.count y + if x = y then 1 else 0 := by
  rw [List.count_append, List.count_singleton]
  simp

/-- Without repetitions the lines are no more than with them. -/
theorem eq_nil_of_flatMap_eraseDups {f : α → List β} {xs : List α} {ys : List β}
    (h : xs.eraseDups.flatMap f = xs.flatMap f ++ ys) : ys = [] := by
  have hle := ((eraseDups_sublist xs).flatMap f).length_le
  have hlength := congrArg List.length h
  rw [List.length_append] at hlength
  exact List.eq_nil_of_length_eq_zero (by omega)

/-- Without repetitions a list has the same lines if and only if no repeated item has a line. -/
theorem flatMap_eraseDups_iff (f : α → List β) (xs : List α) :
    xs.eraseDups.flatMap f = xs.flatMap f ↔ ∀ x, 1 < xs.count x → f x = [] := by
  induction xs using List.reverseRecOn with
  | nil => simp
  | append_singleton xs x ih =>
      rw [eraseDups_concat, List.flatMap_append, List.flatMap_singleton]
      by_cases h : x ∈ xs
      · have hpos := List.count_pos_iff.mpr h
        rw [if_pos h]
        constructor
        · intro heq y hy
          have hx := eq_nil_of_flatMap_eraseDups heq
          rw [count_concat] at hy
          by_cases hxy : x = y
          · rw [← hxy, hx]
          · rw [if_neg hxy] at hy
            rw [hx, List.append_nil] at heq
            exact ih.mp heq y hy
        · intro hnil
          have hx : f x = [] := hnil x (by rw [count_concat, if_pos rfl]; omega)
          rw [hx, List.append_nil]
          refine ih.mpr fun y hy => hnil y ?_
          rw [count_concat]
          omega
      · have hzero := List.count_eq_zero_of_not_mem h
        rw [if_neg h, List.flatMap_append, List.flatMap_singleton, List.append_left_inj, ih]
        refine forall_congr' fun y => ?_
        rw [count_concat]
        by_cases hxy : x = y
        · subst hxy
          simp [hzero]
        · rw [if_neg hxy, Nat.add_zero]

end Lists

namespace Client

/-- The client with each class at its first place only. -/
def withoutRepetitions (client : Client) : Client :=
  { client with classes := client.classes.eraseDups }

end Client

/-- A run of one plugin that is called in some hooks. -/
def LoadedPlugin.runHooks {σ : Type} (p : LoadedPlugin σ) (hooks : List Hook) (out : Output) : Run σ :=
  hooks.foldl Run.call { plugins := [p], output := out }

/-! ## Directives and network answers -/

namespace Directives

theorem firsts_eq (seen cs : List String) :
    firsts seen cs = (cs.filter fun c => !seen.contains c).eraseDups := by
  induction cs generalizing seen with
  | nil => rfl
  | cons c cs ih =>
      rw [firsts, ih, ih]
      by_cases h : seen.contains c = true
      · rw [if_pos h, List.filter_cons_of_neg (by simpa using h)]
      · rw [if_neg h, List.filter_cons_of_pos (by simpa using h), List.eraseDups_cons,
          List.filter_filter]
        simp only [List.contains_cons, Bool.not_or]

theorem firsts_eq_eraseDups (cs : List String) : firsts [] cs = cs.eraseDups := by
  rw [firsts_eq, List.filter_eq_self.mpr fun c _ => by simp]

theorem sections_withoutRepetitions (settings : Settings) (client : Client) :
    sections settings client.withoutRepetitions = sections settings client := by
  have hclasses : client.withoutRepetitions.classes = client.classes.eraseDups := rfl
  rw [sections, sections, hclasses, firsts_eq_eraseDups, firsts_eq_eraseDups, eraseDups_eraseDups]

theorem plugin_withoutRepetitions {σ : Type} (state : σ) (settings : Settings) (client : Client) :
    plugin state settings client.withoutRepetitions = plugin state settings client := by
  have hlines : lines settings client.withoutRepetitions = lines settings client := by
    funext hook
    cases hook <;> simp only [lines, sections_withoutRepetitions] <;> rfl
  simp only [plugin, hlines]

end Directives

theorem Netcfg.plugin_withoutRepetitions {σ : Type} (state : σ) (settings : Settings)
    (client : Client) :
    plugin state settings client.withoutRepetitions = plugin state settings client :=
  rfl

/-! ## Directives from the directory -/

namespace LdapDirectives

/-- What the directory holds for a class; nothing when the search fails. -/
def found (settings : Settings) (session : Session) (c : String) : List Entry :=
  match session.search (request settings c) with
  | .ok entries => entries
  | .error _ => []

/-- Why the search for a class fails, if it does. -/
def failure? (settings : Settings) (session : Session) (c : String) : Option DirectoryError :=
  match session.search (request settings c) with
  | .ok _ => none
  | .error e => some e

/-- Classes have what is found for each of them, or fail like the first that fails. -/
theorem collect_eq (settings : Settings) (session : Session) (cs : List String) :
    collect settings session cs =
      match cs.findSome? (failure? settings session) with
      | some e => .error e
      | none => .ok (cs.flatMap (found settings session)) := by
  induction cs with
  | nil => rfl
  | cons c cs ih =>
      rw [collect, ih, List.findSome?_cons, List.flatMap_cons]
      unfold failure? found
      cases session.search (request settings c) with
      | error e => rfl
      | ok entries => cases cs.findSome? _ <;> rfl

/-- The attribute whose values a hook writes. -/
def attribute? (settings : Settings) : Hook → Option String
  | .preseed => some settings.preseedAttribute
  | .scriptEarly => some settings.earlyAttribute
  | .scriptLate => some settings.lateAttribute
  | .setUp => none
  | .tearDown => none

/-- What a hook writes for a class. -/
def classLines (settings : Settings) (session : Session) (hook : Hook) (c : String) : List String :=
  (attribute? settings hook).toList.flatMap fun name => valuesOf name (found settings session c)

theorem classLines_flatMap (settings : Settings) (session : Session) (hook : Hook)
    (cs : List String) :
    cs.flatMap (classLines settings session hook) = (attribute? settings hook).toList.flatMap
      fun name => valuesOf name (cs.flatMap (found settings session)) := by
  unfold classLines
  cases attribute? settings hook with
  | none => simp
  | some name => simp [valuesOf, List.flatMap_assoc]

/-- Behind a set-up, a hook writes the lines of each class. -/
theorem runHooks_eq (settings : Settings) (session : Session) (client : Client) (name kind : String)
    (hook : Hook) (out : Output) :
    let r := LoadedPlugin.runHooks ⟨name, kind, plugin settings session client⟩ [.setUp, hook] out
    match client.classes.findSome? (failure? settings session) with
    | some e =>
      r.failure = some (.hook name .setUp (.directory e)) ∧ r.output.lines = out.lines
    | none =>
      r.failure = none ∧
        r.output.lines = out.lines ++ client.classes.flatMap (classLines settings session hook) := by
  intro r
  have hcollect := collect_eq settings session client.classes
  cases hfailure : client.classes.findSome? (failure? settings session) with
  | some e =>
      simp only [hfailure] at hcollect
      simp [r, LoadedPlugin.runHooks, Run.call, Run.callEach, plugin, call, hcollect, Output.append]
  | none =>
      simp only [hfailure] at hcollect
      rw [classLines_flatMap]
      cases hook <;>
        simp [r, LoadedPlugin.runHooks, Run.call, Run.callEach, plugin, call, hcollect, attribute?,
          Output.append]

/-- When the classes' searches succeed, no class that the client has more than once has lines for the
hook. -/
def RepeatsNothing (settings : Settings) (session : Session) (client : Client) (hook : Hook) : Prop :=
  (∀ c ∈ client.classes, failure? settings session c = none) →
    ∀ c, 1 < client.classes.count c → classLines settings session hook c = []

theorem runHooks_withoutRepetitions (settings : Settings) (session : Session) (client : Client)
    (name kind : String) (hook : Hook) (out : Output) :
    let r (c : Client) := LoadedPlugin.runHooks ⟨name, kind, plugin settings session c⟩
      [.setUp, hook] out
    (r client.withoutRepetitions).failure = (r client).failure ∧
      ((r client.withoutRepetitions).output.lines = (r client).output.lines ↔
        RepeatsNothing settings session client hook) := by
  intro r
  have hfull := runHooks_eq settings session client name kind hook out
  have hless := runHooks_eq settings session client.withoutRepetitions name kind hook out
  have hclasses : client.withoutRepetitions.classes = client.classes.eraseDups := rfl
  rw [hclasses, findSome?_eraseDups] at hless
  unfold RepeatsNothing
  rw [← List.findSome?_eq_none_iff]
  cases hfailure : client.classes.findSome? (failure? settings session) with
  | some e =>
      simp only [hfailure] at hfull hless
      obtain ⟨hended, hlines⟩ := hfull
      obtain ⟨hended', hlines'⟩ := hless
      refine ⟨hended'.trans hended.symm, ?_⟩
      simp only [reduceCtorEq, false_implies, iff_true]
      exact hlines'.trans hlines.symm
  | none =>
      simp only [hfailure] at hfull hless
      obtain ⟨hdone, hlines⟩ := hfull
      obtain ⟨hdone', hlines'⟩ := hless
      refine ⟨hdone'.trans hdone.symm, ?_⟩
      simp only [true_implies]
      rw [hlines', hlines, List.append_right_inj, flatMap_eraseDups_iff]

end LdapDirectives

/-! ## The built-in kinds -/

/-- A kind that is always there, with its settings. -/
inductive Builtin where
  | directives (settings : Directives.Settings)
  | netcfg (settings : Netcfg.Settings)
  | ldapDirectives (settings : LdapDirectives.Settings)

namespace Builtin

def plugin (b : Builtin) (session : Session) (client : Client) : Plugin (List Entry) :=
  match b with
  | directives settings => Directives.plugin [] settings client
  | netcfg settings => Netcfg.plugin [] settings client
  | ldapDirectives settings => LdapDirectives.plugin settings session client

/-- No class that the client has more than once has lines for the hook. Two of the kinds heed a class once
only. -/
def RepeatsNothing (b : Builtin) (session : Session) (client : Client) (hook : Hook) : Prop :=
  match b with
  | directives _ => True
  | netcfg _ => True
  | ldapDirectives settings => LdapDirectives.RepeatsNothing settings session client hook

theorem registrations_builtin :
    Registry.builtin.registrations =
      [⟨Directives.kind, Directives.factory []⟩, ⟨LdapDirectives.kind, LdapDirectives.factory⟩,
        ⟨Netcfg.kind, Netcfg.factory []⟩] := by
  rfl

/-- Settings that are read and checked are taken or refused whatever the client is. -/
theorem exists_of_factory {α : Type} {factory : Factory (List Entry)} {default : α}
    {read : Yaml.Value → Except Record.Problem α} {make : α → Builtin}
    (check : α → String → Except PluginError Unit)
    (hfactory : ∀ init, factory init =
      (init.read default read).bind fun settings =>
        (check settings init.name).bind fun _ =>
          .ok ((make settings).plugin init.session init.client))
    {init : PluginInit} {p : Plugin (List Entry)} (h : factory init = .ok p) :
    ∃ b : Builtin, ∀ client,
      factory { init with client } = .ok (b.plugin init.session client) := by
  rw [hfactory] at h
  cases hread : init.read default read with
  | error e =>
      rw [hread] at h
      cases h
  | ok settings =>
      cases hcheck : check settings init.name with
      | error e =>
          rw [hread, Except.bind, hcheck] at h
          cases h
      | ok u =>
          refine ⟨make settings, fun client => ?_⟩
          rw [hfactory]
          change (init.read default read).bind _ = _
          rw [hread, Except.bind, hcheck]
          rfl

def checkNetcfg (settings : Netcfg.Settings) (name : String) : Except PluginError Unit :=
  if (Blank.trim settings.interface.toList).isEmpty then
    .error (.settings name "interface must not be empty")
  else .ok ()

def checkLdapDirectives (settings : LdapDirectives.Settings) (name : String) :
    Except PluginError Unit :=
  if (settings.baseDn.getD "").isEmpty then .error (.settings name "base_dn is required") else .ok ()

theorem directives_factory_eq (init : PluginInit) :
    Directives.factory [] init =
      (init.read {} Directives.readSettings).bind fun settings =>
        Except.bind (.ok ()) fun _ => .ok ((directives settings).plugin init.session init.client) :=
  rfl

theorem netcfg_factory_eq (init : PluginInit) :
    Netcfg.factory [] init =
      (init.read {} Netcfg.readSettings).bind fun settings =>
        (checkNetcfg settings init.name).bind fun _ =>
          .ok ((netcfg settings).plugin init.session init.client) := by
  refine congrArg (Except.bind _) (funext fun settings => ?_)
  rw [checkNetcfg]
  split <;> rfl

theorem ldapDirectives_factory_eq (init : PluginInit) :
    LdapDirectives.factory init =
      (init.read {} LdapDirectives.readSettings).bind fun settings =>
        (checkLdapDirectives settings init.name).bind fun _ =>
          .ok ((ldapDirectives settings).plugin init.session init.client) := by
  refine congrArg (Except.bind _) (funext fun settings => ?_)
  rw [checkLdapDirectives]
  split <;> rfl

/-- A plugin of a built-in kind has settings, and the client has no part in them. -/
theorem exists_of_mem_builtin {r : Registration (List Entry)} (hr : r ∈ Registry.builtin.registrations)
    {init : PluginInit} {p : Plugin (List Entry)} (h : r.factory init = .ok p) :
    ∃ b : Builtin, ∀ client, r.factory { init with client } = .ok (b.plugin init.session client) := by
  rw [registrations_builtin] at hr
  simp only [List.mem_cons, List.not_mem_nil, or_false] at hr
  rcases hr with rfl | rfl | rfl
  · exact exists_of_factory (fun _ _ => .ok ()) directives_factory_eq h
  · exact exists_of_factory checkLdapDirectives ldapDirectives_factory_eq h
  · exact exists_of_factory checkNetcfg netcfg_factory_eq h

theorem exists_of_create? {kind : String} {init : PluginInit} {p : Plugin (List Entry)}
    (h : Registry.builtin.create? kind init = some (.ok p)) :
    ∃ b : Builtin, ∀ client, Registry.builtin.create? kind { init with client } =
      some (.ok (b.plugin init.session client)) := by
  rw [Registry.create?_eq] at h
  obtain ⟨r, hr, hmade⟩ := Option.map_eq_some_iff.mp h
  obtain ⟨b, hb⟩ := exists_of_mem_builtin (List.mem_of_find?_eq_some hr) hmade
  refine ⟨b, fun client => ?_⟩
  rw [Registry.create?_eq, hr, Option.map_some, hb]

/-- The same settings make a plugin for the client without repeated classes. Behind the set-up each of its
hooks ends alike, and writes the same lines if and only if no repeated class has lines for it. -/
theorem same_without_repetitions_iff {kind : String} {init : PluginInit} {p : Plugin (List Entry)}
    (h : Registry.builtin.create? kind init = some (.ok p)) :
    ∃ (b : Builtin) (q : Plugin (List Entry)),
      p = b.plugin init.session init.client ∧
      Registry.builtin.create? kind { init with client := init.client.withoutRepetitions } =
        some (.ok q) ∧
      ∀ (hook : Hook) (out : Output),
        let before := LoadedPlugin.runHooks ⟨init.name, kind, p⟩ [.setUp, hook] out
        let after := LoadedPlugin.runHooks ⟨init.name, kind, q⟩ [.setUp, hook] out
        after.failure = before.failure ∧
          (after.output.lines = before.output.lines ↔
            b.RepeatsNothing init.session init.client hook) := by
  obtain ⟨b, hb⟩ := exists_of_create? h
  obtain rfl : p = b.plugin init.session init.client :=
    Except.ok.inj (Option.some.inj (h.symm.trans (hb init.client)))
  refine ⟨b, _, rfl, hb _, fun hook out => ?_⟩
  cases b with
  | directives settings =>
      simp [plugin, RepeatsNothing, Directives.plugin_withoutRepetitions]
  | netcfg settings =>
      simp [plugin, RepeatsNothing, Netcfg.plugin_withoutRepetitions]
  | ldapDirectives settings =>
      exact LdapDirectives.runHooks_withoutRepetitions settings init.session init.client init.name
        kind hook out

/-- A client that has the class of its node twice, and a directory with a command for the class. -/
def initOfNode : PluginInit where
  name := "Test"
  settings := .mapping [(.text "base_dn", .text "o=lab")]
  session := (Directory.ofEntries [
    { dn := "cn=gpu,o=lab"
      attributes := [("cn", ["gpu"]), ("objectClass", ["preseedClass"]),
        ("preseedLateCommand", ["mkfs.ext4 /dev/sdb"])] }]).session
  client := ((Client.builder (.v4 ⟨10, 0, 0, 5⟩)).applyParams
    (Params.parse "class=gpu&node=gpu")).build

theorem same_without_repetitions_iff_of_node :
    let settings : LdapDirectives.Settings := { baseDn := some "o=lab" }
    let p := LdapDirectives.plugin settings initOfNode.session initOfNode.client
    Registry.builtin.create? LdapDirectives.kind initOfNode = some (.ok p) ∧
      ∃ b : Builtin, p = b.plugin initOfNode.session initOfNode.client ∧
        b.RepeatsNothing initOfNode.session initOfNode.client .scriptEarly ∧
        ¬ b.RepeatsNothing initOfNode.session initOfNode.client .scriptLate := by
  intro settings p
  have hmade : Registry.builtin.create? LdapDirectives.kind initOfNode = some (.ok p) := by rfl
  obtain ⟨b, q, hp, hq, hiff⟩ := same_without_repetitions_iff hmade
  obtain rfl : q = LdapDirectives.plugin settings initOfNode.session
      initOfNode.client.withoutRepetitions := Except.ok.inj (Option.some.inj (hq.symm.trans rfl))
  refine ⟨hmade, b, hp, ?_, ?_⟩
  · rw [← (hiff .scriptEarly {}).2]
    decide +kernel
  · rw [← (hiff .scriptLate {}).2]
    decide +kernel

/-- A command that the directory holds for a repeated class is written twice. -/
theorem not_same_without_repetitions :
    ¬ ∀ (kind : String) (init : PluginInit) (p q : Plugin (List Entry)) (hook : Hook),
      Registry.builtin.create? kind init = some (.ok p) →
      Registry.builtin.create? kind { init with client := init.client.withoutRepetitions } =
        some (.ok q) →
      hook ∈ [Hook.preseed, .scriptEarly, .scriptLate] →
      (LoadedPlugin.runHooks ⟨init.name, kind, q⟩ [.setUp, hook] {}).output.lines =
        (LoadedPlugin.runHooks ⟨init.name, kind, p⟩ [.setUp, hook] {}).output.lines := by
  intro h
  have hsame := h LdapDirectives.kind initOfNode _ _ .scriptLate rfl rfl (by decide)
  revert hsame
  decide +kernel

end Builtin

end Preseed
