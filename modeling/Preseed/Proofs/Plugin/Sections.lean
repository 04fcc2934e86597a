import Mathlib.Data.Option.Basic
import Preseed.Proofs.Plugin.Repetition
import Preseed.Proofs.Record.Fields

/-! # The sections that apply to a client

A hook writes the items of the common section and then those of the client's classes. Every class that has a
section counts once, at the place where the client first has it. -/

namespace Preseed

/-! ## First places -/

section FirstPlaces

variable {α : Type} [DecidableEq α]

theorem pairwise_idxOf_eraseDups (xs : List α) :
    xs.eraseDups.Pairwise fun a b => xs.idxOf a < xs.idxOf b := by
  induction xs using List.reverseRecOn with
  | nil => exact List.Pairwise.nil
  | append_singleton xs x ih =>
      -- First places stay where they are, and a new item has its own behind all of them.
      have hbefore : xs.eraseDups.Pairwise fun a b => (xs ++ [x]).idxOf a < (xs ++ [x]).idxOf b := by
        refine ih.imp_of_mem fun {a b} ha hb hlt => ?_
        rwa [List.idxOf_append_of_mem (List.mem_eraseDups.mp ha),
          List.idxOf_append_of_mem (List.mem_eraseDups.mp hb)]
      rw [eraseDups_concat]
      split
      · exact hbefore
      · rename_i hx
        refine List.pairwise_append.mpr ⟨hbefore, List.pairwise_singleton _ x, fun a ha b hb => ?_⟩
        obtain rfl := List.mem_singleton.mp hb
        have ha := List.mem_eraseDups.mp ha
        rw [List.idxOf_append_of_mem ha, List.idxOf_append_of_notMem hx]
        exact Nat.lt_add_right _ (List.idxOf_lt_length_of_mem ha)

end FirstPlaces

/-- A plugin that keeps its state and writes the same lines for a hook at any time writes those of every
call. -/
theorem Run.foldl_call_of_stateless {σ : Type} {p : LoadedPlugin σ} {lines : Hook → List String}
    (h : ∀ hook out, p.plugin.call hook out p.plugin.state =
      { state := p.plugin.state, lines := lines hook })
    (hooks : List Hook) (out : Output) (calls : List (String × Hook)) :
    let r := hooks.foldl call { plugins := [p], output := out, calls }
    r.failure = none ∧ r.output.lines = out.lines ++ hooks.flatMap lines := by
  induction hooks generalizing out calls with
  | nil => simp
  | cons hook hooks ih =>
      have hstep : call { plugins := [p], output := out, calls } hook =
          { plugins := [p], output := out.append (lines hook), calls := calls ++ [(p.name, hook)] } := by
        simp [call, callEach, h]
      obtain ⟨hfailure, hlines⟩ := ih (out.append (lines hook)) (calls ++ [(p.name, hook)])
      rw [List.foldl_cons, hstep]
      refine ⟨hfailure, hlines.trans ?_⟩
      rw [Output.append, List.flatMap_cons, List.append_assoc]

namespace Directives

open Record (Problem)
open Yaml (Value)
open Yaml.Value (ReadsItems)

/-! ## The sections that are read -/

/-- A section has the items of its three lists. -/
structure IsSection (fields : String → Option Value) (s : Section) : Prop where
  preseed : ReadsItems Directive.read (fields "preseed") s.preseed
  early : ReadsItems Record.text (fields "early") s.early
  late : ReadsItems Record.text (fields "late") s.late

theorem isSection_default : IsSection (fun _ => none) {} where
  preseed := .nil
  early := .nil
  late := .nil

theorem IsSection.unique {fields : String → Option Value} {s t : Section} (hs : IsSection fields s)
    (ht : IsSection fields t) : s = t := by
  cases s
  cases t
  congr
  · exact hs.preseed.unique ht.preseed
  · exact hs.early.unique ht.early
  · exact hs.late.unique ht.late

theorem IsSection.set {fields : String → Option Value} {s s' : Section} {name : String} {v : Value}
    (hs : IsSection fields s) (hname : name ∈ sectionShape.names)
    (h : setSectionField s name v = .ok s') :
    IsSection (Function.update fields name (some v)) s' := by
  obtain ⟨hpreseed, hearly, hlate⟩ := hs
  simp only [sectionShape, List.mem_cons, List.not_mem_nil, or_false] at hname
  rcases hname with rfl | rfl | rfl <;>
    obtain ⟨items, hitems, h⟩ := exists_of_bind_eq_ok h <;>
    obtain rfl := Except.ok.inj h <;>
    have hread := Value.readsItems_of_list hitems <;>
    constructor <;> simpa [Function.update_apply]

theorem isSection_of_readSection {v : Value} {s : Section} (h : readSection v = .ok s) :
    IsSection v.field? s :=
  Value.of_read rfl (fun _ _ _ _ _ hname hs hset => hs.set hname hset) isSection_default h

/-- The classes with a value have the section that it is read as, and no others have one. -/
def AreClasses (values : String → Option Value) (classes : List (String × Section)) : Prop :=
  ∀ c, Option.Rel (fun v s => IsSection v.field? s) (values c) (classes.lookup c)

theorem areClasses_nil : AreClasses (fun _ => none) [] :=
  fun _ => .none

theorem AreClasses.lookup_eq_some_iff {values : String → Option Value}
    {classes : List (String × Section)} (h : AreClasses values classes) {c : String} {s : Section} :
    classes.lookup c = some s ↔ ∃ v, values c = some v ∧ IsSection v.field? s := by
  have hrel := h c
  constructor
  · intro hs
    rw [hs] at hrel
    cases hv : values c with
    | none =>
        rw [hv] at hrel
        cases hrel
    | some v =>
        rw [hv] at hrel
        cases hrel with
        | some hsection => exact ⟨v, rfl, hsection⟩
  · rintro ⟨v, hv, hsection⟩
    rw [hv] at hrel
    cases hs : classes.lookup c with
    | none =>
        rw [hs] at hrel
        cases hrel
    | some t =>
        rw [hs] at hrel
        cases hrel with
        | some ht => rw [ht.unique hsection]

theorem lookup_filter_ne {c name : String} (h : c ≠ name) (classes : List (String × Section)) :
    (classes.filter (·.1 != name)).lookup c = classes.lookup c := by
  induction classes with
  | nil => rfl
  | cons e classes ih =>
      by_cases he : e.1 = name
      · rw [List.filter_cons_of_neg (by simpa using he), ih, List.lookup_cons,
          beq_eq_false_iff_ne.mpr (he ▸ h)]
      · rw [List.filter_cons_of_pos (by simpa using he), List.lookup_cons, List.lookup_cons, ih]

theorem lookup_put (classes : List (String × Section)) (name : String) (s : Section) (c : String) :
    (classes.filter (·.1 != name) ++ [(name, s)]).lookup c =
      if c = name then some s else classes.lookup c := by
  rw [List.lookup_append]
  by_cases hc : c = name
  · have hnone : (classes.filter (·.1 != name)).lookup c = none := by
      rw [List.lookup_eq_none_iff]
      intro e he
      rw [hc, bne_comm]
      exact (List.mem_filter.mp he).2
    rw [hnone, Option.none_or, if_pos hc, List.lookup_cons, beq_iff_eq.mpr hc]
  · rw [lookup_filter_ne hc, if_neg hc, List.lookup_cons, beq_eq_false_iff_ne.mpr hc, List.lookup_nil,
      Option.or_none]

theorem AreClasses.put {values : String → Option Value} {classes : List (String × Section)} {v : Value}
    {s : Section} (h : AreClasses values classes) (hs : IsSection v.field? s) (name : String) :
    AreClasses (Function.update values name (some v))
      (classes.filter (·.1 != name) ++ [(name, s)]) := by
  intro c
  rw [lookup_put]
  by_cases hc : c = name
  · rw [hc, Function.update_self, if_pos rfl]
    exact .some hs
  · rw [Function.update_of_ne hc, if_neg hc]
    exact h c

/-- Where each key puts its section, a class has that of its last key, or that which it had before. -/
theorem AreClasses.foldlM {read : List (String × Section) → Value × Value →
    Except Problem (List (String × Section))}
    (hread : ∀ found e next, read found e = .ok next → ∃ name s, Record.text e.1 = .ok name ∧
      readSection e.2 = .ok s ∧ next = found.filter (·.1 != name) ++ [(name, s)])
    {given : List (Value × Value)} {values : String → Option Value}
    {found classes : List (String × Section)} (hfound : AreClasses values found)
    (h : given.foldlM read found = .ok classes) :
    AreClasses (fun c => (Value.lastOf given c).or (values c)) classes := by
  -- The keys read so far stand in `values`, and `found` has their sections.
  induction given generalizing values found with
  | nil =>
      obtain rfl := Except.ok.inj h
      exact hfound
  | cons e rest ih =>
      obtain ⟨key, value⟩ := e
      rw [List.foldlM_cons] at h
      obtain ⟨next, hnext, h⟩ := exists_of_bind_eq_ok h
      obtain ⟨name, s, hname, hs, rfl⟩ := hread _ _ _ hnext
      rw [Value.lastOf_cons_or (Value.text?_eq_some hname)]
      exact ih (hfound.put (isSection_of_readSection hs) name) h

theorem areClasses_of_readClasses {v : Value} {classes : List (String × Section)}
    (h : readClasses v = .ok classes) : AreClasses v.field? classes := by
  obtain ⟨given, hgiven, h⟩ := exists_of_bind_eq_ok h
  have hclasses : AreClasses (fun c => (Value.lastOf given c).or none) classes := by
    refine areClasses_nil.foldlM ?_ h
    intro found e next hnext
    obtain ⟨name, hname, hnext⟩ := exists_of_bind_eq_ok hnext
    obtain ⟨s, hs, hnext⟩ := exists_of_bind_eq_ok hnext
    exact ⟨name, s, hname, hs, (Except.ok.inj hnext).symm⟩
  intro c
  rw [Value.field?, Value.entries_eq hgiven, ← Option.or_none (o := Value.lastOf given c)]
  exact hclasses c

/-- The settings are a section with those of the classes. -/
structure AreSettings (fields : String → Option Value) (settings : Settings) : Prop where
  common : IsSection fields settings.common
  classes : AreClasses (fun c => (fields "classes").bind fun v => v.field? c) settings.classes

theorem areSettings_default : AreSettings (fun _ => none) {} where
  common := isSection_default
  classes := areClasses_nil

theorem AreSettings.set {fields : String → Option Value} {settings settings' : Settings}
    {name : String} {v : Value} (hs : AreSettings fields settings) (hname : name ∈ shape.names)
    (h : setField settings name v = .ok settings') :
    AreSettings (Function.update fields name (some v)) settings' := by
  by_cases hclasses : name = "classes"
  · subst hclasses
    obtain ⟨classes, hread, h⟩ := exists_of_bind_eq_ok h
    obtain rfl := Except.ok.inj h
    obtain ⟨⟨hpreseed, hearly, hlate⟩, -⟩ := hs
    refine ⟨by constructor <;> simpa, ?_⟩
    rw [Function.update_self]
    exact areClasses_of_readClasses hread
  · have hsection : name ∈ sectionShape.names := by
      simp only [shape, sectionShape, List.mem_cons, List.not_mem_nil, or_false] at hname ⊢
      tauto
    have hset : setField settings name v =
        (setSectionField settings.common name v).bind fun common => .ok { settings with common } := by
      unfold setField
      split
      · exact absurd rfl hclasses
      · rfl
    rw [hset] at h
    obtain ⟨common, hcommon, h⟩ := exists_of_bind_eq_ok h
    obtain rfl := Except.ok.inj h
    refine ⟨hs.common.set hsection hcommon, ?_⟩
    rw [Function.update_of_ne (Ne.symm hclasses)]
    exact hs.classes

theorem areSettings_of_read {init : PluginInit} {settings : Settings}
    (h : init.read {} readSettings = .ok settings) : AreSettings init.settings.field? settings :=
  PluginInit.of_read areSettings_default
    (fun _ _ => Value.of_read rfl (fun _ _ _ _ _ hname hs hset => hs.set hname hset)
      areSettings_default) h

/-! ## The sections that apply -/

/-- The settings have this section for a class. -/
def HasSection (settings : Value) (c : String) (s : Section) : Prop :=
  ∃ classes w, settings.field? "classes" = some classes ∧ classes.field? c = some w ∧
    IsSection w.field? s

theorem AreSettings.lookup_eq_some_iff {v : Value} {settings : Settings}
    (h : AreSettings v.field? settings) (c : String) (s : Section) :
    settings.classes.lookup c = some s ↔ HasSection v c s := by
  rw [h.classes.lookup_eq_some_iff, HasSection]
  simp only [Option.bind_eq_some_iff]
  constructor
  · rintro ⟨w, ⟨classes, hclasses, hfield⟩, hsection⟩
    exact ⟨classes, w, hclasses, hfield, hsection⟩
  · rintro ⟨classes, w, hclasses, hfield, hsection⟩
    exact ⟨w, ⟨classes, hclasses, hfield⟩, hsection⟩

/-- The sections of a client's classes: each once, in the order in which the classes first occur. -/
structure Applied (settings : Value) (classes : List String) (applied : List (String × Section)) :
    Prop where
  mem_iff : ∀ c s, (c, s) ∈ applied ↔ c ∈ classes ∧ HasSection settings c s
  ordered : applied.Pairwise fun a b => classes.idxOf a.1 < classes.idxOf b.1

theorem exists_applied {v : Value} {settings : Settings} (h : AreSettings v.field? settings)
    (client : Client) :
    ∃ applied, Applied v client.classes applied ∧
      sections settings client = settings.common :: applied.map Prod.snd := by
  refine ⟨client.classes.eraseDups.filterMap fun c => (settings.classes.lookup c).map (c, ·),
    ⟨?_, ?_⟩, ?_⟩
  · intro c s
    rw [← h.lookup_eq_some_iff, List.mem_filterMap]
    constructor
    · rintro ⟨d, hd, hlookup⟩
      obtain ⟨t, ht, heq⟩ := Option.map_eq_some_iff.mp hlookup
      obtain ⟨rfl, rfl⟩ := Prod.mk.inj heq
      exact ⟨List.mem_eraseDups.mp hd, ht⟩
    · rintro ⟨hc, hlookup⟩
      exact ⟨c, List.mem_eraseDups.mpr hc, by rw [hlookup, Option.map_some]⟩
  · refine (pairwise_idxOf_eraseDups client.classes).filterMap _ ?_
    intro c d hlt a ha b hb
    obtain ⟨_, -, rfl⟩ := Option.map_eq_some_iff.mp ha
    obtain ⟨_, -, rfl⟩ := Option.map_eq_some_iff.mp hb
    exact hlt
  · rw [sections, firsts_eq_eraseDups, List.map_filterMap]
    congr 2
    funext c
    cases settings.classes.lookup c <;> rfl

/-! ## The lines that are written -/

/-- The parts of a directive with blanks between. Its value is expanded, and is no part if nothing is left
of it. -/
def directiveLine (client : Client) (d : Directive) : String :=
  " ".intercalate ([d.owner, d.key, d.type] ++ [client.expand d.value].filter (· ≠ ""))

/-- What a section has for a hook. -/
def Section.lines (s : Section) (client : Client) : Hook → List String
  | .preseed => s.preseed.map (directiveLine client)
  | .scriptEarly => s.early.map client.expand
  | .scriptLate => s.late.map client.expand
  | .setUp => []
  | .tearDown => []

theorem text_expandDirective (client : Client) (d : Directive) :
    (expandDirective client d).text = directiveLine client d := by
  unfold directiveLine expandDirective Directive.text
  by_cases hvalue : client.expand d.value = "" <;> simp [hvalue, ← String.append_assoc]

theorem lines_eq_flatMap (settings : Settings) (client : Client) (hook : Hook) :
    lines settings client hook =
      (sections settings client).flatMap fun s => s.lines client hook := by
  cases hook with
  | preseed => simp only [lines, Section.lines, text_expandDirective]
  | scriptEarly => rfl
  | scriptLate => rfl
  | setUp => simp [lines, Section.lines]
  | tearDown => simp [lines, Section.lines]

/-- With settings that are accepted every hook writes its items of the common section and then those of the
client's classes. The sections are the same for all hooks and calls, and no call fails. -/
theorem writes_applied_sections {σ : Type} {state : σ} {init : PluginInit} {p : Plugin σ}
    (h : factory state init = .ok p) :
    ∃ (common : Section) (applied : List (String × Section)),
      IsSection init.settings.field? common ∧
      Applied init.settings init.client.classes applied ∧
      ∀ (name kind : String) (hooks : List Hook) (out : Output),
        let r := LoadedPlugin.runHooks ⟨name, kind, p⟩ hooks out
        r.failure = none ∧
          r.output.lines = out.lines ++ hooks.flatMap fun hook =>
            (common :: applied.map Prod.snd).flatMap fun s => s.lines init.client hook := by
  obtain ⟨settings, hsettings, h⟩ := exists_of_bind_eq_ok h
  obtain rfl := Except.ok.inj h
  have hare := areSettings_of_read hsettings
  obtain ⟨applied, happlied, hsections⟩ := exists_applied hare init.client
  refine ⟨settings.common, applied, hare.common, happlied, fun name kind hooks out => ?_⟩
  have hstateless : ∀ hook out,
      (plugin state settings init.client).call hook out state =
        { state, lines := lines settings init.client hook } := fun _ _ => rfl
  have hlines : lines settings init.client = fun hook =>
      (settings.common :: applied.map Prod.snd).flatMap fun s => s.lines init.client hook := by
    funext hook
    rw [lines_eq_flatMap, hsections]
  rw [← hlines]
  exact Run.foldl_call_of_stateless hstateless hooks out []

/-- The client has a class from its query again from its node, and one without a section; the settings have
one that the client does not have. -/
theorem writes_applied_sections_of_overlap :
    let items (s : String) : Value := .sequence [.text s]
    let init : PluginInit := {
      name := "Test"
      settings := .mapping [
        (.text "classes", .mapping [
          (.text "gpu", .mapping [(.text "early", items "echo gpu {ip}")]),
          (.text "web", .mapping [(.text "early", items "echo web"),
            (.text "preseed", .sequence [.mapping [(.text "key", .text "tasksel/first"),
              (.text "value", .text "{domain}")]])]),
          (.text "nfs", .mapping [(.text "early", items "echo nfs")])]),
        (.text "early", items "echo all")]
      session := (Directory.ofEntries []).session
      client := ((Client.builder (.v4 ⟨10, 0, 0, 5⟩)).applyParams
        (Params.parse "class=web&class=gpu&class=lab&node=web")).build }
    ∃ p, factory () init = .ok p ∧ ∃ common applied,
      IsSection init.settings.field? common ∧ Applied init.settings init.client.classes applied ∧
      [Hook.setUp, .scriptEarly, .preseed, .scriptEarly].flatMap (fun hook =>
        (common :: applied.map Prod.snd).flatMap fun s => s.lines init.client hook) =
        ["echo all", "echo web", "echo gpu 10.0.0.5", "d-i tasksel/first string",
          "echo all", "echo web", "echo gpu 10.0.0.5"] := by
  intro items init
  refine ⟨_, rfl, ?_⟩
  obtain ⟨common, applied, hcommon, happlied, hruns⟩ :=
    @writes_applied_sections Unit () init _ rfl
  refine ⟨common, applied, hcommon, happlied, ?_⟩
  obtain ⟨-, hlines⟩ := hruns "Test" kind [.setUp, .scriptEarly, .preseed, .scriptEarly] {}
  rw [List.nil_append] at hlines
  rw [← hlines]
  decide +kernel

end Directives

end Preseed
