import Preseed.Proofs.Directory.Values
import Preseed.Proofs.Plugin.Sections
import Preseed.Proofs.Text.Edits

/-! # Lines that the directory holds for classes

The set-up looks up every class of the client. It takes over what it finds only if all searches succeed, and
what it took over last is written by the other hooks: for each class and each entry of the class, the values
that the entry shows of the hook's attribute. These are all its values where the entries spell the attributes
in one way each. -/

namespace Preseed

/-! ## Blocks -/

section Blocks

variable {α β : Type}

/-- Lines that are left out of some blocks are missing unless they are left out of none. -/
theorem flatMap_eq_iff_of_sublist {f g : α → List β} {xs : List α} (h : ∀ x ∈ xs, (f x).Sublist (g x)) :
    xs.flatMap f = xs.flatMap g ↔ ∀ x ∈ xs, f x = g x := by
  induction xs with
  | nil => simp
  | cons x xs ih =>
      obtain ⟨hx, hxs⟩ := List.forall_mem_cons.mp h
      have hrest := List.Sublist.flatMap_right xs hxs
      rw [List.flatMap_cons, List.flatMap_cons, List.forall_mem_cons, ← ih hxs]
      constructor
      · intro heq
        have hlength := congrArg List.length heq
        rw [List.length_append, List.length_append] at hlength
        have hle := hx.length_le
        have hle' := hrest.length_le
        exact ⟨hx.eq_of_length (by omega), hrest.eq_of_length (by omega)⟩
      · rintro ⟨hhead, htail⟩
        rw [hhead, htail]

end Blocks

namespace LdapDirectives

open Entry
open Yaml (Value)
open Yaml.Value (ReadsField)

/-! ## The settings that are read -/

/-- The settings are those of the fields. -/
structure AreSettings (fields : String → Option Value) (settings : Settings) : Prop where
  baseDn : ReadsField Record.optionalText none (fields "base_dn") settings.baseDn
  objectClass : ReadsField Record.text "preseedClass" (fields "object_class") settings.objectClass
  classAttribute : ReadsField Record.text "cn" (fields "class_attribute") settings.classAttribute
  preseedAttribute :
    ReadsField Record.text "preseedDirective" (fields "attribute") settings.preseedAttribute
  earlyAttribute :
    ReadsField Record.text "preseedEarlyCommand" (fields "early_attribute") settings.earlyAttribute
  lateAttribute :
    ReadsField Record.text "preseedLateCommand" (fields "late_attribute") settings.lateAttribute

theorem areSettings_default : AreSettings (fun _ => none) {} :=
  ⟨rfl, rfl, rfl, rfl, rfl, rfl⟩

theorem AreSettings.set {fields : String → Option Value} {settings settings' : Settings}
    {name : String} {v : Value} (hs : AreSettings fields settings) (hname : name ∈ shape.names)
    (h : setField settings name v = .ok settings') :
    AreSettings (Function.update fields name (some v)) settings' := by
  obtain ⟨hbase, hobject, hclass, hpreseed, hearly, hlate⟩ := hs
  simp only [shape, List.mem_cons, List.not_mem_nil, or_false] at hname
  rcases hname with rfl | rfl | rfl | rfl | rfl | rfl <;>
    obtain ⟨s, hread, h⟩ := exists_of_bind_eq_ok h <;>
    obtain rfl := Except.ok.inj h <;>
    constructor <;> simpa [Function.update_apply]

theorem areSettings_of_read {init : PluginInit} {settings : Settings}
    (h : init.read {} readSettings = .ok settings) : AreSettings init.settings.field? settings :=
  PluginInit.of_read areSettings_default
    (fun _ _ => Value.of_read rfl (fun _ _ _ _ _ hname hs hset => hs.set hname hset)
      areSettings_default) h

/-! ## The entries of a class -/

/-- Whether a name and the values of attributes are those of an entry of the class. -/
def IsOfClass (settings : Settings) (c dn : String) (values : String → List String) : Prop :=
  Scope.IsBelow (settings.baseDn.getD "") dn ∧
    (∃ v ∈ values "objectClass", Ascii.eqIgnoreCase v settings.objectClass = true) ∧
    ∃ v ∈ values settings.classAttribute, Ascii.eqIgnoreCase v c = true

instance (settings : Settings) (c dn : String) (values : String → List String) :
    Decidable (IsOfClass settings c dn values) :=
  inferInstanceAs (Decidable (_ ∧ (∃ v ∈ _, _) ∧ ∃ v ∈ _, _))

theorem found_iff_isOfClass (settings : Settings) (c : String) (e : Entry) :
    ((request settings c).scope.contains (request settings c).base e.dn &&
      (request settings c).filter.accepts e) = true ↔ IsOfClass settings c e.dn e.values := by
  change (Scope.subtree.contains (settings.baseDn.getD "") e.dn && (filter settings c).accepts e) = true ↔ _
  rw [Bool.and_eq_true, Scope.contains_subtree_iff, IsOfClass]
  simp [filter, Filter.accepts, Filter.acceptsAll]

/-- An entry is of no class for which its values do not speak. -/
theorem IsOfClass.mono {settings : Settings} {c dn : String} {values others : String → List String}
    (hsub : ∀ name, values name ⊆ others name) (h : IsOfClass settings c dn values) :
    IsOfClass settings c dn others := by
  obtain ⟨hbelow, ⟨v, hv, hobject⟩, w, hw, hclass⟩ := h
  exact ⟨hbelow, ⟨v, hsub _ hv, hobject⟩, w, hsub _ hw, hclass⟩

/-- What an entry with these values has for a hook and a class. -/
def entryLines (settings : Settings) (hook : Hook) (c dn : String) (values : String → List String) :
    List String :=
  if IsOfClass settings c dn values then (attribute? settings hook).toList.flatMap values else []

/-- What entries show for a hook: class after class, and entry after entry of the class. -/
def shownLines (settings : Settings) (client : Client) (hook : Hook) (entries : List Entry) :
    List String :=
  client.classes.flatMap fun c => entries.flatMap fun e => entryLines settings hook c e.dn e.values

/-- The same of all values that were given to the entries. -/
def givenLines (settings : Settings) (client : Client) (hook : Hook)
    (built : List (String × List (String × String))) : List String :=
  client.classes.flatMap fun c =>
    built.flatMap fun b => entryLines settings hook c b.1 (givenValues b.2)

theorem classLines_session {d : Directory} (h : d.searchError = none) (settings : Settings)
    (hook : Hook) (c : String) :
    classLines settings d.session hook c =
      d.entries.flatMap fun e => entryLines settings hook c e.dn e.values := by
  have hfound : found settings d.session c = d.entries.filter fun e =>
      decide (IsOfClass settings c e.dn e.values) := by
    have hsearch : d.session.search (request settings c) = .ok (d.entries.filter fun e =>
        (request settings c).scope.contains (request settings c).base e.dn &&
          (request settings c).filter.accepts e) := by
      change d.search (request settings c) = _
      rw [Directory.search, h]
    rw [found, hsearch]
    refine List.filter_congr fun e _ => ?_
    rw [Bool.eq_iff_iff, found_iff_isOfClass, decide_eq_true_iff]
  unfold classLines entryLines
  rw [hfound]
  cases attribute? settings hook with
  | none => simp
  | some name => simp [valuesOf, flatMap_filter_eq]

/-! ## Values that are not shown -/

/-- No value of the hook's attribute is hidden in an entry of one of the client's classes, and no such entry
is hidden itself. -/
def HidesNothing (settings : Settings) (client : Client) (hook : Hook)
    (built : List (String × List (String × String))) : Prop :=
  ∀ c ∈ client.classes, ∀ b ∈ built, IsOfClass settings c b.1 (givenValues b.2) →
    ∀ name, attribute? settings hook = some name → givenValues b.2 name ≠ [] →
      IsOfClass settings c b.1 (ofGiven b.1 b.2).values ∧ SpelledAlike b.2 name

theorem entryLines_sublist (settings : Settings) (hook : Hook) (c dn : String)
    (given : List (String × String)) :
    (entryLines settings hook c dn (ofGiven dn given).values).Sublist
      (entryLines settings hook c dn (givenValues given)) := by
  unfold entryLines
  by_cases hshown : IsOfClass settings c dn (ofGiven dn given).values
  · have hgiven := hshown.mono fun name => (values_sublist dn given name).subset
    rw [if_pos hshown, if_pos hgiven]
    exact List.Sublist.flatMap_right _ fun name _ => values_sublist dn given name
  · rw [if_neg hshown]
    exact List.nil_sublist _

theorem entryLines_eq_iff (settings : Settings) (hook : Hook) (c dn : String)
    (given : List (String × String)) :
    entryLines settings hook c dn (ofGiven dn given).values =
        entryLines settings hook c dn (givenValues given) ↔
      (IsOfClass settings c dn (givenValues given) →
        ∀ name, attribute? settings hook = some name → givenValues given name ≠ [] →
          IsOfClass settings c dn (ofGiven dn given).values ∧ SpelledAlike given name) := by
  have hmono : IsOfClass settings c dn (ofGiven dn given).values →
      IsOfClass settings c dn (givenValues given) :=
    IsOfClass.mono fun name => (values_sublist dn given name).subset
  unfold entryLines
  cases attribute? settings hook with
  | none => simp
  | some name =>
      by_cases hgiven : IsOfClass settings c dn (givenValues given)
      · by_cases hshown : IsOfClass settings c dn (ofGiven dn given).values
        · rw [if_pos hshown, if_pos hgiven, Option.toList_some, List.flatMap_singleton,
            List.flatMap_singleton, values_eq_iff]
          constructor
          · intro halike _ other hother _
            obtain rfl := Option.some.inj hother
            exact ⟨hshown, halike⟩
          · intro hall
            by_cases hnone : givenValues given name = []
            · rw [← values_eq_iff dn, hnone]
              exact List.sublist_nil.mp (hnone ▸ values_sublist dn given name)
            · exact (hall hgiven name rfl hnone).2
        · rw [if_neg hshown, if_pos hgiven, Option.toList_some, List.flatMap_singleton]
          constructor
          · intro heq _ other hother hne
            obtain rfl := Option.some.inj hother
            exact absurd heq.symm hne
          · intro hall
            by_contra hne
            exact hshown (hall hgiven name rfl (Ne.symm hne)).1
      · simp [hgiven, mt hmono hgiven]

/-- The lines are those of all given values if and only if nothing is hidden. -/
theorem shownLines_eq_iff (settings : Settings) (client : Client) (hook : Hook)
    (built : List (String × List (String × String))) :
    shownLines settings client hook (built.map fun b => ofGiven b.1 b.2) =
        givenLines settings client hook built ↔ HidesNothing settings client hook built := by
  have hclass (c : String) : ((built.map fun b => ofGiven b.1 b.2).flatMap fun e =>
      entryLines settings hook c e.dn e.values) =
      built.flatMap fun b => entryLines settings hook c b.1 (ofGiven b.1 b.2).values := by
    rw [List.flatMap_map]
    refine List.flatMap_congr fun b _ => ?_
    rw [dn_ofGiven]
  unfold shownLines givenLines HidesNothing
  simp only [hclass]
  -- Each block is part of that of the given values, so equal lines are equal block by block.
  have hblock (c : String) (b : String × List (String × String)) :=
    entryLines_sublist settings hook c b.1 b.2
  rw [flatMap_eq_iff_of_sublist fun c _ => List.Sublist.flatMap_right built fun b _ => hblock c b]
  refine forall₂_congr fun c _ => ?_
  rw [flatMap_eq_iff_of_sublist fun b _ => hblock c b]
  exact forall₂_congr fun b _ => entryLines_eq_iff settings hook c b.1 b.2

/-- Nothing is hidden where the names that are asked for were given under one spelling each. -/
theorem hidesNothing_of_spelledAlike {settings : Settings} {hook : Hook}
    {built : List (String × List (String × String))}
    (h : ∀ b ∈ built,
      ∀ name ∈ ["objectClass", settings.classAttribute] ++ (attribute? settings hook).toList,
        SpelledAlike b.2 name) (client : Client) :
    HidesNothing settings client hook built := by
  rintro c - b hb ⟨hbelow, hobject, hclass⟩ name hname -
  have halike : SpelledAlike b.2 "objectClass" := h b hb _ (by simp)
  have halike' : SpelledAlike b.2 settings.classAttribute := h b hb _ (by simp)
  refine ⟨⟨hbelow, ?_, ?_⟩, h b hb name (by simp [hname])⟩
  · rwa [values_of_spelledAlike halike]
  · rwa [values_of_spelledAlike halike']

/-! ## Set-ups -/

/-- The search for each of the client's classes succeeds with these entries. -/
def Finds (settings : Settings) (session : Session) (client : Client) (found : List (List Entry)) :
    Prop :=
  List.Forall₂ (fun c entries => session.search (request settings c) = .ok entries) client.classes found

/-- The search for one of the client's classes fails, and it is the first that does. -/
def FailsWith (settings : Settings) (session : Session) (client : Client) (e : DirectoryError) : Prop :=
  ∃ front c rest, client.classes = front ++ c :: rest ∧
    (∀ d ∈ front, ∃ entries, session.search (request settings d) = .ok entries) ∧
    session.search (request settings c) = .error e

/-- What is held behind some calls, each made while the directory answers in a way of its own. -/
def held (settings : Settings) (client : Client) (calls : List (Session × Hook)) : List Entry :=
  calls.foldl (fun entries c => (call settings c.1 client c.2 entries).state) []

variable {settings : Settings} {session : Session} {client : Client}

theorem collect_of_forall₂ {cs : List String} {found : List (List Entry)}
    (h : List.Forall₂ (fun c entries => session.search (request settings c) = .ok entries) cs found) :
    collect settings session cs = .ok found.flatten := by
  induction h with
  | nil => rfl
  | cons hsearch _ ih =>
      rw [collect, hsearch, ih]
      rfl

theorem collect_of_fails {front rest : List String} {c : String} {e : DirectoryError}
    (hfront : ∀ d ∈ front, ∃ entries, session.search (request settings d) = .ok entries)
    (h : session.search (request settings c) = .error e) :
    collect settings session (front ++ c :: rest) = .error e := by
  induction front with
  | nil =>
      rw [List.nil_append, collect, h]
      rfl
  | cons d front ih =>
      obtain ⟨⟨entries, hd⟩, hfront⟩ := List.forall_mem_cons.mp hfront
      rw [List.cons_append, collect, hd, ih hfront]
      rfl

theorem call_setUp_of_finds {found : List (List Entry)} (h : Finds settings session client found)
    (entries : List Entry) :
    call settings session client .setUp entries = { state := found.flatten } := by
  rw [call, collect_of_forall₂ h]

theorem call_setUp_of_fails {e : DirectoryError} (h : FailsWith settings session client e)
    (entries : List Entry) :
    call settings session client .setUp entries =
      { state := entries, failure := some (.directory e) } := by
  obtain ⟨front, c, rest, hclasses, hfront, hc⟩ := h
  rw [call, hclasses, collect_of_fails hfront hc]

theorem call_of_ne {hook : Hook} (h : hook ≠ .setUp) (entries : List Entry) :
    call settings session client hook entries =
      { state := entries
        lines := (attribute? settings hook).toList.flatMap fun name => valuesOf name entries } := by
  cases hook with
  | setUp => exact absurd rfl h
  | tearDown => rfl
  | preseed => simp [call, attribute?]
  | scriptEarly => simp [call, attribute?]
  | scriptLate => simp [call, attribute?]

/-- Calls without a set-up that succeeds keep what is held. -/
theorem foldl_call_of_fails {calls : List (Session × Hook)}
    (h : ∀ c ∈ calls, c.2 = .setUp → ∃ e, FailsWith settings c.1 client e) (entries : List Entry) :
    calls.foldl (fun entries c => (call settings c.1 client c.2 entries).state) entries = entries := by
  induction calls with
  | nil => rfl
  | cons c calls ih =>
      obtain ⟨hc, hcalls⟩ := List.forall_mem_cons.mp h
      have hstep : (call settings c.1 client c.2 entries).state = entries := by
        by_cases hsetUp : c.2 = .setUp
        · obtain ⟨e, he⟩ := hc hsetUp
          rw [hsetUp, call_setUp_of_fails he]
        · rw [call_of_ne hsetUp]
      rw [List.foldl_cons, hstep, ih hcalls]

theorem held_of_found {found : List (List Entry)} (h : Finds settings session client found)
    (before : List (Session × Hook)) {later : List (Session × Hook)}
    (hlater : ∀ c ∈ later, c.2 = .setUp → ∃ e, FailsWith settings c.1 client e) :
    held settings client (before ++ (session, .setUp) :: later) = found.flatten := by
  rw [held, List.foldl_append, List.foldl_cons, call_setUp_of_finds h, foldl_call_of_fails hlater]

theorem finds_session {d : Directory} (h : d.searchError = none) (settings : Settings)
    (client : Client) :
    Finds settings d.session client (client.classes.map (found settings d.session)) := by
  rw [Finds, List.forall₂_map_right_iff]
  refine List.forall₂_same.mpr fun c _ => ?_
  have hsearch : (d.session.search (request settings c)).isOk = true := by
    change (d.search (request settings c)).isOk = true
    rw [Directory.search, h]
    rfl
  unfold found
  cases hc : d.session.search (request settings c) with
  | ok entries => rfl
  | error e =>
      rw [hc] at hsearch
      cases hsearch

/-- What a directory's entries give a hook is what they show. -/
theorem flatMap_valuesOf_eq_shownLines {d : Directory} (h : d.searchError = none) (settings : Settings)
    (client : Client) (hook : Hook) :
    ((attribute? settings hook).toList.flatMap fun name =>
      valuesOf name (client.classes.map (found settings d.session)).flatten) =
      shownLines settings client hook d.entries := by
  rw [← List.flatMap_def, ← classLines_flatMap, shownLines]
  exact List.flatMap_congr fun c _ => classLines_session h settings hook c

/-! ## The contract -/

/-- What the plugin does for a client, however the directory answers each search. -/
structure Behaves (settings : Settings) (client : Client) : Prop where
  /-- A set-up writes nothing, and replaces what is held by what it finds. -/
  setUp_finds : ∀ session found entries out, Finds settings session client found →
    (plugin settings session client).call .setUp out entries = { state := found.flatten }
  /-- A set-up that fails gives the first search's error and keeps what is held. -/
  setUp_fails : ∀ session e entries out, FailsWith settings session client e →
    (plugin settings session client).call .setUp out entries =
      { state := entries, failure := some (.directory e) }
  /-- Any other hook writes what the entries held show of its attribute. -/
  writes : ∀ session hook entries out, hook ≠ .setUp →
    (plugin settings session client).call hook out entries =
      { state := entries
        lines := (attribute? settings hook).toList.flatMap fun name => valuesOf name entries }
  /-- Before a set-up succeeds nothing is held and nothing is written. -/
  silent : ∀ calls, (∀ c ∈ calls, c.2 = .setUp → ∃ e, FailsWith settings c.1 client e) →
    held settings client calls = [] ∧ ∀ session hook out, hook ≠ .setUp →
      ((plugin settings session client).call hook out (held settings client calls)).lines = []
  /-- Behind any calls the last set-up that succeeded counts. -/
  held_last : ∀ before session found later, Finds settings session client found →
    (∀ c ∈ later, c.2 = .setUp → ∃ e, FailsWith settings c.1 client e) →
    held settings client (before ++ (session, .setUp) :: later) = found.flatten
  /-- With a directory in memory a run goes through, and each hook writes what the entries show. -/
  inMemory : ∀ d : Directory, d.searchError = none → ∀ name kind hooks out,
    let r := LoadedPlugin.runHooks ⟨name, kind, plugin settings d.session client⟩ (.setUp :: hooks) out
    r.failure = none ∧
      r.output.lines = out.lines ++ hooks.flatMap fun hook => shownLines settings client hook d.entries
  /-- That is what was given to the entries if and only if they hide nothing. -/
  shown_iff : ∀ hook built,
    shownLines settings client hook (built.map fun b => ofGiven b.1 b.2) =
      givenLines settings client hook built ↔ HidesNothing settings client hook built

theorem runHooks_inMemory {d : Directory} (h : d.searchError = none) (settings : Settings)
    (client : Client) (name kind : String) (hooks : List Hook) (out : Output) :
    let r := LoadedPlugin.runHooks ⟨name, kind, plugin settings d.session client⟩ (.setUp :: hooks) out
    r.failure = none ∧
      r.output.lines =
        out.lines ++ hooks.flatMap fun hook => shownLines settings client hook d.entries := by
  -- Behind the set-up the plugin keeps its state: another set-up finds the same entries.
  let entries := (client.classes.map (found settings d.session)).flatten
  let p : LoadedPlugin (List Entry) :=
    ⟨name, kind, { plugin settings d.session client with state := entries }⟩
  have hsetUp (held : List Entry) : call settings d.session client .setUp held = { state := entries } :=
    call_setUp_of_finds (finds_session h settings client) held
  have hcall (hook : Hook) (out : Output) : p.plugin.call hook out p.plugin.state =
      { state := p.plugin.state, lines := shownLines settings client hook d.entries } := by
    change call settings d.session client hook entries = _
    rw [← flatMap_valuesOf_eq_shownLines h]
    by_cases hhook : hook = .setUp
    · rw [hhook, hsetUp]
      rfl
    · rw [call_of_ne hhook]
  have hstart : Run.call { plugins := [⟨name, kind, plugin settings d.session client⟩], output := out }
      .setUp = { plugins := [p], output := out, calls := [(name, .setUp)] } := by
    simp [Run.call, Run.callEach, plugin, hsetUp, Output.append, p]
  rw [LoadedPlugin.runHooks, List.foldl_cons, hstart]
  exact Run.foldl_call_of_stateless hcall hooks out _

theorem behaves (settings : Settings) (client : Client) : Behaves settings client where
  setUp_finds _ _ entries _ h := call_setUp_of_finds h entries
  setUp_fails _ _ entries _ h := call_setUp_of_fails h entries
  writes _ _ entries _ h := call_of_ne h entries
  silent calls h := by
    have hheld : held settings client calls = [] := foldl_call_of_fails h []
    refine ⟨hheld, fun session hook out hhook => ?_⟩
    rw [hheld]
    change (call settings session client hook []).lines = []
    rw [call_of_ne hhook]
    simp [valuesOf]
  held_last before _ _ _ h hlater := held_of_found h before hlater
  inMemory _ h name kind hooks out := runHooks_inMemory h settings client name kind hooks out
  shown_iff hook built := shownLines_eq_iff settings client hook built

/-- Settings that are accepted have a base, and a plugin made with them writes the lines that the directory
shows for the client's classes, in whichever session it was made. -/
theorem behaves_of_factory {init : PluginInit} {p : Plugin (List Entry)} (h : factory init = .ok p) :
    ∃ settings, AreSettings init.settings.field? settings ∧ settings.baseDn.getD "" ≠ "" ∧
      p = plugin settings init.session init.client ∧
      (∀ session, factory { init with session } = .ok (plugin settings session init.client)) ∧
      Behaves settings init.client := by
  rw [Builtin.ldapDirectives_factory_eq] at h
  obtain ⟨settings, hsettings, h⟩ := exists_of_bind_eq_ok h
  obtain ⟨u, hcheck, h⟩ := exists_of_bind_eq_ok h
  obtain rfl := Except.ok.inj h
  have hfactory (session : Session) :
      factory { init with session } = .ok (plugin settings session init.client) := by
    rw [Builtin.ldapDirectives_factory_eq]
    change (init.read {} readSettings).bind _ = _
    rw [hsettings, Except.bind, hcheck]
    rfl
  have hbase : settings.baseDn.getD "" ≠ "" := by
    intro hempty
    rw [Builtin.checkLdapDirectives, hempty] at hcheck
    cases hcheck
  exact ⟨settings, areSettings_of_read hsettings, hbase, rfl, hfactory, behaves settings init.client⟩

/-- Entries that spell each attribute in one way of their own, in another order than the client's classes. -/
theorem behaves_of_factory_of_classes :
    let built : List (String × List (String × String)) := [
      ("CN=web,O=lab", [("OBJECTCLASS", "PreseedClass"), ("CN", "WEB"),
        ("preseedlatecommand", "echo web 1 {ip}"), ("preseedlatecommand", "echo web 2")]),
      ("cn=gpu,o=lab", [("objectClass", "preseedClass"), ("cn", "gpu"),
        ("preseedLateCommand", "echo gpu")]),
      ("cn=gpu,o=office", [("objectClass", "preseedClass"), ("cn", "gpu"),
        ("preseedLateCommand", "echo office")])]
    let init : PluginInit := {
      name := "Test"
      settings := .mapping [(.text "base_dn", .text "o=lab")]
      session := (Directory.ofEntries (built.map fun b => ofGiven b.1 b.2)).session
      client := ((Client.builder (.v4 ⟨10, 0, 0, 5⟩)).applyParams
        (Params.parse "class=gpu&class=web")).build }
    ∃ settings, factory init = .ok (plugin settings init.session init.client) ∧
      HidesNothing settings init.client .scriptLate built ∧
      (LoadedPlugin.runHooks ⟨"Test", kind, plugin settings init.session init.client⟩
        [.setUp, .scriptLate] {}).output.lines = ["echo gpu", "echo web 1 {ip}", "echo web 2"] := by
  intro built init
  obtain ⟨⟨base, object, cls, preseed, early, late⟩, hsettings, -, -, hfactory, hbehaves⟩ :=
    @behaves_of_factory init _ rfl
  obtain ⟨hbase, hobject, hcls, hpreseed, hearly, hlate⟩ := hsettings
  obtain rfl : some "o=lab" = base := Except.ok.inj hbase
  obtain ⟨rfl, rfl, rfl, rfl, rfl⟩ : object = "preseedClass" ∧ cls = "cn" ∧
    preseed = "preseedDirective" ∧ early = "preseedEarlyCommand" ∧ late = "preseedLateCommand" :=
      ⟨hobject, hcls, hpreseed, hearly, hlate⟩
  have hhides : HidesNothing { baseDn := some "o=lab" } init.client .scriptLate built :=
    hidesNothing_of_spelledAlike (by decide +kernel) init.client
  refine ⟨_, hfactory init.session, hhides, ?_⟩
  obtain ⟨-, hlines⟩ := hbehaves.inMemory (Directory.ofEntries (built.map fun b => ofGiven b.1 b.2))
    rfl "Test" kind [.scriptLate] {}
  refine hlines.trans ?_
  rw [List.nil_append, List.flatMap_singleton]
  exact ((hbehaves.shown_iff .scriptLate built).mpr hhides).trans (by decide +kernel)

/-- A command under one spelling hides that under another. -/
theorem lines_hidden :
    let built : List (String × List (String × String)) := [
      ("cn=gpu,o=lab", [("objectClass", "preseedClass"), ("cn", "gpu"),
        ("PRESEEDLATECOMMAND", "echo one"), ("preseedLateCommand", "echo two")])]
    let init : PluginInit := {
      name := "Test"
      settings := .mapping [(.text "base_dn", .text "o=lab")]
      session := (Directory.ofEntries (built.map fun b => ofGiven b.1 b.2)).session
      client := ((Client.builder (.v4 ⟨10, 0, 0, 5⟩)).applyParams (Params.parse "class=gpu")).build }
    let settings : Settings := { baseDn := some "o=lab" }
    let p := plugin settings init.session init.client
    factory init = .ok p ∧
      (LoadedPlugin.runHooks ⟨"Test", kind, p⟩ [.setUp, .scriptLate] {}).output.lines = ["echo one"] ∧
      givenLines settings init.client .scriptLate built = ["echo one", "echo two"] := by
  intro built init settings p
  exact ⟨rfl, by decide +kernel, by decide +kernel⟩

end LdapDirectives

end Preseed
