import Mathlib.Data.List.Forall2
import Mathlib.Logic.Function.Basic
import Preseed.Plugin.Basic

/-! # Records by their fields

A record that was read from a mapping has in each field what the value under the field's name was read as,
and the default where there is none. Of several keys with one name the last counts. -/

namespace Preseed

/-! ## Results -/

section Results

variable {ε α β : Type}

/-- Steps succeed only if the first one does and the others do with its result. -/
theorem exists_of_bind_eq_ok {x : Except ε α} {f : α → Except ε β} {b : β} (h : x >>= f = .ok b) :
    ∃ a, x = .ok a ∧ f a = .ok b := by
  cases x with
  | error e => cases h
  | ok a => exact ⟨a, rfl, h⟩

theorem exists_of_map_eq_ok {f : α → β} {x : Except ε α} {b : β} (h : x.map f = .ok b) :
    ∃ a, x = .ok a ∧ f a = b := by
  cases x with
  | error e => cases h
  | ok a => exact ⟨a, rfl, Except.ok.inj h⟩

theorem map_eq_ok {x : Except ε α} {a : α} (f : α → β) (h : x = .ok a) : f <$> x = .ok (f a) := by
  rw [h]
  rfl

theorem eq_ok_of_toOption {x : Except ε α} {a : α} (h : x.toOption = some a) : x = .ok a := by
  cases x with
  | error e => cases h
  | ok b => rw [Option.some.inj h]

theorem forall₂_of_mapM_eq_ok {f : α → Except ε β} {xs : List α} {ys : List β}
    (h : xs.mapM f = .ok ys) : List.Forall₂ (fun x y => f x = .ok y) xs ys := by
  induction xs generalizing ys with
  | nil =>
      obtain rfl := Except.ok.inj h
      exact .nil
  | cons x xs ih =>
      rw [List.mapM_cons] at h
      obtain ⟨y, hy, h⟩ := exists_of_bind_eq_ok h
      obtain ⟨rest, hrest, h⟩ := exists_of_bind_eq_ok h
      obtain rfl := Except.ok.inj h
      exact .cons hy (ih hrest)

end Results

/-! ## Mappings and sequences -/

namespace Yaml.Value

open Record (Problem)

/-- The text that a value is, whatever its tags. -/
def text? (v : Value) : Option String :=
  match v.untag with
  | text s => some s
  | _ => none

/-- The keys and values of a mapping; nothing else has any. -/
def entries (v : Value) : List (Value × Value) :=
  match v.untag with
  | mapping entries => entries
  | _ => []

/-- The items of a sequence; nothing else has any. -/
def elements (v : Value) : List Value :=
  match v.untag with
  | sequence items => items
  | _ => []

theorem text?_eq_some {expected s : String} {v : Value} (h : v.readText expected = .ok s) :
    v.text? = some s := by
  unfold readText at h
  unfold text?
  generalize v.untag = u at h ⊢
  cases u with
  | text t => exact congrArg some (Except.ok.inj h)
  | _ => cases h

theorem entries_eq {expected : String} {v : Value} {found : List (Value × Value)}
    (h : v.readEntries expected = .ok found) : v.entries = found := by
  unfold readEntries at h
  unfold entries
  generalize v.untag = u at h ⊢
  cases u with
  | mapping entries => exact Except.ok.inj h
  | null => exact Except.ok.inj h
  | _ => cases h

theorem elements_eq {v : Value} {items : List Value} (h : v.readItems = .ok items) :
    v.elements = items := by
  unfold readItems at h
  unfold elements
  generalize v.untag = u at h ⊢
  cases u with
  | sequence items => exact Except.ok.inj h
  | null => exact Except.ok.inj h
  | _ => cases h

/-- The value of the last key with this name. -/
def lastOf (entries : List (Value × Value)) (name : String) : Option Value :=
  entries.reverse.findSome? fun e => if e.1.text? = some name then some e.2 else none

/-- The value in a field of a record. -/
def field? (v : Value) (name : String) : Option Value :=
  lastOf v.entries name

theorem lastOf_cons (e : Value × Value) (rest : List (Value × Value)) (name : String) :
    lastOf (e :: rest) name =
      (lastOf rest name).or (if e.1.text? = some name then some e.2 else none) := by
  rw [lastOf, List.reverse_cons, List.findSome?_append, List.findSome?_singleton]
  rfl

/-- A key counts as long as no other one of its name follows. -/
theorem lastOf_cons_or {key : Value} {name : String} (h : key.text? = some name) (value : Value)
    (rest : List (Value × Value)) (fields : String → Option Value) :
    (fun other => (lastOf ((key, value) :: rest) other).or (fields other)) = fun other =>
      (lastOf rest other).or (Function.update fields name (some value) other) := by
  funext other
  rw [lastOf_cons, Option.or_assoc, h]
  by_cases hother : other = name
  · subst hother
    rw [Function.update_self, if_pos rfl, Option.some_or]
  · rw [Function.update_of_ne hother, if_neg fun heq => hother (Option.some.inj heq).symm,
      Option.none_or]

/-- A field is read as this, and as a default if it is not there. -/
def ReadsField {α : Type} (read : Value → Except Problem α) (default : α) (field : Option Value) (a : α) :
    Prop :=
  field.elim (a = default) fun v => read v = .ok a

/-- The items of a list are read in their order, and a list that is not there has none. -/
def ReadsItems {α : Type} (item : Value → Except Problem α) (field : Option Value) (read : List α) :
    Prop :=
  List.Forall₂ (fun v a => item v = .ok a) (field.elim [] elements) read

variable {α : Type}

theorem readsItems_of_list {item : Value → Except Problem α} {v : Value} {read : List α}
    (h : Record.list item v = .ok read) : ReadsItems item (some v) read := by
  obtain ⟨items, hitems, h⟩ := exists_of_bind_eq_ok h
  rw [ReadsItems, Option.elim, elements_eq hitems]
  exact forall₂_of_mapM_eq_ok h

theorem ReadsItems.unique {item : Value → Except Problem α} {field : Option Value}
    {read other : List α} (h : ReadsItems item field read) (hother : ReadsItems item field other) :
    read = other :=
  List.right_unique_forall₂' (fun _ _ _ ha hb => Except.ok.inj (ha.symm.trans hb)) h hother

/-! ## Records -/

section Records

variable {shape : Record.Shape} {set : α → String → Value → Except Problem α}
  {P : (String → Option Value) → α → Prop}

/-- What taking over each field keeps holds behind all of them, of the fields before with these over them. -/
theorem of_readFields (hclosed : shape.closed = true)
    (hset : ∀ fields a name value a', name ∈ shape.names → P fields a → set a name value = .ok a' →
      P (Function.update fields name (some value)) a')
    {whole : Value} {given : List (Value × Value)} {seen : List String}
    {fields : String → Option Value} {a : α} {r : α × List String} (hP : P fields a)
    (h : Record.readFields shape set whole given seen a = .ok r) :
    P (fun name => (lastOf given name).or (fields name)) r.1 := by
  -- What was taken over so far stands in `fields`; the keys to come are laid over it.
  induction given generalizing seen fields a with
  | nil =>
      obtain rfl := Except.ok.inj h
      exact hP
  | cons e rest ih =>
      obtain ⟨key, value⟩ := e
      rw [Record.readFields] at h
      obtain ⟨name, hname, h⟩ := exists_of_bind_eq_ok h
      rw [lastOf_cons_or (text?_eq_some hname)]
      split at h
      · rename_i hknown
        split at h
        · cases h
        · obtain ⟨a', ha', h⟩ := exists_of_bind_eq_ok h
          exact ih (hset fields a name value a' (List.contains_iff_mem.mp hknown) hP ha') h
      · cases h

/-- What the defaults have and taking over each field keeps, a record without other fields has of its own. -/
theorem of_read (hclosed : shape.closed = true)
    (hset : ∀ fields a name value a', name ∈ shape.names → P fields a → set a name value = .ok a' →
      P (Function.update fields name (some value)) a')
    {start a : α} {v : Value} (hstart : P (fun _ => none) start)
    (h : Record.read shape start set v = .ok a) : P v.field? a := by
  obtain ⟨given, hgiven, h⟩ := exists_of_bind_eq_ok h
  obtain ⟨⟨a', seen⟩, hr, h⟩ := exists_of_bind_eq_ok h
  have hP := of_readFields hclosed hset hstart hr
  simp only [Option.or_none] at hP
  have hfields : v.field? = lastOf given := by
    funext name
    rw [field?, entries_eq hgiven]
  rw [hfields]
  dsimp only at h
  split at h
  · cases h
  · obtain rfl := Except.ok.inj h
    exact hP

end Records

end Yaml.Value

/-- Settings that are null have no fields, and are the defaults. -/
theorem PluginInit.of_read {α : Type} {P : (String → Option Yaml.Value) → α → Prop}
    {init : PluginInit} {default a : α} {read : Yaml.Value → Except Record.Problem α}
    (hdefault : P (fun _ => none) default) (hread : ∀ v a, read v = .ok a → P v.field? a)
    (h : init.read default read = .ok a) : P init.settings.field? a := by
  unfold PluginInit.read at h
  split at h
  · rename_i hnull
    obtain rfl := Except.ok.inj h
    cases hsettings : init.settings with
    | null => exact hdefault
    | _ =>
        rw [hsettings] at hnull
        cases hnull
  · split at h
    · rename_i a' ha'
      obtain rfl := Except.ok.inj h
      exact hread _ _ ha'
    · cases h

end Preseed
