import Preseed.Proofs.Record.Fields
import Preseed.Record.Source

/-! # Records by their values

Whatever source a record is read from, each of its values is what was read under the value's name, or the
default where the name is not there. No name of the record's is there twice, and other names do not count. -/

namespace Preseed.Record

variable {ν φ α V : Type} [Source ν φ]

/-- The name that a key is. -/
def nameOf (key : ν) : Option String :=
  (Source.text "field identifier" key).toOption

theorem nameOf_eq_some {key : ν} {name : String} (h : Source.text "field identifier" key = .ok name) :
    nameOf key = some name := by
  rw [nameOf, h]
  rfl

/-- What stands under a name. -/
def named (given : List (ν × ν)) (name : String) : Option ν :=
  given.findSome? fun e => if nameOf e.1 = some name then some e.2 else none

theorem named_cons_self {key : ν} {name : String} (h : nameOf key = some name) (v : ν)
    (rest : List (ν × ν)) : named ((key, v) :: rest) name = some v := by
  rw [named, List.findSome?_cons, if_pos h]

theorem named_cons_of_ne {e : ν × ν} {name : String} (h : nameOf e.1 ≠ some name)
    (rest : List (ν × ν)) : named (e :: rest) name = named rest name := by
  rw [named, List.findSome?_cons, if_neg h]
  rfl

theorem named_eq_none_iff {given : List (ν × ν)} {name : String} :
    named given name = none ↔ ∀ e ∈ given, nameOf e.1 ≠ some name := by
  rw [named, List.findSome?_eq_none_iff]
  refine forall₂_congr fun e _ => ?_
  split
  · rename_i h
    exact iff_of_false (by simp) fun hne => hne h
  · rename_i h
    exact iff_of_true rfl h

/-- A value is what was read, and the default if nothing is there. -/
def Reads (read : ν → Except φ V) (default : V) (found : Option ν) (x : V) : Prop :=
  found.elim (x = default) fun v => read v = .ok x

/-- The values of a record by their names: taking over a field reads its value and leaves the others. -/
structure IsView (shape : Shape) (set : α → String → ν → Except φ α) (value : α → String → V)
    (read : String → ν → Except φ V) : Prop where
  step : ∀ {a a' : α} {name : String} {v : ν}, name ∈ shape.names → set a name v = .ok a' →
    read name v = .ok (value a' name) ∧
      ∀ other ∈ shape.names, other ≠ name → value a' other = value a other

variable {shape : Shape} {set : α → String → ν → Except φ α} {value : α → String → V}
  {read : String → ν → Except φ V}

/-- Behind all fields a value is what stands under its name, and no name is met again. -/
theorem IsView.of_readFields (hview : IsView shape set value read) {whole : ν} {given : List (ν × ν)}
    {seen : List String} {a : α} {r : α × List String}
    (h : readFields shape set whole given seen a = .ok r) {name : String} (hname : name ∈ shape.names) :
    (name ∈ seen → named given name = none) ∧
      Reads (read name) (value a name) (named given name) (value r.1 name) := by
  induction given generalizing seen a with
  | nil =>
      obtain rfl := Except.ok.inj h
      exact ⟨fun _ => rfl, rfl⟩
  | cons e rest ih =>
      obtain ⟨key, v⟩ := e
      rw [readFields] at h
      obtain ⟨met, hmet, h⟩ := exists_of_bind_eq_ok h
      have hkey : nameOf key = some met := nameOf_eq_some hmet
      have hskip : met ≠ name → named ((key, v) :: rest) name = named rest name := fun hne =>
        named_cons_of_ne (by rw [hkey]; simpa using hne) rest
      split at h
      · rename_i hknown
        split at h
        · cases h
        · rename_i hunseen
          obtain ⟨a', ha', h⟩ := exists_of_bind_eq_ok h
          obtain ⟨hgone, hreads⟩ := ih h
          by_cases heq : met = name
          · subst heq
            have hself := (hview.step hname ha').1
            rw [hgone List.mem_cons_self] at hreads
            rw [named_cons_self hkey]
            refine ⟨fun hseen => absurd (List.contains_iff_mem.mpr hseen) (by simpa using hunseen), ?_⟩
            exact hreads ▸ hself
          · rw [hskip heq]
            refine ⟨fun hseen => hgone (List.mem_cons_of_mem met hseen), ?_⟩
            rwa [(hview.step (List.contains_iff_mem.mp hknown) ha').2 name hname (Ne.symm heq)] at hreads
      · rename_i hunknown
        split at h
        · cases h
        · have hne : met ≠ name := by
            rintro rfl
            exact hunknown (List.contains_iff_mem.mpr hname)
          rw [hskip hne]
          exact ih h

/-- Keys that are texts, where no name of the record's stands twice. -/
def AreNames (shape : Shape) (given : List (ν × ν)) : Prop :=
  (∀ e ∈ given, ∃ name, nameOf e.1 = some name) ∧
    given.Pairwise fun e e' => ∀ name ∈ shape.names, nameOf e.1 = some name → nameOf e'.1 ≠ some name

theorem IsView.areNames (hview : IsView shape set value read) {whole : ν} {given : List (ν × ν)}
    {seen : List String} {a : α} {r : α × List String}
    (h : readFields shape set whole given seen a = .ok r) : AreNames shape given := by
  induction given generalizing seen a with
  | nil => exact ⟨by simp, .nil⟩
  | cons e rest ih =>
      obtain ⟨key, v⟩ := e
      rw [readFields] at h
      obtain ⟨met, hmet, h⟩ := exists_of_bind_eq_ok h
      have hkey : nameOf key = some met := nameOf_eq_some hmet
      suffices hrest : AreNames shape rest ∧ (met ∈ shape.names → named rest met = none) by
        refine ⟨List.forall_mem_cons.mpr ⟨⟨met, hkey⟩, hrest.1.1⟩,
          List.pairwise_cons.mpr ⟨fun e' he' name hname heq => ?_, hrest.1.2⟩⟩
        obtain rfl := Option.some.inj (hkey.symm.trans heq)
        exact named_eq_none_iff.mp (hrest.2 hname) e' he'
      split at h
      · split at h
        · cases h
        · obtain ⟨a', ha', h⟩ := exists_of_bind_eq_ok h
          exact ⟨ih h, fun hname => (hview.of_readFields h hname).1 List.mem_cons_self⟩
      · rename_i hunknown
        split at h
        · cases h
        · exact ⟨ih h, fun hname => absurd (List.contains_iff_mem.mpr hname) hunknown⟩

/-- Values are read of the fields that a record is given, each name once. -/
theorem IsView.of_read (hview : IsView shape set value read) {whole : ν} {start a : α}
    (h : Record.read shape start set whole = .ok a) :
    ∃ given, Source.fields shape.expected shape.names whole = .ok given ∧ AreNames shape given ∧
      ∀ name ∈ shape.names,
        Reads (read name) (value start name) (named given name) (value a name) := by
  obtain ⟨given, hgiven, h⟩ := exists_of_bind_eq_ok h
  obtain ⟨⟨a', seen⟩, hr, h⟩ := exists_of_bind_eq_ok h
  refine ⟨given, hgiven, hview.areNames hr, fun name hname => ?_⟩
  have hreads := (hview.of_readFields hr hname).2
  dsimp only at h
  split at h
  · cases h
  · obtain rfl := Except.ok.inj h
    exact hreads

end Preseed.Record
