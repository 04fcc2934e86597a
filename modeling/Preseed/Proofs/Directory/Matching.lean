import Mathlib.Data.List.Basic
import Preseed.Directory.Classes

/-! # The classes of a client

Which entries a look-up of classes finds, said of the entries themselves: where they lie, and which values
their attributes have in any spelling. An entry that spells an attribute in two cases shows only the values
of one of them, so the attributes are taken to be spelled in one case each. -/

namespace Preseed

/-! ## Values -/

namespace Entry

/-- All values of an attribute, whichever spellings of its name they are kept under. -/
def allValues (e : Entry) (name : String) : List String :=
  (e.attributes.filter fun a => Ascii.eqIgnoreCase a.1 name).flatMap Prod.snd

/-- Whether each attribute is spelled in one case only. -/
def SpellsOnce (e : Entry) : Prop :=
  e.attributes.Pairwise fun a b => Ascii.lower a.1 ≠ Ascii.lower b.1

instance (e : Entry) : Decidable e.SpellsOnce :=
  inferInstanceAs (Decidable (List.Pairwise _ _))

theorem values_eq_allValues {e : Entry} (h : e.SpellsOnce) (name : String) :
    e.values name = e.allValues name := by
  have hname : ∀ a ∈ e.attributes.filter fun a => Ascii.eqIgnoreCase a.1 name,
      Ascii.lower a.1 = Ascii.lower name := fun a ha => eq_of_beq (List.mem_filter.mp ha).2
  have hone := h.filter fun a => Ascii.eqIgnoreCase a.1 name
  rw [values, allValues, ← List.head?_filter]
  cases hfound : e.attributes.filter fun a => Ascii.eqIgnoreCase a.1 name with
  | nil => rfl
  | cons a rest =>
      cases rest with
      | nil => exact (List.append_nil a.2).symm
      | cons b rest =>
          rw [hfound] at hname hone
          have hne := List.rel_of_pairwise_cons hone List.mem_cons_self
          exact absurd ((hname a (by simp)).trans (hname b (by simp)).symm) hne

end Entry

/-! ## Subtrees -/

namespace Scope

theorem stripSuffix?_eq_some_iff {suffix cs above : List Char} :
    stripSuffix? suffix cs = some above ↔ cs = above ++ suffix := by
  unfold stripSuffix?
  constructor
  · intro h
    split at h
    · rename_i hsuffix
      obtain ⟨front, rfl⟩ := List.isSuffixOf_iff_suffix.mp hsuffix
      have htake : (front ++ suffix).take ((front ++ suffix).length - suffix.length) = front := by
        simp
      rw [htake] at h
      rw [Option.some.inj h]
    · cases h
  · rintro rfl
    rw [if_pos (List.isSuffixOf_iff_suffix.mpr (List.suffix_append above suffix))]
    simp

/-- Whether a name lies in the subtree of a base, without regard to ASCII case. Everything lies in the
subtree of the empty name. -/
def IsBelow (base dn : String) : Prop :=
  base = "" ∨ Ascii.lower dn = Ascii.lower base ∨
    ∃ above, Ascii.lower dn = above ++ "," ++ Ascii.lower base

theorem covers_subtree_iff {base dn : List Char} :
    subtree.covers base dn = true ↔
      base = [] ∨ dn = base ∨ ∃ above, dn = above ++ ',' :: base := by
  have hlast : ((stripSuffix? base dn).any fun above => above.getLast? == some ',') = true ↔
      ∃ above, dn = above ++ ',' :: base := by
    rw [Option.any_eq_true]
    constructor
    · rintro ⟨front, hfront, hcomma⟩
      rw [beq_iff_eq] at hcomma
      obtain ⟨above, rfl⟩ := List.getLast?_eq_some_iff.mp hcomma
      refine ⟨above, ?_⟩
      rw [stripSuffix?_eq_some_iff.mp hfront, List.append_assoc, List.singleton_append]
    · rintro ⟨above, rfl⟩
      refine ⟨above ++ [','], stripSuffix?_eq_some_iff.mpr ?_, by simp⟩
      rw [List.append_assoc, List.singleton_append]
  unfold covers
  rw [Bool.or_eq_true, Bool.or_eq_true, hlast, List.isEmpty_iff, beq_iff_eq, or_assoc]

theorem contains_subtree_iff (base dn : String) :
    subtree.contains base dn = true ↔ IsBelow base dn := by
  have hempty : (Ascii.lower base).toList = [] ↔ base = "" := by
    rw [Ascii.lower, String.toList_ofList, List.map_eq_nil_iff, String.toList_eq_nil_iff]
  have habove : (∃ above, (Ascii.lower dn).toList = above ++ ',' :: (Ascii.lower base).toList) ↔
      ∃ above, Ascii.lower dn = above ++ "," ++ Ascii.lower base := by
    constructor
    · rintro ⟨above, h⟩
      refine ⟨String.ofList above, String.toList_inj.mp ?_⟩
      simpa using h
    · rintro ⟨above, h⟩
      refine ⟨above.toList, ?_⟩
      simp [h]
  rw [contains, covers_subtree_iff, hempty, habove, String.toList_inj, IsBelow]

instance (base dn : String) : Decidable (IsBelow base dn) :=
  decidable_of_iff _ (contains_subtree_iff base dn)

end Scope

/-! ## Classes -/

namespace ClassLookup

/-- Whether an entry passes the look-up for a client. It shows a value equal to the object class, and one equal
to the client's name; no character of these stands for others. -/
structure Passes (lookup : ClassLookup) (client : String) (e : Entry) : Prop where
  below : Scope.IsBelow lookup.baseDn e.dn
  objectClass : ∃ v ∈ e.values "objectClass", Ascii.eqIgnoreCase v lookup.objectClass = true
  member : ∃ v ∈ e.values lookup.memberAttribute, Ascii.eqIgnoreCase v client = true

theorem passes_iff {lookup : ClassLookup} {client : String} {e : Entry} :
    lookup.Passes client e ↔
      Scope.IsBelow lookup.baseDn e.dn ∧
        (∃ v ∈ e.values "objectClass", Ascii.eqIgnoreCase v lookup.objectClass = true) ∧
        ∃ v ∈ e.values lookup.memberAttribute, Ascii.eqIgnoreCase v client = true :=
  ⟨fun h => ⟨h.below, h.objectClass, h.member⟩, fun ⟨hbelow, hclass, hmember⟩ =>
    ⟨hbelow, hclass, hmember⟩⟩

instance (lookup : ClassLookup) (client : String) : DecidablePred (lookup.Passes client) :=
  fun _ => decidable_of_iff _ passes_iff.symm

theorem found_iff_passes {lookup : ClassLookup} {client : String} {e : Entry} :
    ((lookup.request client).scope.contains (lookup.request client).base e.dn &&
      (lookup.request client).filter.accepts e) = true ↔ lookup.Passes client e := by
  change (Scope.subtree.contains lookup.baseDn e.dn && (lookup.filter client).accepts e) = true ↔ _
  rw [Bool.and_eq_true, Scope.contains_subtree_iff, passes_iff]
  simp [filter, Filter.accepts, Filter.acceptsAll]

/-- Whether an entry is a class that lists a client by its name. -/
structure Lists (lookup : ClassLookup) (client : String) (e : Entry) : Prop where
  below : Scope.IsBelow lookup.baseDn e.dn
  objectClass : ∃ v ∈ e.allValues "objectClass", Ascii.eqIgnoreCase v lookup.objectClass = true
  member : ∃ v ∈ e.allValues lookup.memberAttribute, Ascii.eqIgnoreCase v client = true

theorem lists_iff {lookup : ClassLookup} {client : String} {e : Entry} :
    lookup.Lists client e ↔
      Scope.IsBelow lookup.baseDn e.dn ∧
        (∃ v ∈ e.allValues "objectClass", Ascii.eqIgnoreCase v lookup.objectClass = true) ∧
        ∃ v ∈ e.allValues lookup.memberAttribute, Ascii.eqIgnoreCase v client = true :=
  ⟨fun h => ⟨h.below, h.objectClass, h.member⟩, fun ⟨hbelow, hclass, hmember⟩ =>
    ⟨hbelow, hclass, hmember⟩⟩

instance (lookup : ClassLookup) (client : String) : DecidablePred (lookup.Lists client) :=
  fun _ => decidable_of_iff _ lists_iff.symm

/-- The classes that list a client, in the order of the entries. -/
def listing (lookup : ClassLookup) (client : String) (entries : List Entry) : List String :=
  (entries.filter (lookup.Lists client ·)).flatMap fun e => e.allValues lookup.classAttribute

theorem found_iff_lists {e : Entry} (h : e.SpellsOnce) (lookup : ClassLookup) (client : String) :
    ((lookup.request client).scope.contains (lookup.request client).base e.dn &&
      (lookup.request client).filter.accepts e) = true ↔ lookup.Lists client e := by
  rw [found_iff_passes, passes_iff, lists_iff]
  simp only [Entry.values_eq_allValues h]

/-- A look-up finds the classes that list the client. -/
theorem flatMap_found_eq_listing {entries : List Entry} (h : ∀ e ∈ entries, e.SpellsOnce)
    (lookup : ClassLookup) (client : String) :
    ((entries.filter fun e => (lookup.request client).scope.contains (lookup.request client).base e.dn &&
      (lookup.request client).filter.accepts e).flatMap fun e => e.values lookup.classAttribute) =
      lookup.listing client entries := by
  have hfilter : (entries.filter fun e =>
      (lookup.request client).scope.contains (lookup.request client).base e.dn &&
        (lookup.request client).filter.accepts e) = entries.filter (lookup.Lists client ·) := by
    apply List.filter_congr
    intro e he
    rw [Bool.eq_iff_iff, found_iff_lists (h e he), decide_eq_true_iff]
  have hvalues : ∀ e ∈ entries.filter (lookup.Lists client ·),
      e.values lookup.classAttribute = e.allValues lookup.classAttribute := fun e he =>
    Entry.values_eq_allValues (h e (List.mem_of_mem_filter he)) _
  rw [hfilter, listing]
  exact List.flatMap_congr hvalues

theorem listing_eq_nil {entries : List Entry} {lookup : ClassLookup} {client : String}
    (h : ∀ e ∈ entries, ¬ lookup.Lists client e) : lookup.listing client entries = [] := by
  have hfilter : entries.filter (lookup.Lists client ·) = [] := by
    simpa using h
  rw [listing, hfilter, List.flatMap_nil]

end ClassLookup

end Preseed
