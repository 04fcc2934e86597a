import Mathlib.Data.List.Induction
import Mathlib.Data.List.Perm.Basic
import Mathlib.Data.String.Basic
import Mathlib.Order.Bounds.Basic
import Preseed.Proofs.Directory.Matching

/-! # The values of an entry

An entry keeps a value under the spelling of the name that it was added with. A look-up heeds no case, but it
shows the values of one spelling only, the least. So it shows all values of an attribute if and only if they
were all added under one spelling. -/

namespace Preseed

namespace Entry

/-- The entry with the given values, added one after another. -/
def ofGiven (dn : String) (given : List (String × String)) : Entry :=
  given.foldl (fun e g => e.add g.1 g.2) (empty dn)

/-- The values given under a name in any spelling, in the order in which they were given. -/
def givenValues (given : List (String × String)) (name : String) : List String :=
  (given.filter fun g => Ascii.eqIgnoreCase g.1 name).map (·.2)

/-- The values given under exactly this spelling of a name. -/
def givenAs (given : List (String × String)) (spelling : String) : List String :=
  (given.filter fun g => decide (g.1 = spelling)).map (·.2)

/-- The spellings under which values of a name were given. -/
def spellings (given : List (String × String)) (name : String) : Set String :=
  {s | Ascii.eqIgnoreCase s name = true ∧ ∃ g ∈ given, g.1 = s}

/-- All values of a name were given under one spelling. -/
def SpelledAlike (given : List (String × String)) (name : String) : Prop :=
  ∀ g ∈ given, ∀ h ∈ given, Ascii.eqIgnoreCase g.1 name = true → Ascii.eqIgnoreCase h.1 name = true →
    g.1 = h.1

instance (given : List (String × String)) (name : String) : Decidable (SpelledAlike given name) :=
  inferInstanceAs (Decidable (∀ g ∈ given, ∀ h ∈ given, _ → _ → g.1 = h.1))

/-! ## The store -/

/-- What is kept under a spelling. -/
def kept (as : List (String × List String)) (spelling : String) : List String :=
  (as.lookup spelling).getD []

theorem mem_addValue_self {name value : String} {values : List String}
    {as : List (String × List String)} (h : as.Pairwise (·.1 < ·.1)) :
    (name, values) ∈ addValue name value as ↔ values = kept as name ++ [value] := by
  have hless {values : List String} {as : List (String × List String)}
      (hlt : ∀ a ∈ as, name < a.1) : (name, values) ∉ as :=
    fun hmem => lt_irrefl _ (hlt _ hmem)
  have hkept {as : List (String × List String)} (hlt : ∀ a ∈ as, name < a.1) :
      kept as name = [] := by
    have hnone : as.lookup name = none :=
      List.lookup_eq_none_iff.mpr fun a ha => bne_iff_ne.mpr (hlt a ha).ne
    rw [kept, hnone, Option.getD_none]
  induction as with
  | nil => simp [addValue, kept]
  | cons b rest ih =>
      obtain ⟨n, old⟩ := b
      obtain ⟨hlt, hrest⟩ := List.pairwise_cons.mp h
      rw [addValue]
      split
      · rename_i hname
        subst hname
        simp [kept, hless hlt]
      · rename_i hne
        split
        · rename_i hfirst
          have hall : ∀ a ∈ (n, old) :: rest, name < a.1 := by
            intro a ha
            rcases List.mem_cons.mp ha with rfl | ha
            · exact hfirst
            · exact hfirst.trans (hlt a ha)
          simp [hkept hall, hless hall]
        · have hother : kept ((n, old) :: rest) name = kept rest name := by
            rw [kept, List.lookup_cons, beq_false_of_ne hne, kept]
          simp [hother, Prod.ext_iff, hne, ih hrest]

@[simp] theorem attributes_ofGiven_nil (dn : String) : (ofGiven dn []).attributes = [] :=
  rfl

theorem ofGiven_concat (dn : String) (given : List (String × String)) (g : String × String) :
    ofGiven dn (given ++ [g]) = (ofGiven dn given).add g.1 g.2 := by
  rw [ofGiven, List.foldl_append]
  rfl

theorem givenAs_concat (given : List (String × String)) (g : String × String) (spelling : String) :
    givenAs (given ++ [g]) spelling =
      givenAs given spelling ++ if g.1 = spelling then [g.2] else [] := by
  by_cases h : g.1 = spelling <;> simp [givenAs, h]

/-- The store has each spelling with the values given under it, and no others. -/
theorem mem_attributes_ofGiven {dn : String} {given : List (String × String)}
    {a : String × List String} :
    a ∈ (ofGiven dn given).attributes ↔ a.2 = givenAs given a.1 ∧ a.2 ≠ [] := by
  induction given using List.reverseRecOn generalizing a with
  | nil => simp [givenAs]
  | append_singleton given g ih =>
      obtain ⟨name, value⟩ := g
      obtain ⟨s, values⟩ := a
      rw [ofGiven_concat, givenAs_concat, add]
      by_cases hs : name = s
      · subst hs
        have hkept : kept (ofGiven dn given).attributes name = givenAs given name := by
          cases hfound : (ofGiven dn given).attributes.lookup name with
          | some old =>
              obtain ⟨front, rest, heq, -⟩ := List.lookup_eq_some_iff.mp hfound
              have hmem : (name, old) ∈ (ofGiven dn given).attributes := by simp [heq]
              rw [kept, hfound, Option.getD_some]
              exact (ih.mp hmem).1
          | none =>
              by_contra hne
              rw [kept, hfound, Option.getD_none] at hne
              have hmem : (name, givenAs given name) ∈ (ofGiven dn given).attributes :=
                ih.mpr ⟨rfl, Ne.symm hne⟩
              simpa using List.lookup_eq_none_iff.mp hfound _ hmem
        rw [mem_addValue_self (ofGiven dn given).ascending, hkept, if_pos rfl]
        refine ⟨fun h => ⟨h, ?_⟩, fun h => h.1⟩
        simp [h]
      · rw [mem_addValue_of_ne (Ne.symm hs), ih, if_neg hs, List.append_nil]

/-! ## Shown values -/

theorem givenAs_ne_nil_iff {given : List (String × String)} {spelling : String} :
    givenAs given spelling ≠ [] ↔ ∃ g ∈ given, g.1 = spelling := by
  simp [givenAs]

theorem mem_spellings_of_mem {dn : String} {given : List (String × String)} {name : String}
    {a : String × List String} (h : a ∈ (ofGiven dn given).attributes)
    (hname : Ascii.eqIgnoreCase a.1 name = true) : a.1 ∈ spellings given name := by
  obtain ⟨hvalues, hne⟩ := mem_attributes_ofGiven.mp h
  rw [hvalues, givenAs_ne_nil_iff] at hne
  exact ⟨hname, hne⟩

theorem exists_mem_of_mem_spellings {given : List (String × String)} {name s : String}
    (h : s ∈ spellings given name) (dn : String) :
    ∃ a ∈ (ofGiven dn given).attributes, a.1 = s ∧ Ascii.eqIgnoreCase a.1 name = true := by
  obtain ⟨hname, hgiven⟩ := h
  exact ⟨(s, givenAs given s), mem_attributes_ofGiven.mpr ⟨rfl, givenAs_ne_nil_iff.mpr hgiven⟩, rfl,
    hname⟩

/-- Names are kept in ascending order, so the first that is found is the least. -/
theorem isLeast_of_find? {dn : String} {given : List (String × String)} {name : String}
    {a : String × List String}
    (h : (ofGiven dn given).attributes.find? (fun a => Ascii.eqIgnoreCase a.1 name) = some a) :
    IsLeast (spellings given name) a.1 := by
  obtain ⟨hname, front, rest, heq, hfront⟩ := List.find?_eq_some_iff_append.mp h
  refine ⟨mem_spellings_of_mem (List.mem_of_find?_eq_some h) hname, ?_⟩
  intro s hs
  obtain ⟨b, hb, rfl, hbname⟩ := exists_mem_of_mem_spellings hs dn
  have hsorted := (ofGiven dn given).ascending
  rw [heq] at hb hsorted
  rcases List.mem_append.mp hb with hb | hb
  · simpa [hbname] using hfront b hb
  rcases List.mem_cons.mp hb with rfl | hb
  · exact le_rfl
  · exact (List.rel_of_pairwise_cons (List.pairwise_append.mp hsorted).2.1 hb).le

theorem givenValues_eq_nil_iff {given : List (String × String)} {name : String} :
    givenValues given name = [] ↔ spellings given name = ∅ := by
  rw [givenValues, List.map_eq_nil_iff, List.filter_eq_nil_iff, Set.eq_empty_iff_forall_notMem]
  constructor
  · rintro h s ⟨hname, g, hg, rfl⟩
    exact h g hg hname
  · exact fun h g hg hname => h g.1 ⟨hname, g, hg, rfl⟩

/-- The values of the least spelling are shown; there are none only if no value was given. -/
theorem values_cases (dn : String) (given : List (String × String)) (name : String) :
    (∃ s, IsLeast (spellings given name) s ∧ (ofGiven dn given).values name = givenAs given s) ∨
      (spellings given name = ∅ ∧ (ofGiven dn given).values name = []) := by
  unfold values
  cases hfound : (ofGiven dn given).attributes.find? fun a => Ascii.eqIgnoreCase a.1 name with
  | some a =>
      exact .inl ⟨a.1, isLeast_of_find? hfound,
        (mem_attributes_ofGiven.mp (List.mem_of_find?_eq_some hfound)).1⟩
  | none =>
      refine .inr ⟨Set.eq_empty_of_forall_notMem fun s hs => ?_, rfl⟩
      obtain ⟨a, ha, -, hname⟩ := exists_mem_of_mem_spellings hs dn
      exact List.find?_eq_none.mp hfound a ha hname

theorem values_of_isLeast {given : List (String × String)} {name s : String}
    (h : IsLeast (spellings given name) s) (dn : String) :
    (ofGiven dn given).values name = givenAs given s := by
  rcases values_cases dn given name with ⟨t, ht, hvalues⟩ | ⟨hnone, -⟩
  · rw [hvalues, ht.unique h]
  · exact absurd h.1 (hnone ▸ Set.notMem_empty s)

/-- The values that an attribute was given under one spelling are among those given in any. -/
theorem filter_spelling_sublist {given : List (String × String)} {name s : String}
    (h : Ascii.eqIgnoreCase s name = true) :
    (given.filter fun g => decide (g.1 = s)).Sublist
      (given.filter fun g => Ascii.eqIgnoreCase g.1 name) := by
  refine List.monotone_filter_right given fun g hg => ?_
  rw [of_decide_eq_true hg, h]

theorem values_sublist (dn : String) (given : List (String × String)) (name : String) :
    ((ofGiven dn given).values name).Sublist (givenValues given name) := by
  rcases values_cases dn given name with ⟨s, hs, hvalues⟩ | ⟨-, hvalues⟩
  · rw [hvalues]
    exact (filter_spelling_sublist hs.1.1).map _
  · rw [hvalues]
    exact List.nil_sublist _

theorem values_of_spelledAlike {given : List (String × String)} {name : String}
    (h : SpelledAlike given name) (dn : String) :
    (ofGiven dn given).values name = givenValues given name := by
  rcases values_cases dn given name with ⟨s, ⟨⟨hs, g, hg, rfl⟩, -⟩, hvalues⟩ | ⟨hnone, hvalues⟩
  · rw [hvalues, givenAs, givenValues]
    refine congrArg _ (List.filter_congr fun k hk => ?_)
    rw [Bool.eq_iff_iff, decide_eq_true_iff]
    exact ⟨fun e => e ▸ hs, fun hk' => h k hk g hg hk' hs⟩
  · rw [hvalues, givenValues_eq_nil_iff.mpr hnone]

/-- All values are shown if and only if they were given under one spelling. -/
theorem values_perm_iff (dn : String) (given : List (String × String)) (name : String) :
    ((ofGiven dn given).values name).Perm (givenValues given name) ↔ SpelledAlike given name := by
  refine ⟨fun h => ?_, fun h => .of_eq (values_of_spelledAlike h dn)⟩
  rcases values_cases dn given name with ⟨s, hs, hvalues⟩ | ⟨hnone, -⟩
  · have hlength := h.length_eq
    rw [hvalues, givenAs, givenValues, List.length_map, List.length_map] at hlength
    have hfilter := (filter_spelling_sublist hs.1.1).eq_of_length hlength
    have hspelled : ∀ g ∈ given, Ascii.eqIgnoreCase g.1 name = true → g.1 = s := by
      intro g hg hname
      have hmem : g ∈ given.filter fun g => Ascii.eqIgnoreCase g.1 name :=
        List.mem_filter.mpr ⟨hg, hname⟩
      rw [← hfilter] at hmem
      exact of_decide_eq_true (List.mem_filter.mp hmem).2
    intro g hg k hk hgname hkname
    rw [hspelled g hg hgname, hspelled k hk hkname]
  · intro g hg k hk hname
    exact absurd ⟨hname, g, hg, rfl⟩ (Set.eq_empty_iff_forall_notMem.mp hnone g.1)

theorem values_eq_iff (dn : String) (given : List (String × String)) (name : String) :
    (ofGiven dn given).values name = givenValues given name ↔ SpelledAlike given name :=
  ⟨fun h => (values_perm_iff dn given name).mp (.of_eq h), fun h => values_of_spelledAlike h dn⟩

end Entry

/-! ## Filters -/

theorem Ascii.eqIgnoreCase_refl (s : String) : eqIgnoreCase s s = true :=
  beq_self_eq_true _

/-- Names equal up to case are the same name to any look-up. -/
theorem Ascii.eqIgnoreCase_congr {a b : String} (h : eqIgnoreCase a b = true) (s : String) :
    eqIgnoreCase s a = eqIgnoreCase s b := by
  rw [eqIgnoreCase, eqIgnoreCase, eq_of_beq h]

namespace Filter

/-- Every value that one entry shows is shown by another up to case. -/
def Covered (e e' : Entry) : Prop :=
  ∀ name, ∀ v ∈ e.values name, ∃ w ∈ e'.values name, Ascii.eqIgnoreCase v w = true

mutual

/-- No filter asks for the absence of a value. -/
theorem accepts_of_covered {e e' : Entry} (h : Covered e e') :
    ∀ {f : Filter}, f.accepts e = true → f.accepts e' = true
  | equals name value, hf => by
      rw [accepts, List.any_eq_true] at hf ⊢
      obtain ⟨v, hv, hvalue⟩ := hf
      obtain ⟨w, hw, hsame⟩ := h name v hv
      refine ⟨w, hw, ?_⟩
      rwa [Ascii.eqIgnoreCase, ← eq_of_beq hsame]
  | present name, hf => by
      rw [accepts, Bool.not_eq_true', List.isEmpty_eq_false_iff_exists_mem] at hf ⊢
      obtain ⟨v, hv⟩ := hf
      obtain ⟨w, hw, -⟩ := h name v hv
      exact ⟨w, hw⟩
  | all _, hf => acceptsAll_of_covered h hf
  | any _, hf => acceptsAny_of_covered h hf

theorem acceptsAll_of_covered {e e' : Entry} (h : Covered e e') :
    ∀ {fs : List Filter}, acceptsAll e fs = true → acceptsAll e' fs = true
  | [], _ => rfl
  | _ :: _, hfs => by
      rw [acceptsAll, Bool.and_eq_true] at hfs ⊢
      exact ⟨accepts_of_covered h hfs.1, acceptsAll_of_covered h hfs.2⟩

theorem acceptsAny_of_covered {e e' : Entry} (h : Covered e e') :
    ∀ {fs : List Filter}, acceptsAny e fs = true → acceptsAny e' fs = true
  | [], hfs => hfs
  | _ :: _, hfs => by
      rw [acceptsAny, Bool.or_eq_true] at hfs ⊢
      exact hfs.imp (accepts_of_covered h) (acceptsAny_of_covered h)

end

end Filter

namespace Entry

/-- The spelling comes before all those under which values of the name were given. -/
def IsNewLeast (given : List (String × String)) (name : String) : Prop :=
  ∀ s ∈ spellings given name, name < s

theorem values_congr {a b : String} (h : Ascii.eqIgnoreCase a b = true) (e : Entry) :
    e.values a = e.values b := by
  simp only [values, Ascii.eqIgnoreCase_congr h]

theorem spellings_concat_of_ne {name other : String} (h : ¬ Ascii.eqIgnoreCase name other = true)
    (given : List (String × String)) (value : String) :
    spellings (given ++ [(name, value)]) other = spellings given other := by
  ext s
  refine and_congr_right fun hs => ?_
  have hne : name ≠ s := fun e => h (e ▸ hs)
  simp [hne]

/-- Another value leaves the other names alone. -/
theorem values_add_of_ne {name other : String} (h : ¬ Ascii.eqIgnoreCase name other = true)
    (dn : String) (given : List (String × String)) (value : String) :
    ((ofGiven dn given).add name value).values other = (ofGiven dn given).values other := by
  rw [← ofGiven_concat dn given (name, value)]
  rcases values_cases dn given other with ⟨s, hs, hvalues⟩ | ⟨hnone, hvalues⟩
  · have hne : name ≠ s := fun e => h (e ▸ hs.1.1)
    rw [← spellings_concat_of_ne h given value] at hs
    rw [values_of_isLeast hs, hvalues, givenAs_concat, if_neg hne, List.append_nil]
  · rw [← spellings_concat_of_ne h given value] at hnone
    rcases values_cases dn (given ++ [(name, value)]) other with ⟨s, hs, -⟩ | ⟨-, hvalues'⟩
    · exact absurd hs.1 (hnone ▸ Set.notMem_empty s)
    · rw [hvalues, hvalues']

theorem values_add_of_isNewLeast {given : List (String × String)} {name : String}
    (h : IsNewLeast given name) (dn value : String) :
    ((ofGiven dn given).add name value).values name = [value] := by
  have hleast : IsLeast (spellings (given ++ [(name, value)]) name) name := by
    refine ⟨⟨Ascii.eqIgnoreCase_refl name, (name, value), by simp⟩, ?_⟩
    rintro s ⟨hs, g, hg, rfl⟩
    rcases List.mem_append.mp hg with hg | hg
    · exact (h g.1 ⟨hs, g, hg, rfl⟩).le
    · rw [List.mem_singleton.mp hg]
  have hnone : givenAs given name = [] := by
    by_contra hne
    obtain ⟨g, hg, hname⟩ := givenAs_ne_nil_iff.mp hne
    exact lt_irrefl name (h name ⟨Ascii.eqIgnoreCase_refl name, g, hg, hname⟩)
  rw [← ofGiven_concat dn given (name, value), values_of_isLeast hleast, givenAs_concat, hnone, if_pos rfl,
    List.nil_append]

/-- Behind a lesser spelling, or under the least one, another value hides nothing. -/
theorem values_prefix_add {given : List (String × String)} {name : String}
    (h : ¬ IsNewLeast given name) (dn value : String) :
    (ofGiven dn given).values name <+: ((ofGiven dn given).add name value).values name := by
  unfold IsNewLeast at h
  push Not at h
  obtain ⟨s, hs, hle⟩ := h
  rcases values_cases dn given name with ⟨t, ht, hvalues⟩ | ⟨hnone, -⟩
  · have hleast : IsLeast (spellings (given ++ [(name, value)]) name) t := by
      obtain ⟨⟨htname, g, hg, rfl⟩, hlower⟩ := ht
      refine ⟨⟨htname, g, List.mem_append_left _ hg, rfl⟩, ?_⟩
      rintro u ⟨hu, k, hk, rfl⟩
      rcases List.mem_append.mp hk with hk | hk
      · exact hlower ⟨hu, k, hk, rfl⟩
      · rw [List.mem_singleton.mp hk]
        exact (hlower hs).trans hle
    rw [hvalues, ← ofGiven_concat dn given (name, value), values_of_isLeast hleast, givenAs_concat]
    exact List.prefix_append _ _
  · exact absurd hs (hnone ▸ Set.notMem_empty s)

/-- Another value takes an entry from a filter only if it comes under a new least spelling and hides a value
unlike itself. -/
theorem accepts_add_iff (dn : String) (given : List (String × String)) (name value : String) :
    (∀ f : Filter, f.accepts (ofGiven dn given) = true →
        f.accepts ((ofGiven dn given).add name value) = true) ↔
      (IsNewLeast given name →
        ∀ v ∈ (ofGiven dn given).values name, Ascii.eqIgnoreCase v value = true) := by
  constructor
  · intro h hnew v hv
    have hbefore : (Filter.equals name v).accepts (ofGiven dn given) = true := by
      rw [Filter.accepts, List.any_eq_true]
      exact ⟨v, hv, Ascii.eqIgnoreCase_refl v⟩
    have hafter := h _ hbefore
    rw [Filter.accepts, values_add_of_isNewLeast hnew, List.any_cons, List.any_nil, Bool.or_false] at hafter
    exact beq_iff_eq.mpr (beq_iff_eq.mp hafter).symm
  · intro h f
    refine Filter.accepts_of_covered fun other v hv => ?_
    by_cases hother : Ascii.eqIgnoreCase name other = true
    · rw [← values_congr hother] at hv ⊢
      by_cases hnew : IsNewLeast given name
      · rw [values_add_of_isNewLeast hnew]
        exact ⟨value, List.mem_singleton_self value, h hnew v hv⟩
      · exact ⟨v, (values_prefix_add hnew dn value).subset hv, Ascii.eqIgnoreCase_refl v⟩
    · rw [values_add_of_ne hother]
      exact ⟨v, hv, Ascii.eqIgnoreCase_refl v⟩

/-- A test for some value heeds no spelling. -/
theorem accepts_present_iff (dn : String) (given : List (String × String)) (name : String) :
    (Filter.present name).accepts (ofGiven dn given) = true ↔ givenValues given name ≠ [] := by
  rw [Filter.accepts, Bool.not_eq_true', List.isEmpty_eq_false_iff]
  rcases values_cases dn given name with ⟨s, hs, hvalues⟩ | ⟨hnone, hvalues⟩
  · have hgiven : givenValues given name ≠ [] := fun h =>
      Set.eq_empty_iff_forall_notMem.mp (givenValues_eq_nil_iff.mp h) s hs.1
    rw [hvalues]
    exact iff_of_true (givenAs_ne_nil_iff.mpr hs.1.2) hgiven
  · rw [hvalues, givenValues_eq_nil_iff.mpr hnone]

theorem accepts_equals_iff {given : List (String × String)} {name : String}
    (h : SpelledAlike given name) (dn value : String) :
    (Filter.equals name value).accepts (ofGiven dn given) = true ↔
      ∃ v ∈ givenValues given name, Ascii.eqIgnoreCase v value = true := by
  rw [Filter.accepts, List.any_eq_true, values_of_spelledAlike h]

theorem dn_ofGiven (dn : String) (given : List (String × String)) : (ofGiven dn given).dn = dn := by
  induction given using List.reverseRecOn with
  | nil => rfl
  | append_singleton given g ih => rw [ofGiven_concat, add, ih]

end Entry

/-! ## Classes -/

namespace ClassLookup

open Entry

/-- Whether the values given to an entry make it a class that lists a client. -/
def ListsGiven (lookup : ClassLookup) (client dn : String) (given : List (String × String)) : Prop :=
  Scope.IsBelow lookup.baseDn dn ∧
    (∃ v ∈ givenValues given "objectClass", Ascii.eqIgnoreCase v lookup.objectClass = true) ∧
    ∃ v ∈ givenValues given lookup.memberAttribute, Ascii.eqIgnoreCase v client = true

instance (lookup : ClassLookup) (client dn : String) (given : List (String × String)) :
    Decidable (lookup.ListsGiven client dn given) :=
  inferInstanceAs (Decidable (_ ∧ (∃ v ∈ _, _) ∧ ∃ v ∈ _, _))

theorem found_iff_listsGiven {lookup : ClassLookup} {given : List (String × String)}
    (hclass : SpelledAlike given "objectClass") (hmember : SpelledAlike given lookup.memberAttribute)
    (client dn : String) :
    ((lookup.request client).scope.contains (lookup.request client).base (ofGiven dn given).dn &&
      (lookup.request client).filter.accepts (ofGiven dn given)) = true ↔
        lookup.ListsGiven client dn given := by
  rw [found_iff_passes, passes_iff, ListsGiven, dn_ofGiven, values_of_spelledAlike hclass,
    values_of_spelledAlike hmember]

/-- A look-up sees all values where the names that it asks for were given under one spelling each. -/
theorem classes_of_spelledAlike {lookup : ClassLookup} {built : List (String × List (String × String))}
    (h : ∀ b ∈ built, ∀ name ∈ ["objectClass", lookup.memberAttribute, lookup.classAttribute],
      SpelledAlike b.2 name) (client : String) :
    lookup.classes (Directory.ofEntries (built.map fun b => ofGiven b.1 b.2)).session client =
      .ok ((built.filter fun b => lookup.ListsGiven client b.1 b.2).flatMap fun b =>
        givenValues b.2 lookup.classAttribute) := by
  have halike : ∀ b ∈ built, SpelledAlike b.2 "objectClass" ∧
      SpelledAlike b.2 lookup.memberAttribute ∧ SpelledAlike b.2 lookup.classAttribute := by
    simpa using h
  have hfilter : (built.filter fun b =>
      (lookup.request client).scope.contains (lookup.request client).base (ofGiven b.1 b.2).dn &&
        (lookup.request client).filter.accepts (ofGiven b.1 b.2)) =
      built.filter fun b => lookup.ListsGiven client b.1 b.2 := by
    refine List.filter_congr fun b hb => ?_
    obtain ⟨hclass, hmember, -⟩ := halike b hb
    rw [Bool.eq_iff_iff, found_iff_listsGiven hclass hmember, decide_eq_true_iff]
  have hvalues : ∀ b ∈ built.filter fun b => lookup.ListsGiven client b.1 b.2,
      (ofGiven b.1 b.2).values lookup.classAttribute = givenValues b.2 lookup.classAttribute := by
    intro b hb
    exact values_of_spelledAlike (halike b (List.mem_of_mem_filter hb)).2.2 b.1
  refine congrArg Except.ok ?_
  change ((built.map _).filter _).flatMap _ = _
  rw [List.filter_map, List.flatMap_map, ← List.flatMap_congr hvalues, ← hfilter]
  rfl

end ClassLookup

/-! ## The contract -/

namespace Entry

/-- What an entry shows of the values that it was given. -/
structure Shows (given : List (String × String)) (e : Entry) : Prop where
  /-- The values of the least spelling, in the order in which they were given. -/
  ofLeast : ∀ name s, IsLeast (spellings given name) s → e.values name = givenAs given s
  nothingElse : ∀ name, (e.values name).Sublist (givenValues given name)
  all_iff : ∀ name, (e.values name).Perm (givenValues given name) ↔ SpelledAlike given name
  inOrder : ∀ name, SpelledAlike given name → e.values name = givenValues given name
  present_iff : ∀ name, (Filter.present name).accepts e = true ↔ givenValues given name ≠ []
  equals_iff : ∀ name, SpelledAlike given name → ∀ value,
    (Filter.equals name value).accepts e = true ↔
      ∃ v ∈ givenValues given name, Ascii.eqIgnoreCase v value = true
  /-- Another value keeps the entry with all filters unless it hides values unlike itself. -/
  keeps_iff : ∀ name value,
    (∀ f : Filter, f.accepts e = true → f.accepts (e.add name value) = true) ↔
      (IsNewLeast given name → ∀ v ∈ e.values name, Ascii.eqIgnoreCase v value = true)

theorem shows_ofGiven (dn : String) (given : List (String × String)) :
    Shows given (ofGiven dn given) where
  ofLeast _ _ h := values_of_isLeast h dn
  nothingElse := values_sublist dn given
  all_iff := values_perm_iff dn given
  inOrder _ h := values_of_spelledAlike h dn
  present_iff := accepts_present_iff dn given
  equals_iff _ h := accepts_equals_iff h dn
  keeps_iff := accepts_add_iff dn given

/-- An entry shows the values of the least spelling of a name. It shows all values of the name if and only if
they were given under one spelling, and another value keeps it with all filters unless that value comes under
a new least spelling and hides others. A look-up of classes sees all values where the three names that it asks
for were given under one spelling each. -/
theorem shows_given (built : List (String × List (String × String))) :
    (∀ b ∈ built, Shows b.2 (ofGiven b.1 b.2)) ∧
    ∀ (lookup : ClassLookup) (client : String),
      (∀ b ∈ built, ∀ name ∈ ["objectClass", lookup.memberAttribute, lookup.classAttribute],
        SpelledAlike b.2 name) →
      lookup.classes (Directory.ofEntries (built.map fun b => ofGiven b.1 b.2)).session client =
        .ok ((built.filter fun b => lookup.ListsGiven client b.1 b.2).flatMap fun b =>
          givenValues b.2 lookup.classAttribute) :=
  ⟨fun b _ => shows_ofGiven b.1 b.2, fun _ client h => ClassLookup.classes_of_spelledAlike h client⟩

/-- One entry spells all its names in its own way and has several values of each. -/
theorem shows_given_of_class :
    let lookup : ClassLookup :=
      { baseDn := "o=lab", objectClass := "preseedObject", memberAttribute := "preseedValue"
        classAttribute := "cn" }
    let built : List (String × List (String × String)) := [
      ("CN=gpu,O=lab", [("OBJECTCLASS", "top"), ("CN", "gpu"), ("OBJECTCLASS", "PreseedObject"),
        ("CN", "web"), ("preseedvalue", "host1"), ("preseedvalue", "HOST7")]),
      ("cn=other,o=lab", [("objectClass", "preseedObject"), ("cn", "other"),
        ("preseedValue", "host8")])]
    (∀ b ∈ built, ∀ name ∈ ["objectClass", lookup.memberAttribute, lookup.classAttribute],
      SpelledAlike b.2 name) ∧
    lookup.classes (Directory.ofEntries (built.map fun b => ofGiven b.1 b.2)).session "host7" =
      .ok ["gpu", "web"] := by
  intro lookup built
  have halike : ∀ b ∈ built, ∀ name ∈ ["objectClass", lookup.memberAttribute, lookup.classAttribute],
      SpelledAlike b.2 name := by decide +kernel
  refine ⟨halike, ((shows_given built).2 lookup "host7" halike).trans (congrArg Except.ok ?_)⟩
  decide +kernel

/-- A value under one spelling hides that under another, and so takes the entry from a filter. -/
theorem values_hidden :
    let given := [("CN", "gpu"), ("cn", "web")]
    givenValues given "cn" = ["gpu", "web"] ∧
      (ofGiven "cn=web,o=lab" given).values "cn" = ["gpu"] ∧
      (Filter.equals "cn" "web").accepts (ofGiven "cn=web,o=lab" [("cn", "web")]) = true ∧
      (Filter.equals "cn" "web").accepts ((ofGiven "cn=web,o=lab" [("cn", "web")]).add "CN" "gpu") =
        false := by
  decide +kernel

end Entry

end Preseed
