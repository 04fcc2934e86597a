import Preseed.Proofs.Directory.Matching

/-! # Searches by scope

A name lies below another if it ends in it, behind a comma, without regard to ASCII case. Names are ordered
by that, and so are the searches below them; the scopes of a search fit together in the same way. -/

namespace Preseed

namespace Scope

/-! ## What scopes cover -/

/-- Whether a name stands directly below a base: only one text without commas is in front. -/
def IsDirectlyBelow (base dn : String) : Prop :=
  ∃ first, first ≠ "" ∧ ',' ∉ first.toList ∧ Ascii.lower dn = first ++ "," ++ Ascii.lower base

/-- The names that a scope covers. -/
def Covers : Scope → String → String → Prop
  | .base, top, dn => Ascii.lower dn = Ascii.lower top
  | .oneLevel, top, dn => IsDirectlyBelow top dn
  | .subtree, top, dn => IsBelow top dn

theorem covers_oneLevel_iff {base dn : List Char} :
    oneLevel.covers base dn = true ↔ ∃ first, first ≠ [] ∧ ',' ∉ first ∧ dn = first ++ ',' :: base := by
  have hstrip : ∀ first, (stripSuffix? base dn).bind (stripSuffix? [',']) = some first ↔
      dn = first ++ ',' :: base := by
    intro first
    simp [Option.bind_eq_some_iff, stripSuffix?_eq_some_iff]
  unfold covers
  cases hfirst : (stripSuffix? base dn).bind (stripSuffix? [',']) with
  | none =>
      refine iff_of_false Bool.false_ne_true ?_
      rintro ⟨first, -, -, hdn⟩
      rw [(hstrip first).mpr hdn] at hfirst
      cases hfirst
  | some first =>
      have hdn := (hstrip first).mp hfirst
      constructor
      · intro h
        refine ⟨first, ?_, ?_, hdn⟩ <;> simp_all
      · rintro ⟨other, hne, hcomma, hdn'⟩
        obtain rfl : other = first := by simpa using hdn'.symm.trans hdn
        simp [hne, hcomma]

theorem contains_oneLevel_iff (base dn : String) :
    oneLevel.contains base dn = true ↔ IsDirectlyBelow base dn := by
  rw [contains, covers_oneLevel_iff]
  constructor
  · rintro ⟨first, hne, hcomma, hdn⟩
    refine ⟨String.ofList first, by simpa using hne, by simpa using hcomma, String.toList_inj.mp ?_⟩
    simpa using hdn
  · rintro ⟨first, hne, hcomma, hdn⟩
    refine ⟨first.toList, by simpa using hne, hcomma, ?_⟩
    simp [hdn]

theorem contains_iff_covers (scope : Scope) (base dn : String) :
    scope.contains base dn = true ↔ scope.Covers base dn := by
  cases scope with
  | base => rw [contains, covers, beq_iff_eq, String.toList_inj, Covers]
  | oneLevel => exact contains_oneLevel_iff base dn
  | subtree => exact contains_subtree_iff base dn

instance (scope : Scope) (base dn : String) : Decidable (scope.Covers base dn) :=
  decidable_of_iff _ (contains_iff_covers scope base dn)

/-! ## The order of names -/

theorem lower_eq_empty_iff {s : String} : Ascii.lower s = "" ↔ s = "" := by
  rw [← String.toList_eq_nil_iff, Ascii.lower, String.toList_ofList, List.map_eq_nil_iff,
    String.toList_eq_nil_iff]

/-- What stands below a name is longer, so nothing stands below itself. -/
theorem length_lt_of_above {a b above : String} (h : b = above ++ "," ++ a) : a.length < b.length := by
  rw [h, String.length_append, String.length_append]
  have hcomma : ",".length = 1 := rfl
  omega

theorem isBelow_refl (a : String) : IsBelow a a :=
  .inr (.inl rfl)

theorem IsBelow.eq_empty {a : String} (h : IsBelow a "") : a = "" := by
  rcases h with h | h | ⟨above, h⟩
  · exact h
  · exact lower_eq_empty_iff.mp h.symm
  · exact absurd (length_lt_of_above h) (Nat.not_lt_zero _)

theorem IsBelow.trans {a b c : String} (hab : IsBelow a b) (hbc : IsBelow b c) : IsBelow a c := by
  rcases hbc with rfl | hbc | ⟨above, hbc⟩
  · exact .inl hab.eq_empty
  · exact hab.imp_right fun h => by rwa [hbc]
  · refine hab.imp_right fun h => .inr ?_
    rcases h with h | ⟨between, h⟩
    · exact ⟨above, by rw [hbc, h]⟩
    · exact ⟨above ++ "," ++ between, by simp only [hbc, h, String.append_assoc]⟩

theorem IsBelow.antisymm {a b : String} (hab : IsBelow a b) (hba : IsBelow b a) :
    Ascii.eqIgnoreCase a b = true := by
  rw [Ascii.eqIgnoreCase, beq_iff_eq]
  rcases hab with rfl | hab | ⟨above, hab⟩
  · rw [hba.eq_empty]
  · exact hab.symm
  · have hlt := length_lt_of_above hab
    rcases hba with rfl | hba | ⟨above', hba⟩
    · exact absurd hlt (Nat.not_lt_zero _)
    · exact hba
    · exact absurd (length_lt_of_above hba) (Nat.lt_asymm hlt)

/-! ## Scopes of one base -/

theorem IsDirectlyBelow.isBelow {base dn : String} (h : IsDirectlyBelow base dn) : IsBelow base dn := by
  obtain ⟨first, -, -, hdn⟩ := h
  exact .inr (.inr ⟨first, hdn⟩)

theorem IsDirectlyBelow.ne {base dn : String} (h : IsDirectlyBelow base dn) :
    Ascii.lower dn ≠ Ascii.lower base := by
  obtain ⟨first, -, -, hdn⟩ := h
  intro heq
  have hlt := length_lt_of_above hdn
  rw [heq] at hlt
  exact Nat.lt_irrefl _ hlt

/-- Every scope is part of the subtree. -/
theorem Covers.isBelow {scope : Scope} {base dn : String} (h : scope.Covers base dn) :
    IsBelow base dn := by
  cases scope with
  | base => exact .inr (.inl h)
  | oneLevel => exact IsDirectlyBelow.isBelow h
  | subtree => exact h

end Scope

/-! ## Searches -/

namespace Directory

/-- The entries in the scope of a request that its filter accepts. -/
def found (d : Directory) (r : SearchRequest) : List Entry :=
  d.entries.filter fun e => decide (r.scope.Covers r.base e.dn) && r.filter.accepts e

theorem mem_found {d : Directory} {r : SearchRequest} {e : Entry} :
    e ∈ d.found r ↔ e ∈ d.entries ∧ r.scope.Covers r.base e.dn ∧ r.filter.accepts e = true := by
  rw [found, List.mem_filter, Bool.and_eq_true, decide_eq_true_iff]

theorem search_eq_found {d : Directory} (h : d.searchError = none) (r : SearchRequest) :
    d.search r = .ok (d.found r) := by
  rw [search, h]
  refine congrArg Except.ok (List.filter_congr fun e _ => ?_)
  rw [Bool.eq_iff_iff, Bool.and_eq_true, Bool.and_eq_true, decide_eq_true_iff,
    Scope.contains_iff_covers]

/-- A search finds more under another base or in another scope if that covers more. -/
theorem found_sublist_of_covers {d : Directory} {base base' : String} {scope scope' : Scope}
    (h : ∀ dn, scope.Covers base dn → scope'.Covers base' dn) (filter : Filter)
    (attributes : List String) :
    (d.found { base, scope, filter, attributes }).Sublist
      (d.found { base := base', scope := scope', filter, attributes }) := by
  refine List.monotone_filter_right _ fun e he => ?_
  rw [Bool.and_eq_true, decide_eq_true_iff] at he ⊢
  exact ⟨h e.dn he.1, he.2⟩

theorem search_congr_base {d : Directory} {r : SearchRequest} {base : String}
    (h : Ascii.eqIgnoreCase base r.base = true) : d.search { r with base } = d.search r := by
  rw [Ascii.eqIgnoreCase, beq_iff_eq] at h
  simp only [search, Scope.contains, h]

/-- In a directory that answers, names are ordered by the subtrees they lie in, up to case. A search finds
the entries, in their order, that stand in its scope and fit its filter, each for itself. What is found at a
base and what directly below it are different entries, and both are found in the subtree; a subtree within
another has no entries that the other has not. The case of a base does not count. -/
theorem searches_by_scope {d : Directory} (h : d.searchError = none) :
    (∀ a, Scope.subtree.contains a a = true) ∧
    (∀ a b c, Scope.subtree.contains a b = true → Scope.subtree.contains b c = true →
      Scope.subtree.contains a c = true) ∧
    (∀ a b, Scope.subtree.contains a b = true → Scope.subtree.contains b a = true →
      Ascii.eqIgnoreCase a b = true) ∧
    (∀ r, d.search r = .ok (d.found r) ∧ (d.found r).Sublist d.entries) ∧
    (∀ base filter attributes,
      let within scope := d.found { base, scope, filter, attributes }
      (within .base).Disjoint (within .oneLevel) ∧
        (within .base).Sublist (within .subtree) ∧ (within .oneLevel).Sublist (within .subtree)) ∧
    (∀ base base' filter attributes, Scope.subtree.contains base base' = true →
      (d.found { base := base', scope := .subtree, filter, attributes }).Sublist
        (d.found { base, scope := .subtree, filter, attributes })) ∧
    ∀ r base, Ascii.eqIgnoreCase base r.base = true → d.search { r with base } = d.search r := by
  simp only [Scope.contains_subtree_iff]
  refine ⟨Scope.isBelow_refl, fun a b c => Scope.IsBelow.trans, fun a b => Scope.IsBelow.antisymm,
    fun r => ⟨search_eq_found h r, List.filter_sublist⟩, ?_, ?_, fun r base => search_congr_base⟩
  · intro base filter attributes
    refine ⟨?_, found_sublist_of_covers (fun dn => Scope.Covers.isBelow) .., found_sublist_of_covers
      (fun dn => Scope.Covers.isBelow) ..⟩
    intro e hbase hone
    obtain ⟨-, hbase, -⟩ := mem_found.mp hbase
    obtain ⟨-, hone, -⟩ := mem_found.mp hone
    exact Scope.IsDirectlyBelow.ne hone hbase
  · intro base base' filter attributes hbelow
    have hcovers : ∀ dn, Scope.subtree.Covers base' dn → Scope.subtree.Covers base dn :=
      fun dn => Scope.IsBelow.trans hbelow
    exact found_sublist_of_covers hcovers ..

/-- Entries whose names only end alike, or differ in case, or have nothing in front of the comma. -/
theorem searches_by_scope_of_lab :
    let d := Directory.ofEntries (["o=lab", "cn=a,O=LAB", "cn=b,cn=a,o=lab", "cn=a,o=labs", ",o=lab",
      "xo=lab"].map fun dn => ({ dn } : Entry).add "cn" "a")
    let request (base : String) (scope : Scope) : SearchRequest :=
      { base, scope, filter := .equals "CN" "A" }
    d.searchError = none ∧ Scope.subtree.contains "O=Lab" "cn=A,o=lab" = true ∧
      (d.found (request "O=Lab" .base)).map (·.dn) = ["o=lab"] ∧
      (d.found (request "O=Lab" .oneLevel)).map (·.dn) = ["cn=a,O=LAB"] ∧
      (d.found (request "O=Lab" .subtree)).map (·.dn) =
        ["o=lab", "cn=a,O=LAB", "cn=b,cn=a,o=lab", ",o=lab"] ∧
      (d.found (request "O=Lab" .base)).Disjoint (d.found (request "O=Lab" .oneLevel)) ∧
      (d.found (request "cn=A,o=lab" .subtree)).Sublist (d.found (request "O=Lab" .subtree)) ∧
      d.search (request "O=Lab" .subtree) = d.search (request "o=lab" .subtree) := by
  intro d request
  have hbelow : Scope.subtree.contains "O=Lab" "cn=A,o=lab" = true := by decide
  obtain ⟨-, -, -, -, hscopes, hsubtrees, hcase⟩ := searches_by_scope (d := d) rfl
  refine ⟨rfl, hbelow, by decide +kernel, by decide +kernel, by decide +kernel,
    (hscopes "O=Lab" (.equals "CN" "A") []).1, hsubtrees _ _ _ _ hbelow, ?_⟩
  exact hcase (request "o=lab" .subtree) "O=Lab" (by decide)

end Directory

end Preseed
