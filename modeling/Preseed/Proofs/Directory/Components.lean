import Preseed.Proofs.Directory.Scopes
import Preseed.Proofs.Text.Ascii
import Preseed.Proofs.Text.Split

/-! # Names as lists of components

A name is the list of its components with commas between them; the empty text is the root, which has no
components. Scopes cover names by these lists, up to case: a subtree is told by the last components, and one
level below by one component in front of them. The root alone has nothing on the level below it. -/

namespace Preseed

namespace Scope

/-- A text between commas. A backslash in it stands for itself. -/
def IsComponent (c : String) : Prop :=
  c ≠ "" ∧ ',' ∉ c.toList

instance : DecidablePred IsComponent :=
  fun c => inferInstanceAs (Decidable (c ≠ "" ∧ ',' ∉ c.toList))

/-- The name with the given components. -/
def nameOf (components : List String) : String :=
  ",".intercalate components

/-! ## Joined texts -/

section

variable {base dn : List (List Char)}

/-- Texts without commas, none of them empty. -/
def AreParts (parts : List (List Char)) : Prop :=
  ∀ p ∈ parts, p ≠ [] ∧ ',' ∉ p

theorem AreParts.pieces_eq (h : AreParts dn) (hne : dn ≠ []) :
    Split.pieces ',' ([','].intercalate dn) = dn :=
  Split.pieces_intercalate hne fun p hp => (h p hp).2

theorem AreParts.joined_eq_nil_iff (h : AreParts dn) : [','].intercalate dn = [] ↔ dn = [] := by
  refine ⟨fun hnil => ?_, fun hnil => by rw [hnil, List.intercalate_nil]⟩
  by_contra hne
  have hpieces := h.pieces_eq hne
  rw [hnil] at hpieces
  have hempty : ([] : List Char) ∈ dn := hpieces ▸ List.mem_singleton_self []
  exact (h [] hempty).1 rfl

theorem AreParts.eq_of_joined_eq (hbase : AreParts base) (hdn : AreParts dn)
    (h : [','].intercalate dn = [','].intercalate base) : dn = base := by
  by_cases hnil : dn = []
  · rw [hdn.joined_eq_nil_iff.mpr hnil, eq_comm, hbase.joined_eq_nil_iff] at h
    rw [hnil, h]
  · have hnil' : base ≠ [] := by
      rintro rfl
      exact hnil (hdn.joined_eq_nil_iff.mp h)
    rw [← hdn.pieces_eq hnil, h, hbase.pieces_eq hnil']

theorem intercalate_append {front back : List (List Char)} (hfront : front ≠ []) (hback : back ≠ []) :
    [','].intercalate (front ++ back) = [','].intercalate front ++ ',' :: [','].intercalate back := by
  induction front with
  | nil => exact absurd rfl hfront
  | cons p front ih =>
      by_cases hnil : front = []
      · rw [hnil, List.singleton_append, List.intercalate_cons_of_ne_nil hback,
          List.intercalate_singleton, List.append_assoc, List.singleton_append]
      · have hne : front ++ back ≠ [] := List.append_ne_nil_of_left_ne_nil hnil back
        rw [List.cons_append, List.intercalate_cons_of_ne_nil hne, ih hnil,
          List.intercalate_cons_of_ne_nil hnil, List.append_assoc _ _ (',' :: _)]

/-- A comma parts a joined list. -/
theorem AreParts.eq_pieces_append (h : AreParts dn) {above rest : List Char}
    (heq : [','].intercalate dn = above ++ ',' :: rest) :
    dn = Split.pieces ',' above ++ Split.pieces ',' rest := by
  have hne : dn ≠ [] := by
    rintro rfl
    simp at heq
  rw [← h.pieces_eq hne, heq, Split.pieces_append_cons]

/-! ## What scopes cover -/

theorem AreParts.subtree_iff (hbase : AreParts base) (hdn : AreParts dn) :
    subtree.covers ([','].intercalate base) ([','].intercalate dn) = true ↔ base <:+ dn := by
  rw [covers_subtree_iff, hbase.joined_eq_nil_iff]
  constructor
  · rintro (rfl | h | ⟨above, h⟩)
    · exact List.nil_suffix
    · exact (hbase.eq_of_joined_eq hdn h).symm ▸ List.suffix_rfl
    · by_cases hne : base = []
      · exact hne ▸ List.nil_suffix
      · have heq := hdn.eq_pieces_append h
        rw [hbase.pieces_eq hne] at heq
        exact ⟨_, heq.symm⟩
  · rintro ⟨front, rfl⟩
    by_cases hne : base = []
    · exact .inl hne
    by_cases hfront : front = []
    · exact .inr (.inl (by rw [hfront, List.nil_append]))
    · exact .inr (.inr ⟨_, intercalate_append hfront hne⟩)

/-- Directly below the root a name would have to end in a comma, which none does. -/
theorem AreParts.oneLevel_iff (hbase : AreParts base) (hdn : AreParts dn) :
    oneLevel.covers ([','].intercalate base) ([','].intercalate dn) = true ↔
      base ≠ [] ∧ ∃ first, dn = first :: base := by
  rw [covers_oneLevel_iff]
  constructor
  · rintro ⟨first, -, hcomma, h⟩
    have heq := hdn.eq_pieces_append h
    have hne : base ≠ [] := by
      rintro rfl
      have hempty : ([] : List Char) ∈ dn := by
        rw [heq]
        exact List.mem_append_right _ (List.mem_singleton_self [])
      exact (hdn [] hempty).1 rfl
    have hfirst : Split.pieces ',' ([','].intercalate [first]) = [first] :=
      Split.pieces_intercalate (List.cons_ne_nil _ _) (by simpa using hcomma)
    rw [List.intercalate_singleton] at hfirst
    rw [hfirst, hbase.pieces_eq hne, List.singleton_append] at heq
    exact ⟨hne, first, heq⟩
  · rintro ⟨hne, first, rfl⟩
    obtain ⟨hfirst, hcomma⟩ := hdn first List.mem_cons_self
    refine ⟨first, hfirst, hcomma, ?_⟩
    rw [List.intercalate_cons_of_ne_nil hne, List.append_assoc, List.singleton_append]

end

/-! ## Names -/

theorem map_intercalate {α β : Type} (f : α → β) (sep : List α) (parts : List (List α)) :
    (sep.intercalate parts).map f = (sep.map f).intercalate (parts.map (List.map f)) := by
  induction parts with
  | nil => simp
  | cons p parts ih =>
      by_cases hnil : parts = []
      · simp [hnil]
      · have hnil' : parts.map (List.map f) ≠ [] := by simpa using hnil
        rw [List.map_cons, List.intercalate_cons_of_ne_nil hnil, List.intercalate_cons_of_ne_nil hnil',
          List.map_append, List.map_append, ih]

/-- The components of a name as they are compared. -/
def folded (components : List String) : List (List Char) :=
  (components.map Ascii.lower).map String.toList

theorem toList_lower_nameOf (components : List String) :
    (Ascii.lower (nameOf components)).toList = [','].intercalate (folded components) := by
  have hmap : folded components = (components.map String.toList).map (List.map Char.toLower) := by
    simp [folded, Ascii.lower]
  have hcomma : ",".toList.map Char.toLower = [','] := rfl
  rw [Ascii.lower, String.toList_ofList, nameOf, String.toList_intercalate, map_intercalate, hcomma,
    hmap]

theorem toLower_eq_comma_iff (c : Char) : c.toLower = ',' ↔ c = ',' := by
  have hcomma : ','.toNat = 44 := rfl
  rw [← Char.toNat_inj, ← Char.toNat_inj, Ascii.toNat_toLower, hcomma]
  split <;> omega

theorem areParts_folded {components : List String} (h : ∀ c ∈ components, IsComponent c) :
    AreParts (folded components) := by
  intro p hp
  simp only [folded, List.mem_map, exists_exists_and_eq_and] at hp
  obtain ⟨c, hc, rfl⟩ := hp
  obtain ⟨hne, hcomma⟩ := h c hc
  rw [Ascii.lower, String.toList_ofList]
  refine ⟨by simpa using hne, fun hmem => hcomma ?_⟩
  obtain ⟨d, hd, hlower⟩ := List.mem_map.mp hmem
  exact (toLower_eq_comma_iff d).mp hlower ▸ hd

theorem folded_suffix_iff {base dn : List String} :
    folded base <:+ folded dn ↔ base.map Ascii.lower <:+ dn.map Ascii.lower :=
  List.suffix_map_iff_of_injective fun _ _ => String.toList_inj.mp

theorem exists_folded_cons_iff {base dn : List String} :
    (∃ first, folded dn = first :: folded base) ↔
      base.map Ascii.lower <:+ dn.map Ascii.lower ∧ dn.length = base.length + 1 := by
  rw [← folded_suffix_iff]
  have hlength : ∀ components, (folded components).length = components.length := by simp [folded]
  constructor
  · rintro ⟨first, h⟩
    refine ⟨⟨[first], h.symm⟩, ?_⟩
    rw [← hlength, h, List.length_cons, hlength]
  · rintro ⟨⟨front, h⟩, hdn⟩
    have hone : front.length = 1 := by
      have htotal := congrArg List.length h
      rw [List.length_append, hlength, hlength] at htotal
      omega
    obtain ⟨first, rfl⟩ := List.length_eq_one_iff.mp hone
    exact ⟨first, h.symm⟩

/-- A subtree covers the names that end in the components of its base, up to case. One level covers those
of them that have one component more, save for the root, below which it covers nothing. -/
theorem contains_iff_components {base dn : List String} (hbase : ∀ c ∈ base, IsComponent c)
    (hdn : ∀ c ∈ dn, IsComponent c) :
    (subtree.contains (nameOf base) (nameOf dn) = true ↔
      base.map Ascii.lower <:+ dn.map Ascii.lower) ∧
    (oneLevel.contains (nameOf base) (nameOf dn) = true ↔
      base ≠ [] ∧ base.map Ascii.lower <:+ dn.map Ascii.lower ∧ dn.length = base.length + 1) := by
  have hbase := areParts_folded hbase
  have hdn := areParts_folded hdn
  have hroot : folded base ≠ [] ↔ base ≠ [] := by simp [folded]
  rw [contains, contains, toList_lower_nameOf, toList_lower_nameOf, hbase.subtree_iff hdn,
    hbase.oneLevel_iff hdn, folded_suffix_iff, exists_folded_cons_iff, hroot]
  exact ⟨Iff.rfl, Iff.rfl⟩

theorem contains_iff_components_of_lab :
    let base := ["OU=x", "o=lab"]
    let dn := ["cn=é", "ou=X", "O=LAB"]
    (∀ c ∈ base, IsComponent c) ∧ (∀ c ∈ dn, IsComponent c) ∧
      subtree.contains "OU=x,o=lab" "cn=é,ou=X,O=LAB" = true ∧
      oneLevel.contains "OU=x,o=lab" "cn=é,ou=X,O=LAB" = true := by
  intro base dn
  have hbase : ∀ c ∈ base, IsComponent c := by decide
  have hdn : ∀ c ∈ dn, IsComponent c := by decide
  obtain ⟨hsubtree, hone⟩ := contains_iff_components hbase hdn
  have hsuffix : base.map Ascii.lower <:+ dn.map Ascii.lower := ⟨["cn=é"], by decide⟩
  exact ⟨hbase, hdn, hsubtree.mpr hsuffix,
    hone.mpr ⟨List.cons_ne_nil _ _, hsuffix, rfl⟩⟩

/-- A name of one component is not directly below the root. -/
theorem root_without_level :
    ¬ ∀ base dn : List String, (∀ c ∈ base, IsComponent c) → (∀ c ∈ dn, IsComponent c) →
      (oneLevel.contains (nameOf base) (nameOf dn) = true ↔
        base.map Ascii.lower <:+ dn.map Ascii.lower ∧ dn.length = base.length + 1) := by
  intro h
  have hlab : oneLevel.contains (nameOf []) (nameOf ["o=lab"]) = true :=
    (h [] ["o=lab"] (by decide) (by decide)).mpr ⟨List.nil_suffix, rfl⟩
  exact absurd hlab (by decide)

end Scope

end Preseed
