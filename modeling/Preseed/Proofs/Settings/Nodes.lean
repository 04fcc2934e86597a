import Preseed.Proofs.Net.AddressText
import Preseed.Proofs.Settings.Overlay
import Preseed.Proofs.Settings.Scalars
import Preseed.Proofs.Text.Split

/-! # Settings of a document's nodes

A field of a text and a raw setting of a file may be of one node. Under the name of a setting they have the
same node again: keys differ only where they are numbers, and no setting has a number for its name. -/

namespace Preseed

/-! ## The fields of a text -/

namespace Yaml.Field

/-- The keys and values of a mapping; nothing else has any. -/
def members (f : Field) : List (Field × Field) :=
  match f.target with
  | some (.mapping _ entries) =>
    entries.map fun (k, v) => ({ f with node := some k }, f.inside (Value.stepTo k) v)
  | _ => []

theorem eq_members {f : Field} {expected : String} {given : List (Field × Field)}
    (h : f.entries expected = .ok given) : given = f.members := by
  unfold entries at h
  split at h
  · rename_i hf
    rw [members, hf]
    exact (Except.ok.inj h).symm
  · rename_i hf
    split at h
    · obtain rfl := Except.ok.inj h
      unfold members
      split
      · rename_i hmapping
        exact absurd hmapping (hf _ _)
      · rfl
    · exact absurd h (f.wrong_ne_ok _ _)

/-- The names that are keys. -/
def keys (f : Field) : List String :=
  f.members.filterMap fun e => Record.nameOf e.1

/-- What stands under a name. -/
def get? (f : Field) (name : String) : Option Field :=
  Record.named f.members name

/-- The scalar that is written there. -/
def written? (f : Field) : Option Written :=
  match f.target with
  | some (.scalar properties style text) => some { properties, style, text }
  | _ => none

theorem target_of_written? {f : Field} {w : Written} (h : f.written? = some w) :
    f.target = some (.scalar w.properties w.style w.text) := by
  unfold written? at h
  split at h
  · rename_i hf
    obtain rfl := Option.some.inj h
    exact hf
  · cases h

theorem written?_of_target {f : Field} {p : Properties} {style : ScalarStyle} {t : String}
    (h : f.target = some (.scalar p style t)) : f.written? = some ⟨p, style, t⟩ := by
  rw [written?, h]

end Yaml.Field

/-! ## Nodes in a file and in a text -/

theorem forall₂_of_mapM_eq_some {α β : Type} {f : α → Option β} {xs : List α} {ys : List β}
    (h : xs.mapM f = some ys) : List.Forall₂ (fun x y => f x = some y) xs ys := by
  induction xs generalizing ys with
  | nil =>
      obtain rfl := Option.some.inj h
      exact .nil
  | cons x xs ih =>
      rw [List.mapM_cons] at h
      obtain ⟨y, hy, h⟩ := Option.bind_eq_some_iff.mp h
      obtain ⟨rest, hrest, h⟩ := Option.bind_eq_some_iff.mp h
      obtain rfl := Option.some.inj h
      exact .cons hy (ih hrest)

/-- Entries are related to what their keys and their values are related to. -/
theorem forall₂_zip {α β γ δ ζ : Type} {K : α → γ × ζ → Prop} {V : β → δ → Prop} {xs : List (α × β)}
    {keys : List (γ × ζ)} {values : List δ} (hkeys : List.Forall₂ (fun e k => K e.1 k) xs keys)
    (hvalues : List.Forall₂ (fun e v => V e.2 v) xs values) {ε : Type} {g : α × β → ε}
    {R : ε → γ × δ → Prop} (hR : ∀ a b k v, K a k → V b v → R (g (a, b)) (k.1, v)) :
    List.Forall₂ R (xs.map g) ((keys.map (·.1)).zip values) := by
  induction hkeys generalizing values with
  | nil =>
      cases hvalues
      exact .nil
  | cons hkey _ ih =>
      cases hvalues with
      | cons hvalue hvalues => exact .cons (hR _ _ _ _ hkey hvalue) (ih hvalues)

namespace RawSetting

open Yaml (Field)

/-- A raw setting of a file and a field of a text are of one node. -/
def SameNode (f : Field) (r : RawSetting) : Prop :=
  ∃ depth n, f.node = some n ∧ ofNode? f.document depth n = some r

/-- A key of a file and a field of a text are of one node. -/
def SameKey (f : Field) (key : String) : Prop :=
  ∃ n isText, f.node = some n ∧ ofKey? (ofNode?.resolve f.document n) = some (key, isText)

/-- The keys and values of a file and of a text are of the same nodes in their order. -/
def SameEntries (given : List (Field × Field)) (es : List (String × RawSetting)) : Prop :=
  List.Forall₂ (fun e x => SameKey e.1 x.1 ∧ SameNode e.2 x.2) given es

theorem SameNode.target {f : Field} {r : RawSetting} (h : SameNode f r) :
    (∃ depth n, f.target = some n ∧ ofNode? f.document depth n = some r) ∨ f.target = none ∧ r = null := by
  obtain ⟨depth, n, hnode, hr⟩ := h
  have htarget : f.target = Yaml.Value.follow f.document n := by
    rw [Field.target, hnode, Option.bind_some]
  rw [htarget]
  rcases n with _ | _ | _ | number
  iterate 3 exact .inl ⟨depth, _, rfl, hr⟩
  cases depth with
  | zero => cases hr
  | succ depth =>
      rw [ofNode?] at hr
      split at hr
      · rename_i n hn
        exact .inl ⟨depth, n, hn, hr⟩
      · rename_i hn
        exact .inr ⟨hn, (Option.some.inj hr).symm⟩

theorem SameNode.ofScalar? {f : Field} {r : RawSetting} (h : SameNode f r) {p : Yaml.Properties}
    {style : Yaml.ScalarStyle} {t : String} (hf : f.target = some (.scalar p style t)) :
    ofScalar? p style t = some r := by
  rcases h.target with ⟨depth, n, hn, hr⟩ | ⟨hnone, -⟩
  · obtain rfl := Option.some.inj (hf.symm.trans hn)
    cases depth with
    | zero => cases hr
    | succ depth =>
        rw [ofNode?] at hr
        exact hr
  · cases hf.symm.trans hnone

/-- The entries of a mapping stand in a file in their order. -/
theorem SameNode.of_mapping {f : Field} {r : RawSetting} (h : SameNode f r) {p : Yaml.Properties}
    {entries : List (Yaml.Node × Yaml.Node)} (hf : f.target = some (.mapping p entries)) :
    ∃ es, r = table es ∧ SameEntries f.members es := by
  rcases h.target with ⟨depth, n, hn, hr⟩ | ⟨hnone, -⟩
  · obtain rfl := Option.some.inj (hf.symm.trans hn)
    cases depth with
    | zero => cases hr
    | succ depth =>
        rw [ofNode?] at hr
        obtain ⟨keys, hkeys, hr⟩ := Option.bind_eq_some_iff.mp hr
        split at hr
        · cases hr
        obtain ⟨values, hvalues, hr⟩ := Option.bind_eq_some_iff.mp hr
        refine ⟨_, (Option.some.inj hr).symm, ?_⟩
        rw [Field.members, hf]
        refine forall₂_zip (K := fun k key => ofKey? (ofNode?.resolve f.document k) = some key)
          (V := fun v value => ofNode? f.document depth v = some value)
          (forall₂_of_mapM_eq_some hkeys) (forall₂_of_mapM_eq_some hvalues) ?_
        exact fun k v key value hkey hvalue => ⟨⟨k, key.2, rfl, hkey⟩, depth, v, rfl, hvalue⟩
  · cases hf.symm.trans hnone

/-- Where a text has fields, a file has the same ones, or what stands for nothing written at all. -/
theorem SameNode.cases_of_entries {f : Field} {r : RawSetting} (h : SameNode f r) {expected : String}
    {given : List (Field × Field)} (hgiven : f.entries expected = .ok given) :
    (∃ es, r = table es ∧ SameEntries given es) ∨
      Means "" r := by
  obtain rfl := Field.eq_members hgiven
  unfold Field.entries at hgiven
  split at hgiven
  · rename_i hf
    exact .inl (h.of_mapping hf)
  · split at hgiven
    case isFalse => exact absurd hgiven (f.wrong_ne_ok _ _)
    rename_i hblank
    unfold Field.isBlank at hblank
    split at hblank
    · rename_i hnone
      rcases h.target with ⟨depth, n, hn, -⟩ | ⟨-, rfl⟩
      · cases hnone.symm.trans hn
      · exact .inr .null
    · rename_i hf
      rw [Bool.and_eq_true, String.isEmpty_iff] at hblank
      exact .inr (means_of_ofScalar? (hblank.2 ▸ h.ofScalar? hf))
    · cases hblank

/-- What stands for nothing written has no fields. -/
theorem not_toFields_of_means {t expected : String} {names : List String} {r : RawSetting}
    (h : Means t r) (given : List (RawSetting × RawSetting)) :
    (r.laid none).toFields expected names ≠ .ok given := by
  cases h <;> rintro ⟨⟩

theorem nameOf_text (key : String) : Record.nameOf (text key) = some key := rfl

theorem named_table (entries : List (String × RawSetting)) (name : String) :
    Record.named (entries.map fun (key, v) => (text key, v)) name = (table entries).get? name := by
  rw [get?]
  induction entries with
  | nil => rfl
  | cons e entries ih =>
      obtain ⟨key, v⟩ := e
      rw [List.map_cons, lookup_cons_eq_ite]
      by_cases h : name = key
      · rw [if_pos h, h]
        exact Record.named_cons_self (nameOf_text key) v _
      · have hkey : Record.nameOf (text key) ≠ some name := fun heq => h (Option.some.inj heq).symm
        rw [if_neg h, Record.named_cons_of_ne hkey, ih]

/-! ## Names -/

/-- A name that is kept as it is: it leads through no tables, has no capital letters and is no number. -/
structure IsWord (name : String) : Prop where
  path : path name = [name]
  lower : lowerName name = name
  plain : plainInteger? name.toList = none
  letter : name.toList.any Ascii.isLetter = true

instance (name : String) : Decidable (IsWord name) :=
  decidable_of_iff
    (path name = [name] ∧ lowerName name = name ∧ plainInteger? name.toList = none ∧
      name.toList.any Ascii.isLetter = true)
    ⟨fun ⟨path, lower, plain, letter⟩ => ⟨path, lower, plain, letter⟩,
      fun h => ⟨h.path, h.lower, h.plain, h.letter⟩⟩

theorem isWord_of_section : ∀ inside ∈ Settings.shape.names, IsWord inside := by
  decide

theorem isWord_of_isName {inside name : String} (h : Settings.IsName inside name) : IsWord name := by
  have hall : ∀ inside ∈ Settings.shape.names,
      ∀ name ∈ (Settings.sectionShape inside).names, IsWord name := by
    decide
  exact hall inside h.1 name h.2

theorem isDigit_of_mem_toDigits {n : ℕ} {c : Char} (h : c ∈ Nat.toDigits 10 n) :
    Ascii.isDigit c = true :=
  Ascii.isDigit_of_number? (Ascii.number?_toDigits (by decide) (by decide) n) c h

theorem mem_toString {i : ℤ} {c : Char} (h : c ∈ (toString i).toList) :
    c = '-' ∨ Ascii.isDigit c = true := by
  cases i with
  | ofNat n =>
      change c ∈ (String.ofList (Nat.toDigits 10 n)).toList at h
      rw [String.toList_ofList] at h
      exact .inr (isDigit_of_mem_toDigits h)
  | negSucc n =>
      change c ∈ ("-" ++ String.ofList (Nat.toDigits 10 (n + 1))).toList at h
      rw [String.toList_append, String.toList_ofList (l := Nat.toDigits 10 (n + 1))] at h
      exact (List.mem_append.mp h).imp List.mem_singleton.mp isDigit_of_mem_toDigits

theorem lowerName_toString (i : ℤ) : lowerName (toString i) = toString i := by
  have hself : ∀ c ∈ (toString i).toList, (if c = '\u212A' then 'k' else c.toLower) = c := by
    intro c hc
    rcases mem_toString hc with rfl | hdigit
    · decide
    · rw [if_neg, Ascii.toLower_of_isDigit hdigit]
      rintro rfl
      exact absurd hdigit (by decide)
  rw [lowerName, List.map_congr_left hself, List.map_id', String.ofList_toList]

theorem topName_toString (i : ℤ) : topName (toString i) = toString i := by
  have hpoint : '.' ∉ (toString i).toList := fun h => by
    rcases mem_toString h with h | h <;> exact absurd h (by decide)
  have hpieces : Split.pieces '.' (toString i).toList = [(toString i).toList] := by
    have hjoined := @Split.pieces_intercalate Char _ '.' [(toString i).toList] (List.cons_ne_nil _ _)
    rw [List.intercalate_singleton] at hjoined
    exact hjoined (List.forall_mem_singleton.mpr hpoint)
  have hpath : path (toString i) = [toString i] := by
    unfold path
    dsimp only
    rw [hpieces]
    split
    · rw [List.map_singleton, String.ofList_toList]
    · rfl
  rw [topName, hpath]
  exact lowerName_toString i

theorem IsWord.ne_toString {name : String} (h : IsWord name) (i : ℤ) : toString i ≠ name := by
  rintro rfl
  obtain ⟨c, hc, hletter⟩ := List.any_eq_true.mp h.letter
  rcases mem_toString hc with rfl | hdigit
  · cases hletter
  · rw [Ascii.isLetter_iff] at hletter
    rw [Ascii.isDigit_iff] at hdigit
    omega

/-- A key of a file is the name that a text has there, or the number that the name is. -/
theorem SameKey.cases {f : Field} {key name : String} (h : SameKey f key)
    (hname : Record.nameOf f = some name) :
    key = name ∨ ∃ i : ℤ, key = toString i ∧ IsWhole name.toList i := by
  obtain ⟨n, isText, hnode, hkey⟩ := h
  obtain ⟨p, style, hf⟩ := Field.target_of_text (eq_ok_of_toOption hname)
  have hresolve : ofNode?.resolve f.document n = .scalar p style name := by
    rw [Field.target, hnode, Option.bind_some] at hf
    rcases n with _ | _ | _ | number
    iterate 3 exact Option.some.inj hf
    change f.document.target? number = _ at hf
    rw [ofNode?.resolve, hf, Option.getD_some]
  rw [hresolve, ofKey?] at hkey
  split at hkey
  · rename_i hr
    cases means_of_ofScalar? hr
    exact .inl (Prod.mk.inj (Option.some.inj hkey)).1.symm
  · rename_i hr
    cases means_of_ofScalar? hr with
    | bool hb => exact .inl ((Prod.mk.inj (Option.some.inj hkey)).1.symm.trans hb)
  · rename_i i hr
    cases means_of_ofScalar? hr with
    | integer hi => exact .inr ⟨i, (Prod.mk.inj (Option.some.inj hkey)).1.symm, hi⟩
  · exact .inl (Prod.mk.inj (Option.some.inj hkey)).1.symm
  · cases hkey

theorem SameKey.eq_iff {f : Field} {key met name : String} (h : SameKey f key)
    (hmet : Record.nameOf f = some met) (hname : IsWord name) : key = name ↔ met = name := by
  rcases h.cases hmet with rfl | ⟨i, rfl, hi⟩
  · exact Iff.rfl
  · refine iff_of_false (hname.ne_toString i) ?_
    rintro rfl
    cases hname.plain.symm.trans (plainInteger?_eq_some_iff.mpr hi)

section Entries

variable {given : List (Field × Field)} {es : List (String × RawSetting)} {name : String}

/-- Under a word a file and a text have the same node. -/
theorem SameEntries.rel (h : SameEntries given es)
    (hnames : ∀ e ∈ given, ∃ name, Record.nameOf e.1 = some name) (hname : IsWord name) :
    Option.Rel SameNode (Record.named given name) (es.lookup name) := by
  induction h with
  | nil => exact .none
  | @cons e x given es hex _ ih =>
      obtain ⟨⟨met, hmet⟩, hnames⟩ := List.forall_mem_cons.mp hnames
      have hiff := hex.1.eq_iff hmet hname
      rw [lookup_cons_eq_ite]
      by_cases heq : met = name
      · subst heq
        rw [Record.named_cons_self hmet, if_pos (hiff.mpr rfl).symm]
        exact .some hex.2
      · rw [Record.named_cons_of_ne (by rw [hmet]; simpa using heq),
          if_neg fun h => heq (hiff.mp h.symm)]
        exact ih hnames

/-- A name that stands once in a text stands once in a file. -/
theorem SameEntries.pairwise (h : SameEntries given es)
    {shape : Record.Shape} (hnames : Record.AreNames shape given) (hmem : name ∈ shape.names)
    (hname : IsWord name) : es.Pairwise fun x x' => x.1 = name → x'.1 ≠ name := by
  induction h with
  | nil => exact .nil
  | @cons e x given es hex hrest ih =>
      obtain ⟨⟨met, hmet⟩, hnamed⟩ := List.forall_mem_cons.mp hnames.1
      obtain ⟨hfirst, hpairwise⟩ := List.pairwise_cons.mp hnames.2
      refine List.pairwise_cons.mpr ⟨fun x' hx' hx heq => ?_, ih ⟨hnamed, hpairwise⟩⟩
      obtain rfl := (hex.1.eq_iff hmet hname).mp hx
      have hrel := SameEntries.rel hrest hnamed hname
      rw [Record.named_eq_none_iff.mpr fun e' he' => hfirst e' he' met hmem hmet] at hrel
      have hnone : es.lookup met = none := by
        generalize es.lookup met = found at hrel
        cases hrel
        rfl
      have hne := List.lookup_eq_none_iff.mp hnone x' hx'
      rw [heq] at hne
      simp at hne

/-- Where no other name in a text is folded into one, no other key in a file is. -/
theorem SameEntries.eq_of_fold (h : SameEntries given es)
    (hnames : ∀ e ∈ given, ∃ name, Record.nameOf e.1 = some name) {fold : String → String}
    (hnumber : ∀ i : ℤ, fold (toString i) = toString i)
    (hfold : ∀ met ∈ given.filterMap fun e => Record.nameOf e.1, fold met = name → met = name) :
    ∀ x ∈ es, fold x.1 = name → x.1 = name := by
  induction h with
  | nil => simp
  | @cons e x given es hex _ ih =>
      obtain ⟨⟨met, hmet⟩, hnames⟩ := List.forall_mem_cons.mp hnames
      rw [List.filterMap_cons, hmet] at hfold
      obtain ⟨hfirst, hfold⟩ := List.forall_mem_cons.mp hfold
      refine List.forall_mem_cons.mpr ⟨fun hx => ?_, ih hnames hfold⟩
      -- A key that is a number folds into itself, so it is not of another name.
      rcases hex.1.cases hmet with hkey | ⟨i, hkey, -⟩
      · rw [hkey] at hx ⊢
        exact hfirst hx
      · rw [hkey, hnumber] at hx
        rw [hkey, hx]

/-- Where no other name is folded into one of a record's, a file has the same nodes under the record's
names. `whole` is the file's entries as they are laid over nothing. -/
theorem SameEntries.rel_laid (h : SameEntries given es) {shape : Record.Shape}
    (hnames : Record.AreNames shape given) (hmem : name ∈ shape.names) (hname : IsWord name)
    {fold : String → String} (hnumber : ∀ i : ℤ, fold (toString i) = toString i)
    (hspelled : ∀ key ∈ given.filterMap fun e => Record.nameOf e.1,
      fold key ∈ shape.names → fold key = key)
    {whole : RawSetting} (hwhole : ∃ entries, whole = table entries)
    (hget : (∀ x ∈ es, fold x.1 = name → x.1 = name) →
      (es.Pairwise fun x x' => x.1 = name → x'.1 ≠ name) →
      whole.get? name = (es.lookup name).map (laid · none))
    {expected : String} {names : List String} {given' : List (RawSetting × RawSetting)}
    (hgiven : whole.toFields expected names = .ok given') :
    Option.Rel (fun f v => ∃ r, SameNode f r ∧ v = r.laid none)
      (Record.named given name) (Record.named given' name) := by
  obtain ⟨entries, rfl⟩ := hwhole
  obtain rfl := Except.ok.inj hgiven
  have hfold := h.eq_of_fold hnames.1 hnumber fun key hkey heq =>
    (hspelled key hkey (heq ▸ hmem)).symm.trans heq
  rw [named_table, hget hfold (h.pairwise hnames hmem hname)]
  have hrel := h.rel hnames.1 hname
  generalize Record.named given name = f? at hrel ⊢
  generalize es.lookup name = r? at hrel ⊢
  cases hrel with
  | none => exact .none
  | some hsame => exact .some ⟨_, hsame, rfl⟩

end Entries

end RawSetting

end Preseed
