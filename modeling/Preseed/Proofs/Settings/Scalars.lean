import Preseed.Proofs.Settings.Meaning
import Preseed.Proofs.Settings.Sections

/-! # Scalars of settings

A scalar is read from a text as it is written, and from a file by what it means. A setting of a kind that
is read both ways is the same unless a number is not printed as it is written, the scalar is null to only
one of the readers, or a real number stands for a whole one that it is not. -/

namespace Preseed

/-! ## Scalars of a text -/

namespace Yaml

/-- A scalar as it is written. -/
structure Written where
  properties : Properties
  style : ScalarStyle
  text : String

theorem Plain.isNull_iff {t : String} : isNull t = true ↔ t ∈ ["null", "Null", "NULL", "~"] :=
  decide_eq_true_iff

/-- A scalar that stands for no text at all. -/
def IsNull (p : Properties) (style : ScalarStyle) (t : String) : Prop :=
  style = .plain ∧
    (p.tag = none ∧ t = "" ∨
      (p.tag = none ∨ p.tag = some Plain.nullTag) ∧ t ∈ ["null", "Null", "NULL", "~"])

instance (p : Properties) (style : ScalarStyle) (t : String) : Decidable (IsNull p style t) :=
  inferInstanceAs (Decidable (_ ∧ _))

namespace Field

variable {f : Field}

theorem wrong_ne_ok {α : Type} (f : Field) (expected : String) (x : α) :
    f.wrong expected ≠ .ok x := by
  unfold wrong
  split
  · split <;> rintro ⟨⟩
  all_goals rintro ⟨⟩

theorem target_of_text {expected s : String} (h : f.text expected = .ok s) :
    ∃ p style, f.target = some (.scalar p style s) := by
  unfold text at h
  split at h
  · rename_i p style t hf
    exact ⟨p, style, Except.ok.inj h ▸ hf⟩
  · exact absurd h (f.wrong_ne_ok _ _)

theorem target_of_plainText? {tag s : String} (h : f.plainText? tag = some s) :
    ∃ p style, f.target = some (.scalar p style s) := by
  unfold plainText? at h
  split at h
  · rename_i p style t hf
    split at h
    · exact ⟨p, style, Option.some.inj h ▸ hf⟩
    · cases h
  · cases h

theorem target_of_bool {b : Bool} (h : f.bool = .ok b) :
    ∃ p style t, f.target = some (.scalar p style t) ∧ Plain.bool? t = some b := by
  unfold bool at h
  split at h
  · rename_i hb
    obtain ⟨t, ht, hb⟩ := Option.bind_eq_some_iff.mp hb
    obtain ⟨p, style, hf⟩ := target_of_plainText? ht
    exact ⟨p, style, t, hf, Except.ok.inj h ▸ hb⟩
  · exact absurd h (f.wrong_ne_ok _ _)

theorem target_of_unsigned {limit n : ℕ} {expected : String} (h : f.unsigned limit expected = .ok n) :
    ∃ p style t, f.target = some (.scalar p style t) ∧
      Plain.unsigned? (Nat.pow 2 64) t.toList = some n := by
  unfold unsigned at h
  split at h
  · rename_i hn
    obtain ⟨t, ht, hn⟩ := Option.bind_eq_some_iff.mp hn
    obtain ⟨p, style, hf⟩ := target_of_plainText? ht
    split at h
    · exact ⟨p, style, t, hf, Except.ok.inj h ▸ hn⟩
    · cases h
  · exact absurd h (f.wrong_ne_ok _ _)

/-- The name of a variant is a scalar, or stands in its tag with nothing behind it. -/
theorem target_of_variant {names : List String} {name : String} (h : f.variant names = .ok name) :
    ∃ p style t, f.target = some (.scalar p style t) ∧ name ∈ names ∧
      (name = t ∨ t = "" ∨ Plain.isNull t = true) := by
  unfold variant at h
  dsimp only at h
  split at h
  · rename_i p style t hf
    refine ⟨p, style, t, hf, ?_⟩
    split at h
    · obtain ⟨known, hknown, h⟩ := exists_of_bind_eq_ok h
      split at hknown
      case isFalse => cases hknown
      rename_i hmem
      obtain rfl := Except.ok.inj hknown
      split at h
      case isFalse => cases h
      rename_i hnull
      obtain rfl := Except.ok.inj h
      rw [Bool.and_eq_true, Bool.or_eq_true, String.isEmpty_iff] at hnull
      exact ⟨List.contains_iff_mem.mp hmem, .inr hnull.2⟩
    · split at h
      case isFalse => cases h
      rename_i hmem
      obtain rfl := Except.ok.inj h
      exact ⟨List.contains_iff_mem.mp hmem, .inl rfl⟩
  -- A collection has no name, whatever its tag is.
  iterate 2
    split at h
    · obtain ⟨_, -, h⟩ := exists_of_bind_eq_ok h
      exact absurd h (f.wrong_ne_ok _ _)
    · exact absurd h (f.wrong_ne_ok _ _)
  · cases h

/-- An optional field is there unless its scalar is null. -/
theorem optional_cases {p : Properties} {style : ScalarStyle} {t : String}
    (hf : f.target = some (.scalar p style t)) {g : Option Field} (h : f.optional = .ok g) :
    IsNull p style t ∧ g = none ∨ ¬IsNull p style t ∧ g = some f := by
  rw [optional, hf] at h
  dsimp only at h
  split at h
  · rename_i hstyle
    exact .inr ⟨fun hnull => hstyle hnull.1, (Except.ok.inj h).symm⟩
  rename_i hstyle
  replace hstyle : style = .plain := Decidable.not_not.mp hstyle
  split at h
  · rename_i tag htag
    split at h
    · rename_i hnullTag
      split at h
      · rename_i hnull
        rw [Plain.isNull_iff] at hnull
        exact .inl ⟨⟨hstyle, .inr ⟨.inr (hnullTag ▸ htag), hnull⟩⟩, (Except.ok.inj h).symm⟩
      · cases h
    · rename_i hnullTag
      refine .inr ⟨?_, (Except.ok.inj h).symm⟩
      rintro ⟨-, ⟨hnone, -⟩ | ⟨hnone | hsome, -⟩⟩
      · cases htag.symm.trans hnone
      · cases htag.symm.trans hnone
      · exact hnullTag (Option.some.inj (htag.symm.trans hsome))
  · rename_i htag
    split at h
    · rename_i hnull
      rw [Bool.or_eq_true, String.isEmpty_iff, Plain.isNull_iff] at hnull
      exact .inl ⟨⟨hstyle, hnull.imp (⟨htag, ·⟩) (⟨.inl htag, ·⟩)⟩, (Except.ok.inj h).symm⟩
    · rename_i hnull
      rw [Bool.or_eq_true, String.isEmpty_iff, Plain.isNull_iff] at hnull
      exact .inr ⟨fun h => hnull (h.2.imp (·.2) (·.2)), (Except.ok.inj h).symm⟩

theorem target_of_optionalText {o : Option String} (h : Record.optionalText f = .ok o) :
    (∃ p style t, f.target = some (.scalar p style t) ∧
      (IsNull p style t ∧ o = none ∨ ¬IsNull p style t ∧ o = some t)) ∨
    f.target = none ∧ o = none := by
  obtain ⟨g, hg, h⟩ := exists_of_bind_eq_ok h
  replace hg : f.optional = .ok g := hg
  cases hf : f.target with
  | none =>
      rw [optional, hf] at hg
      obtain rfl := Except.ok.inj hg
      exact .inr ⟨rfl, (Except.ok.inj h).symm⟩
  | some n =>
      cases n with
      | scalar p style t =>
          refine .inl ⟨p, style, t, rfl, ?_⟩
          rcases optional_cases hf hg with ⟨hnull, rfl⟩ | ⟨hnull, rfl⟩
          · exact .inl ⟨hnull, (Except.ok.inj h).symm⟩
          · obtain ⟨s, hs, rfl⟩ := exists_of_map_eq_ok h
            obtain ⟨p', style', hf'⟩ := target_of_text hs
            cases hf.symm.trans hf'
            exact .inr ⟨hnull, rfl⟩
      | _ =>
          rw [optional, hf] at hg
          obtain rfl := Except.ok.inj hg
          obtain ⟨s, hs, -⟩ := exists_of_map_eq_ok h
          obtain ⟨p, style, hf'⟩ := target_of_text hs
          cases hf.symm.trans hf'

end Field

end Yaml

namespace SettingKind

open Yaml (Properties ScalarStyle)

/-- What settings of a kind are whose scalar is written in a text. -/
inductive Writes (p : Properties) (style : ScalarStyle) (t : String) :
    SettingKind → SettingValue → Prop where
  | text {expected : String} : Writes p style t (.text expected) (.text t)
  | absent (h : Yaml.IsNull p style t) : Writes p style t .optional (.optional none)
  | present (h : ¬Yaml.IsNull p style t) : Writes p style t .optional (.optional (some t))
  | number {limit n : ℕ} {expected : String}
      (h : Yaml.Plain.unsigned? (Nat.pow 2 64) t.toList = some n) :
      Writes p style t (.number limit expected) (.number n)
  | truth {b : Bool} (h : Yaml.Plain.bool? t = some b) : Writes p style t .truth (.truth b)
  | format {name : String} (hname : name ∈ ["text", "json"])
      (ht : name = t ∨ t = "" ∨ Yaml.Plain.isNull t = true) :
      Writes p style t .format (.format (if name = "json" then .json else .text))

/-- Settings of a text are scalars, but for an optional one where nothing is written. -/
theorem writes_of_read {kind : SettingKind} {f : Yaml.Field} {x : SettingValue} (h : kind.read f = .ok x) :
    (∃ p style t, f.target = some (.scalar p style t) ∧ Writes p style t kind x) ∨
      f.target = none ∧ kind = .optional ∧ x = .optional none := by
  cases kind with
  | text expected =>
      obtain ⟨s, hs, rfl⟩ := exists_of_map_eq_ok h
      obtain ⟨p, style, hf⟩ := Yaml.Field.target_of_text hs
      exact .inl ⟨p, style, s, hf, .text⟩
  | optional =>
      obtain ⟨o, ho, rfl⟩ := exists_of_map_eq_ok h
      rcases Yaml.Field.target_of_optionalText ho with
        ⟨p, style, t, hf, ⟨hnull, rfl⟩ | ⟨hnull, rfl⟩⟩ | ⟨hf, rfl⟩
      · exact .inl ⟨p, style, t, hf, .absent hnull⟩
      · exact .inl ⟨p, style, t, hf, .present hnull⟩
      · exact .inr ⟨hf, rfl, rfl⟩
  | number limit expected =>
      obtain ⟨n, hn, rfl⟩ := exists_of_map_eq_ok h
      obtain ⟨p, style, t, hf, hn⟩ := Yaml.Field.target_of_unsigned hn
      exact .inl ⟨p, style, t, hf, .number hn⟩
  | truth =>
      obtain ⟨b, hb, rfl⟩ := exists_of_map_eq_ok h
      obtain ⟨p, style, t, hf, hb⟩ := Yaml.Field.target_of_bool hb
      exact .inl ⟨p, style, t, hf, .truth hb⟩
  | format =>
      obtain ⟨g, hg, rfl⟩ := exists_of_map_eq_ok h
      obtain ⟨name, hname, hg⟩ := exists_of_bind_eq_ok hg
      obtain rfl := Except.ok.inj hg
      obtain ⟨p, style, t, hf, hmem, ht⟩ := Yaml.Field.target_of_variant hname
      exact .inl ⟨p, style, t, hf, .format hmem ht⟩

end SettingKind

/-! ## Scalars of a file -/

namespace RawSetting

/-- What a scalar may mean: numbers and truth values by their spelling, null, or the text itself. -/
inductive Means (t : String) : RawSetting → Prop where
  | null : Means t null
  | bool {b : Bool} (h : boolText b = t) : Means t (bool b)
  | integer {i : ℤ} (h : IsWhole t.toList i) : Means t (integer i)
  | real {d : Double} (h : IsReal t d) : Means t (real d)
  | text : Means t (text t)

theorem Stands.means {style : Yaml.ScalarStyle} {tag : Option String} {t : String} {r : RawSetting}
    (h : Stands style t tag r) : Means t r := by
  cases h with
  | null | misfit => exact .null
  | bool _ h | taggedBool _ h => exact .bool (mem_truthWords_iff.mp h)
  | integer _ h => exact .integer h
  | taggedInteger _ h => exact .integer (.decimal h)
  | real _ _ h | taggedReal _ h => exact .real h
  | quoted | word | tagged => exact .text

theorem means_of_ofScalar? {p : Yaml.Properties} {style : Yaml.ScalarStyle} {t : String} {r : RawSetting}
    (h : ofScalar? p style t = some r) : Means t r :=
  (ofScalar?_eq_some_iff.mp h).means

/-- A number is printed as a text. -/
def Prints (t : String) : RawSetting → Prop
  | integer i => toString i = t
  | real d => d.toText false = t
  | _ => True

instance (t : String) : (r : RawSetting) → Decidable (Prints t r)
  | integer i => inferInstanceAs (Decidable (toString i = t))
  | real d => inferInstanceAs (Decidable (d.toText false = t))
  | null | bool _ | text _ | list _ | table _ => .isTrue trivial

theorem eq_iff_prints {t expected s : String} {r : RawSetting} (hr : Means t r)
    (h : r.toText expected = .ok s) : t = s ↔ r.Prints t := by
  cases hr with
  | null => cases h
  | bool hb =>
      obtain rfl := Except.ok.inj h
      exact iff_of_true hb.symm trivial
  | integer _ =>
      obtain rfl := Except.ok.inj h
      exact eq_comm
  | real _ =>
      obtain rfl := Except.ok.inj h
      exact eq_comm
  | text =>
      obtain rfl := Except.ok.inj h
      exact iff_of_true rfl trivial

theorem optionalText_cases {r : RawSetting} {o : Option String} (h : Record.optionalText r = .ok o) :
    r = null ∧ o = none ∨ r.isNull = false ∧ ∃ s, r.toText "a string" = .ok s ∧ o = some s := by
  obtain ⟨g, hg, h⟩ := exists_of_bind_eq_ok h
  obtain rfl := Except.ok.inj hg
  cases r with
  | null => exact .inl ⟨rfl, (Except.ok.inj h).symm⟩
  | _ =>
      obtain ⟨s, hs, rfl⟩ := exists_of_map_eq_ok h
      exact .inr ⟨rfl, s, hs, rfl⟩

/-- A real number stands for the whole number without sign that a text writes. -/
def Counts (t : String) : RawSetting → Prop
  | real d => IsUnsigned (withoutPlus t.toList) d.toUnsigned64
  | _ => True

instance (t : String) : (r : RawSetting) → Decidable (Counts t r)
  | real d => inferInstanceAs (Decidable (IsUnsigned (withoutPlus t.toList) d.toUnsigned64))
  | null | bool _ | integer _ | text _ | list _ | table _ => .isTrue trivial

theorem toNumber?_of_toUnsigned {limit n : ℕ} {expected : String} {r : RawSetting}
    (h : r.toUnsigned limit expected = .ok n) : r.toNumber? = some n := by
  unfold toUnsigned at h
  split at h
  · cases h
  · rename_i m hm
    split at h
    · rw [hm, Except.ok.inj h]
    · cases h

theorem eq_iff_counts {t : String} {n m : ℕ} {r : RawSetting} (hr : Means t r)
    (hn : Yaml.Plain.unsigned? (Nat.pow 2 64) t.toList = some n) (h : r.toNumber? = some m) :
    n = m ↔ r.Counts t := by
  have hunsigned := isUnsigned_of_unsigned? hn
  cases hr with
  | null => cases h
  | @bool b hb =>
      have hword : ∀ b, Yaml.Plain.unsigned? (Nat.pow 2 64) (boolText b).toList = none := by decide
      rw [← hb, hword] at hn
      cases hn
  | @integer i hi =>
      have hin : i = n := eq_of_plainInteger? hunsigned (plainInteger?_eq_some_iff.mpr hi)
      rw [hin, toNumber?, if_pos (Int.natCast_nonneg n)] at h
      exact iff_of_true (Option.some.inj h) trivial
  | real _ =>
      obtain rfl := Option.some.inj h
      refine ⟨fun heq => ?_, hunsigned.unique⟩
      rwa [Counts, ← heq]
  | text => exact iff_of_true (eq_of_textNumber? hunsigned h).symm trivial

/-- The spellings of truth values in a text. -/
def truthSpellings : List (String × Bool) :=
  [("true", true), ("True", true), ("TRUE", true), ("false", false), ("False", false), ("FALSE", false)]

theorem mem_truthSpellings {t : String} {b : Bool} (h : Yaml.Plain.bool? t = some b) :
    (t, b) ∈ truthSpellings := by
  unfold Yaml.Plain.bool? at h
  split_ifs at h with htrue hfalse
  · obtain rfl := Option.some.inj h
    simpa [truthSpellings] using htrue
  · obtain rfl := Option.some.inj h
    simpa [truthSpellings] using hfalse

theorem textBool?_of_mem : ∀ e ∈ truthSpellings, textBool? e.1 = some e.2 := by
  decide

theorem eq_of_boolText : ∀ b, ∀ e ∈ truthSpellings, boolText b = e.1 → e.2 = b := by
  decide

theorem not_number_of_mem : ∀ e ∈ truthSpellings,
    plainInteger? e.1.toList = none ∧ isReal e.1 = false := by
  decide

theorem eq_of_toBool {t : String} {b b' : Bool} {r : RawSetting} (hr : Means t r)
    (hb : Yaml.Plain.bool? t = some b) (h : r.toBool = .ok b') : b = b' := by
  have hmem := mem_truthSpellings hb
  obtain ⟨hwhole, hreal⟩ := not_number_of_mem _ hmem
  cases hr with
  | null => cases h
  | @bool c hc =>
      exact (eq_of_boolText c _ hmem hc).trans (Except.ok.inj h)
  | integer hi => cases hwhole.symm.trans (plainInteger?_eq_some_iff.mpr hi)
  | real hd => cases hreal.symm.trans hd.isReal_eq_true
  | text =>
      rw [toBool, textBool?_of_mem _ hmem] at h
      exact Except.ok.inj h

theorem find?_format : ∀ name ∈ ["text", "json"],
    ["text", "json"].find? (Ascii.eqIgnoreCase · name) = some name := by
  decide

theorem find?_null : ∀ t ∈ ["", "null", "Null", "NULL", "~"],
    ["text", "json"].find? (Ascii.eqIgnoreCase · t) = none := by
  decide

theorem eq_of_toVariant {t name name' : String} {r : RawSetting} (hr : Means t r)
    (hname : name ∈ ["text", "json"]) (ht : name = t ∨ t = "" ∨ Yaml.Plain.isNull t = true)
    (h : r.toVariant ["text", "json"] = .ok name') : name = name' := by
  cases hr with
  | text =>
      rw [toVariant] at h
      dsimp only at h
      rcases ht with rfl | hnull
      · rw [find?_format name hname] at h
        exact Except.ok.inj h
      · rw [find?_null t (by simpa [Yaml.Plain.isNull] using hnull)] at h
        cases h
  | _ => cases h

end RawSetting

/-! ## Both -/

namespace SettingKind

/-- A scalar that means a setting in a file is no other one in a text. -/
def KeepsAs (kind : SettingKind) (p : Yaml.Properties) (style : Yaml.ScalarStyle) (t : String)
    (r : RawSetting) : Prop :=
  match kind with
  | text _ => r.Prints t
  | optional => (r.isNull = true ↔ Yaml.IsNull p style t) ∧ r.Prints t
  | number _ _ => r.Counts t
  | truth | format => True

instance (p : Yaml.Properties) (style : Yaml.ScalarStyle) (t : String) (r : RawSetting) :
    (kind : SettingKind) → Decidable (kind.KeepsAs p style t r)
  | text _ => inferInstanceAs (Decidable (r.Prints t))
  | optional => inferInstanceAs (Decidable ((r.isNull = true ↔ Yaml.IsNull p style t) ∧ r.Prints t))
  | number _ _ => inferInstanceAs (Decidable (r.Counts t))
  | truth | format => .isTrue trivial

theorem eq_iff_keepsAs {kind : SettingKind} {p : Yaml.Properties} {style : Yaml.ScalarStyle}
    {t : String} {r : RawSetting} {x y : SettingValue} (hx : Writes p style t kind x) (hr : r.Means t)
    (hy : kind.read r = .ok y) : x = y ↔ kind.KeepsAs p style t r := by
  cases hx with
  | text =>
      obtain ⟨s, hs, rfl⟩ := exists_of_map_eq_ok hy
      rw [SettingValue.text.injEq]
      exact RawSetting.eq_iff_prints hr hs
  | absent hnull =>
      obtain ⟨o, ho, rfl⟩ := exists_of_map_eq_ok hy
      rw [SettingValue.optional.injEq]
      rcases RawSetting.optionalText_cases ho with ⟨rfl, rfl⟩ | ⟨hraw, s, hs, rfl⟩
      · exact iff_of_true rfl ⟨iff_of_true rfl hnull, trivial⟩
      · exact iff_of_false (by simp) fun h => by simpa [hraw] using h.1.mpr hnull
  | present hnull =>
      obtain ⟨o, ho, rfl⟩ := exists_of_map_eq_ok hy
      rw [SettingValue.optional.injEq]
      rcases RawSetting.optionalText_cases ho with ⟨rfl, rfl⟩ | ⟨hraw, s, hs, rfl⟩
      · exact iff_of_false (by simp) fun h => hnull (h.1.mp rfl)
      · rw [Option.some_inj, RawSetting.eq_iff_prints hr hs]
        exact (and_iff_right (iff_of_false (by simp [hraw]) hnull)).symm
  | number hn =>
      obtain ⟨m, hm, rfl⟩ := exists_of_map_eq_ok hy
      rw [SettingValue.number.injEq]
      exact RawSetting.eq_iff_counts hr hn (RawSetting.toNumber?_of_toUnsigned hm)
  | truth hb =>
      obtain ⟨b', hb', rfl⟩ := exists_of_map_eq_ok hy
      exact iff_of_true (congrArg SettingValue.truth (RawSetting.eq_of_toBool hr hb hb')) trivial
  | format hname ht =>
      obtain ⟨g, hg, rfl⟩ := exists_of_map_eq_ok hy
      obtain ⟨name', hname', hg⟩ := exists_of_bind_eq_ok hg
      obtain rfl := Except.ok.inj hg
      obtain rfl := RawSetting.eq_of_toVariant hr hname ht hname'
      exact iff_of_true rfl trivial

/-- Whatever a scalar stands for in a file, it is no other setting of its kind in a text. -/
def Keeps (kind : SettingKind) (w : Yaml.Written) : Prop :=
  ∀ r, RawSetting.Stands w.style w.text w.properties.tag r →
    kind.KeepsAs w.properties w.style w.text r

instance (kind : SettingKind) (w : Yaml.Written) : Decidable (kind.Keeps w) :=
  decidable_of_iff (∀ r ∈ RawSetting.ofScalar? w.properties w.style w.text,
    kind.KeepsAs w.properties w.style w.text r)
    (forall_congr' fun _ => imp_congr_left RawSetting.ofScalar?_eq_some_iff)

theorem keeps_iff {kind : SettingKind} {p : Yaml.Properties} {style : Yaml.ScalarStyle} {t : String}
    {r : RawSetting} (h : RawSetting.Stands style t p.tag r) :
    kind.Keeps ⟨p, style, t⟩ ↔ kind.KeepsAs p style t r := by
  refine ⟨fun hkeeps => hkeeps r h, fun hkeeps r' h' => ?_⟩
  rwa [← h.unique h']

end SettingKind

end Preseed
