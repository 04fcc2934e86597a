import Preseed.Proofs.Settings.Numbers
import Preseed.Yaml.Field

/-! # What a scalar of a file stands for

The rules by which a scalar of a settings' file is null, a truth value, a number or a text. They are those of
the core schema of YAML, but for the few spellings of null and of truth values that count, and for a tag that
a scalar does not fit, which makes it null. -/

namespace Preseed

namespace RawSetting

open Ascii (number? isDigit)

/-! ## Whole numbers -/

/-- How a whole number of 64 bits is written in a base: by its digits, with a sign or without. -/
inductive IsSigned (base : ℕ) : List Char → ℤ → Prop where
  | bare {digits : List Char} {n : ℕ} (hne : digits ≠ []) (h : number? base digits = some n)
      (hlt : n < Nat.pow 2 63) : IsSigned base digits n
  | plus {digits : List Char} {n : ℕ} (hne : digits ≠ []) (h : number? base digits = some n)
      (hlt : n < Nat.pow 2 63) : IsSigned base ('+' :: digits) n
  | minus {digits : List Char} {n : ℕ} (hne : digits ≠ []) (h : number? base digits = some n)
      (hle : n ≤ Nat.pow 2 63) : IsSigned base ('-' :: digits) (-n)

/-- How a file writes whole numbers: in decimal, where a plus sign more may stand in front, or behind `0x` or
`0o` in another base. -/
inductive IsWhole : List Char → ℤ → Prop where
  | decimal {cs : List Char} {i : ℤ} (h : IsSigned 10 cs i) : IsWhole cs i
  | plus {cs : List Char} {i : ℤ} (h : IsSigned 10 cs i) : IsWhole ('+' :: cs) i
  | hexadecimal {cs : List Char} {i : ℤ} (h : IsSigned 16 cs i) : IsWhole ('0' :: 'x' :: cs) i
  | octal {cs : List Char} {i : ℤ} (h : IsSigned 8 cs i) : IsWhole ('0' :: 'o' :: cs) i

/-- A sign is no digit. -/
theorem number?_of_sign {base : ℕ} {c : Char} (h : c = '+' ∨ c = '-') (cs : List Char) :
    number? base (c :: cs) = none := by
  have hc : Ascii.hexValue? c = none := by rcases h with rfl | rfl <;> decide
  refine Option.eq_none_iff_forall_ne_some.mpr fun n hn => ?_
  obtain ⟨d, -, hd⟩ := Ascii.exists_of_number? hn c List.mem_cons_self
  rw [hc] at hd
  cases hd

theorem isSigned_of_signed? {base : ℕ} {cs : List Char} {i : ℤ} (h : signed? base cs = some i) :
    IsSigned base cs i := by
  unfold signed? at h
  split at h
  rename_i negative digits hsign
  split at hsign
  all_goals
    obtain ⟨rfl, rfl⟩ := Prod.mk.inj hsign
    split at h
    case isTrue => cases h
    rename_i hne
    rw [List.isEmpty_iff] at hne
    obtain ⟨n, hn, h⟩ := Option.bind_eq_some_iff.mp h
    simp only [if_true, Bool.false_eq_true, if_false] at h
    split at h
    case isFalse => cases h
    rename_i hbound
    obtain rfl := Option.some.inj h
  · exact .minus hne hn hbound
  · exact .plus hne hn hbound
  · exact .bare hne hn hbound

theorem signed?_of_isSigned {base : ℕ} {cs : List Char} {i : ℤ} (h : IsSigned base cs i) :
    signed? base cs = some i := by
  unfold signed?
  cases h with
  | bare hne h hlt =>
      split
      rename_i negative digits hsign
      split at hsign
      · rw [number?_of_sign (.inr rfl)] at h
        cases h
      · rw [number?_of_sign (.inl rfl)] at h
        cases h
      · obtain ⟨rfl, rfl⟩ := Prod.mk.inj hsign
        rw [if_neg (List.isEmpty_iff.not.mpr hne), h]
        exact if_pos hlt
  | plus hne h hlt =>
      simp only [List.isEmpty_iff, hne, if_false, h, Option.bind_some]
      exact if_pos hlt
  | minus hne h hle =>
      simp only [List.isEmpty_iff, hne, if_false, h, Option.bind_some]
      exact if_pos hle

theorem signed?_eq_some_iff {base : ℕ} {cs : List Char} {i : ℤ} :
    signed? base cs = some i ↔ IsSigned base cs i :=
  ⟨isSigned_of_signed?, signed?_of_isSigned⟩

theorem signed?_eq_none_iff {base : ℕ} {cs : List Char} :
    signed? base cs = none ↔ ∀ i, ¬IsSigned base cs i := by
  simp only [Option.eq_none_iff_forall_ne_some, ne_eq, signed?_eq_some_iff]

/-- A decimal number has no letter. -/
theorem not_isSigned_of_letter {letter : Char} (hletter : isDigit letter = false) (cs : List Char)
    (i : ℤ) : ¬IsSigned 10 ('0' :: letter :: cs) i := by
  intro h
  cases h with
  | bare hne hn hlt =>
      have hdigit := Ascii.isDigit_of_number? hn letter (by simp)
      rw [hletter] at hdigit
      cases hdigit

/-- One plus sign more makes no difference to a number without sign or with a plus sign. -/
theorem IsSigned.of_plus {cs : List Char} {i : ℤ} (h : IsSigned 10 ('+' :: cs) i) : IsSigned 10 cs i := by
  cases h with
  | bare hne h hlt =>
      rw [number?_of_sign (.inl rfl)] at h
      cases h
  | plus hne h hlt => exact .bare hne h hlt

theorem plainInteger?_eq_some_iff {cs : List Char} {i : ℤ} :
    plainInteger? cs = some i ↔ IsWhole cs i := by
  unfold plainInteger?
  constructor
  · intro h
    dsimp only at h
    split at h
    · rename_i j hbased
      obtain rfl := Option.some.inj h
      split at hbased
      · exact .hexadecimal (isSigned_of_signed? hbased)
      · exact .octal (isSigned_of_signed? hbased)
      · exact .plus (isSigned_of_signed? hbased)
      · cases hbased
    · exact .decimal (isSigned_of_signed? h)
  · intro h
    cases h with
    | decimal h =>
        dsimp only
        split
        · rename_i j hbased
          split at hbased
          · exact absurd h (not_isSigned_of_letter (by decide) _ _)
          · exact absurd h (not_isSigned_of_letter (by decide) _ _)
          · rw [signed?_of_isSigned h.of_plus] at hbased
            exact hbased.symm
          · cases hbased
        · exact signed?_of_isSigned h
    | plus h => simp [signed?_of_isSigned h]
    | hexadecimal h => simp [signed?_of_isSigned h]
    | octal h => simp [signed?_of_isSigned h]

theorem plainInteger?_eq_none_iff {cs : List Char} : plainInteger? cs = none ↔ ∀ i, ¬IsWhole cs i := by
  simp only [Option.eq_none_iff_forall_ne_some, ne_eq, plainInteger?_eq_some_iff]

/-! ## Real numbers -/

/-- Words that are no texts, although they have no value either. -/
def pointWords : List String :=
  [".inf", ".Inf", ".INF", "+.inf", "+.Inf", "+.INF", "-.inf", "-.Inf", "-.INF", ".nan", ".NAN"]

theorem infinities_eq : infinities = pointWords := rfl

/-- A text writes a real number if it has a digit, or is the word for what is no number. -/
def IsReal (t : String) (d : Double) : Prop :=
  (t = "NaN" ∨ ∃ c ∈ t.toList, isDigit c = true) ∧ Double.ofChars? t.toList = some d

theorem not_isReal_of_pointWord {t : String} (h : t ∈ pointWords) : Double.ofChars? t.toList = none := by
  revert t
  decide

/-- What looks like a real number is a word with a point, or writes a real number. -/
theorem isReal_eq_true_iff {t : String} : isReal t = true ↔ t ∈ pointWords ∨ ∃ d, IsReal t d := by
  have hnan : ∃ d, IsReal "NaN" d := ⟨.nan, .inl rfl, by decide⟩
  rw [isReal, infinities_eq, Bool.or_eq_true, Bool.or_eq_true, Bool.and_eq_true, decide_eq_true_iff,
    decide_eq_true_iff, List.any_eq_true, Option.isSome_iff_exists, or_assoc]
  refine or_congr_right ⟨?_, ?_⟩
  · rintro (rfl | ⟨hdigit, d, hd⟩)
    · exact hnan
    · exact ⟨d, .inr hdigit, hd⟩
  · rintro ⟨d, hspelling, hd⟩
    exact hspelling.imp_right fun hdigit => ⟨hdigit, d, hd⟩

theorem IsReal.isReal_eq_true {t : String} {d : Double} (h : IsReal t d) : isReal t = true :=
  isReal_eq_true_iff.mpr (.inr ⟨d, h⟩)

theorem isReal_eq_false_iff {t : String} : isReal t = false ↔ (∀ d, ¬IsReal t d) ∧ t ∉ pointWords := by
  rw [← Bool.not_eq_true, isReal_eq_true_iff, not_or, not_exists, and_comm]

theorem ofReal?_eq_some_iff {t : String} (h : isReal t = true) {r : RawSetting} :
    ofReal? t = some r ↔ ∃ d, IsReal t d ∧ r = real d := by
  rw [ofReal?, Option.map_eq_some_iff]
  constructor
  · rintro ⟨d, hd, rfl⟩
    rcases isReal_eq_true_iff.mp h with hword | ⟨d', hspelling, -⟩
    · rw [not_isReal_of_pointWord hword] at hd
      cases hd
    · exact ⟨d, ⟨hspelling, hd⟩, rfl⟩
  · rintro ⟨d, hd, rfl⟩
    exact ⟨d, hd.2, rfl⟩

/-! ## Scalars -/

/-- The spellings of truth values and of null in a file. -/
def truthWords : List (String × Bool) :=
  [("true", true), ("false", false)]

def nullWords : List String :=
  ["", "~", "null"]

/-- A plain scalar without a tag is a text if nothing else is written like it. -/
structure IsPlainText (t : String) : Prop where
  not_whole : ∀ i, ¬IsWhole t.toList i
  not_null : t ∉ nullWords
  not_truth : ∀ b, (t, b) ∉ truthWords
  not_real : ∀ d, ¬IsReal t d
  not_point : t ∉ pointWords

/-- A scalar's tag asks for a type that nothing is written like it. -/
inductive Misfit (t : String) : String → Prop where
  | bool (h : ∀ b, (t, b) ∉ truthWords) : Misfit t Yaml.Plain.boolTag
  | int (h : ∀ i, ¬IsSigned 10 t.toList i) : Misfit t Yaml.Plain.intTag
  | float (h : ∀ d, ¬IsReal t d) (hpoint : t ∉ pointWords) : Misfit t Yaml.Plain.floatTag
  | null : Misfit t Yaml.Plain.nullTag

/-- What a scalar with a tag or without one stands for in a file. -/
inductive Stands (style : Yaml.ScalarStyle) (t : String) : Option String → RawSetting → Prop where
  | quoted {tag : Option String} (h : style ≠ .plain) : Stands style t tag (text t)
  | null (hstyle : style = .plain) (h : t ∈ nullWords) : Stands style t none null
  | bool {b : Bool} (hstyle : style = .plain) (h : (t, b) ∈ truthWords) : Stands style t none (bool b)
  | integer {i : ℤ} (hstyle : style = .plain) (h : IsWhole t.toList i) : Stands style t none (integer i)
  | real {d : Double} (hstyle : style = .plain) (hwhole : ∀ i, ¬IsWhole t.toList i) (h : IsReal t d) :
      Stands style t none (real d)
  | word (hstyle : style = .plain) (h : IsPlainText t) : Stands style t none (text t)
  | taggedBool {b : Bool} (hstyle : style = .plain) (h : (t, b) ∈ truthWords) :
      Stands style t (some Yaml.Plain.boolTag) (bool b)
  | taggedInteger {i : ℤ} (hstyle : style = .plain) (h : IsSigned 10 t.toList i) :
      Stands style t (some Yaml.Plain.intTag) (integer i)
  | taggedReal {d : Double} (hstyle : style = .plain) (h : IsReal t d) :
      Stands style t (some Yaml.Plain.floatTag) (real d)
  | misfit {tag : String} (hstyle : style = .plain) (h : Misfit t tag) : Stands style t (some tag) null
  | tagged {tag : String} (hstyle : style = .plain)
      (h : tag ∉ [Yaml.Plain.boolTag, Yaml.Plain.intTag, Yaml.Plain.floatTag, Yaml.Plain.nullTag]) :
      Stands style t (some tag) (text t)

theorem mem_truthWords_iff {t : String} {b : Bool} : (t, b) ∈ truthWords ↔ boolText b = t := by
  cases b <;> simp [truthWords, boolText, eq_comm]

theorem not_mem_truthWords_iff {t : String} :
    (∀ b, (t, b) ∉ truthWords) ↔ t ≠ "true" ∧ t ≠ "false" := by
  have htrue : (t, true) ∉ truthWords ↔ t ≠ "true" := mem_truthWords_iff.not.trans ne_comm
  have hfalse : (t, false) ∉ truthWords ↔ t ≠ "false" := mem_truthWords_iff.not.trans ne_comm
  rw [Bool.forall_bool, htrue, hfalse, and_comm]

theorem stands_of_ofPlain? {style : Yaml.ScalarStyle} {t : String} {r : RawSetting}
    (hstyle : style = .plain) (h : ofPlain? t = some r) : Stands style t none r := by
  unfold ofPlain? at h
  split at h
  · rename_i i hi
    obtain rfl := Option.some.inj h
    exact .integer hstyle (plainInteger?_eq_some_iff.mp hi)
  rename_i hnone
  have hwhole := plainInteger?_eq_none_iff.mp hnone
  split_ifs at h with hnull htrue hfalse hreal
  · obtain rfl := Option.some.inj h
    exact .null hstyle hnull
  · obtain rfl := Option.some.inj h
    exact .bool hstyle (mem_truthWords_iff.mpr htrue.symm)
  · obtain rfl := Option.some.inj h
    exact .bool hstyle (mem_truthWords_iff.mpr hfalse.symm)
  · obtain ⟨d, hd, rfl⟩ := (ofReal?_eq_some_iff hreal).mp h
    exact .real hstyle hwhole hd
  · obtain rfl := Option.some.inj h
    obtain ⟨hreal, hpoint⟩ := isReal_eq_false_iff.mp (Bool.eq_false_iff.mpr hreal)
    exact .word hstyle ⟨hwhole, hnull, not_mem_truthWords_iff.mpr ⟨htrue, hfalse⟩, hreal, hpoint⟩

theorem stands_of_ofTagged? {style : Yaml.ScalarStyle} {tag t : String} {r : RawSetting}
    (hstyle : style = .plain) (h : ofTagged? tag t = some r) : Stands style t (some tag) r := by
  unfold ofTagged? at h
  split at h
  · rename_i htag
    subst htag
    obtain rfl := Option.some.inj h
    split_ifs with htrue hfalse
    · exact .taggedBool hstyle (mem_truthWords_iff.mpr htrue.symm)
    · exact .taggedBool hstyle (mem_truthWords_iff.mpr hfalse.symm)
    · exact .misfit hstyle (.bool (not_mem_truthWords_iff.mpr ⟨htrue, hfalse⟩))
  rename_i hbool
  split at h
  · rename_i htag
    subst htag
    obtain rfl := Option.some.inj h
    cases hi : signed? 10 t.toList with
    | none => exact .misfit hstyle (.int (signed?_eq_none_iff.mp hi))
    | some i => exact .taggedInteger hstyle (signed?_eq_some_iff.mp hi)
  rename_i hint
  split at h
  · rename_i htag
    subst htag
    split at h
    · rename_i hreal
      obtain ⟨d, hd, rfl⟩ := (ofReal?_eq_some_iff hreal).mp h
      exact .taggedReal hstyle hd
    · rename_i hreal
      obtain rfl := Option.some.inj h
      obtain ⟨hreal, hpoint⟩ := isReal_eq_false_iff.mp (Bool.eq_false_iff.mpr hreal)
      exact .misfit hstyle (.float hreal hpoint)
  rename_i hfloat
  split at h
  · rename_i htag
    subst htag
    obtain rfl := Option.some.inj h
    exact .misfit hstyle .null
  · rename_i hnull
    obtain rfl := Option.some.inj h
    exact .tagged hstyle (by simp [hbool, hint, hfloat, hnull])

/-- Neither null nor a truth value is written like a real number. -/
theorem not_word_of_isReal {t : String} {d : Double} (h : IsReal t d) :
    t ∉ ["", "~", "null"] ∧ t ≠ "true" ∧ t ≠ "false" := by
  have hnone : ∀ t ∈ ["", "~", "null", "true", "false"], isReal t = false := by decide
  have hwords : t ∉ ["", "~", "null", "true", "false"] := by
    intro hmem
    have hreal := h.isReal_eq_true
    rw [hnone t hmem] at hreal
    cases hreal
  simpa [not_or, and_assoc] using hwords

theorem ofPlain?_of_stands {t : String} {r : RawSetting} (h : Stands .plain t none r) :
    ofPlain? t = some r := by
  cases h with
  | quoted h => exact absurd rfl h
  | null _ h =>
      simp only [nullWords, List.mem_cons, List.not_mem_nil, or_false] at h
      rcases h with rfl | rfl | rfl <;> rfl
  | @bool b _ h =>
      obtain rfl := mem_truthWords_iff.mp h
      cases b <;> rfl
  | integer _ h => rw [ofPlain?, plainInteger?_eq_some_iff.mpr h]
  | @real d _ hwhole h =>
      obtain ⟨hnull, htrue, hfalse⟩ := not_word_of_isReal h
      have hreal := h.isReal_eq_true
      rw [ofPlain?, plainInteger?_eq_none_iff.mpr hwhole]
      dsimp only
      rw [if_neg hnull, if_neg htrue, if_neg hfalse, if_pos hreal]
      exact (ofReal?_eq_some_iff hreal).mpr ⟨d, h, rfl⟩
  | word _ h =>
      obtain ⟨htrue, hfalse⟩ := not_mem_truthWords_iff.mp h.not_truth
      have hnull : t ∉ ["", "~", "null"] := h.not_null
      rw [ofPlain?, plainInteger?_eq_none_iff.mpr h.not_whole]
      dsimp only
      rw [if_neg hnull, if_neg htrue, if_neg hfalse, isReal_eq_false_iff.mpr ⟨h.not_real, h.not_point⟩,
        if_neg Bool.false_ne_true]

theorem ofTagged?_of_stands {tag t : String} {r : RawSetting} (h : Stands .plain t (some tag) r) :
    ofTagged? tag t = some r := by
  have hint : Yaml.Plain.intTag ≠ Yaml.Plain.boolTag := by decide
  have hfloat : Yaml.Plain.floatTag ∉ [Yaml.Plain.boolTag, Yaml.Plain.intTag] := by decide
  unfold ofTagged?
  cases h with
  | quoted h => exact absurd rfl h
  | @taggedBool b _ h =>
      obtain rfl := mem_truthWords_iff.mp h
      cases b <;> rfl
  | taggedInteger _ h => simp [hint, signed?_of_isSigned h]
  | @taggedReal d _ h =>
      have hreal := h.isReal_eq_true
      simp only [List.mem_cons, List.not_mem_nil, or_false, not_or] at hfloat
      rw [if_neg hfloat.1, if_neg hfloat.2, if_pos rfl, if_pos hreal]
      exact (ofReal?_eq_some_iff hreal).mpr ⟨d, h, rfl⟩
  | misfit _ h =>
      cases h with
      | bool h =>
          obtain ⟨htrue, hfalse⟩ := not_mem_truthWords_iff.mp h
          rw [if_pos rfl, if_neg htrue, if_neg hfalse]
      | int h => simp [hint, signed?_eq_none_iff.mpr h]
      | float h hpoint =>
          simp only [List.mem_cons, List.not_mem_nil, or_false, not_or] at hfloat
          rw [if_neg hfloat.1, if_neg hfloat.2, if_pos rfl, isReal_eq_false_iff.mpr ⟨h, hpoint⟩,
            if_neg Bool.false_ne_true]
      | null => rfl
  | tagged _ h =>
      simp only [List.mem_cons, List.not_mem_nil, or_false, not_or] at h
      obtain ⟨hbool, hint, hfloat, hnull⟩ := h
      rw [if_neg hbool, if_neg hint, if_neg hfloat, if_neg hnull]

/-- The rules say what the loader makes of a scalar. -/
theorem ofScalar?_eq_some_iff {p : Yaml.Properties} {style : Yaml.ScalarStyle} {t : String}
    {r : RawSetting} : ofScalar? p style t = some r ↔ Stands style t p.tag r := by
  unfold ofScalar?
  by_cases hstyle : style = .plain
  · rw [if_neg (not_not.mpr hstyle)]
    subst hstyle
    cases p.tag with
    | none => exact ⟨stands_of_ofPlain? rfl, ofPlain?_of_stands⟩
    | some tag => exact ⟨stands_of_ofTagged? rfl, ofTagged?_of_stands⟩
  · rw [if_pos hstyle, Option.some_inj]
    generalize p.tag = tag
    constructor
    · rintro rfl
      exact .quoted hstyle
    · intro h
      cases h with
      | quoted _ => rfl
      | _ => contradiction

theorem Stands.unique {style : Yaml.ScalarStyle} {tag : Option String} {t : String} {r r' : RawSetting}
    (h : Stands style t tag r) (h' : Stands style t tag r') : r = r' := by
  have hr := (ofScalar?_eq_some_iff (p := { tag })).mpr h
  exact Option.some.inj (hr.symm.trans (ofScalar?_eq_some_iff.mpr h'))

end RawSetting

end Preseed
