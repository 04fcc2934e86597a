import Mathlib.Tactic.SplitIfs
import Preseed.Proofs.Text.Ascii
import Preseed.Settings.Format
import Preseed.Yaml.Plain

/-! # Numbers in settings

A scalar that the reader of a text takes for a number without sign is the same number to the reader of a
file, as far as that one takes it for a whole number. -/

namespace Preseed

open Ascii (number? isDigit)

/-- A text without a plus sign in front. -/
def withoutPlus : List Char → List Char
  | '+' :: rest => rest
  | cs => cs

theorem withoutPlus_of_ne {cs : List Char} (h : ∀ rest, cs ≠ '+' :: rest) : withoutPlus cs = cs := by
  unfold withoutPlus
  split
  · exact absurd rfl (h _)
  · rfl

theorem withoutPlus_cons_of_ne {c : Char} (h : c ≠ '+') (cs : List Char) :
    withoutPlus (c :: cs) = c :: cs :=
  withoutPlus_of_ne fun _ heq => h (List.cons.inj heq).1

/-! ## Numbers without sign -/

/-- How a number without sign is written: by decimal digits, or by a base's letter and its digits. -/
inductive IsUnsigned : List Char → ℕ → Prop where
  | decimal {cs : List Char} {n : ℕ} (hne : cs ≠ []) (h : number? 10 cs = some n) : IsUnsigned cs n
  | based {letter : Char} {base : ℕ} {cs : List Char} {n : ℕ}
      (hletter : (letter, base) ∈ [('x', 16), ('o', 8), ('b', 2)]) (h : number? base cs = some n) :
      IsUnsigned ('0' :: letter :: cs) n

theorem number?_of_digits? {base n : ℕ} {cs : List Char} (h : Yaml.Plain.digits? base cs = some n) :
    cs ≠ [] ∧ number? base cs = some n := by
  unfold Yaml.Plain.digits? at h
  split at h
  · cases h
  · rename_i hne
    exact ⟨by simpa using hne, h⟩

theorem isUnsigned_of_based? {n : ℕ} {cs : List Char} (h : Yaml.Plain.based? cs = some n) :
    IsUnsigned cs n := by
  unfold Yaml.Plain.based? at h
  split at h
  · exact .based (by simp) (number?_of_digits? h).2
  · exact .based (by simp) (number?_of_digits? h).2
  · exact .based (by simp) (number?_of_digits? h).2
  · cases h

theorem isUnsigned_of_unsigned? {limit n : ℕ} {cs : List Char}
    (h : Yaml.Plain.unsigned? limit cs = some n) : IsUnsigned (withoutPlus cs) n := by
  unfold Yaml.Plain.unsigned? at h
  dsimp only at h
  split at h
  · rename_i m hbased
    obtain rfl := Option.some.inj h
    replace hbased : (Yaml.Plain.based? (withoutPlus cs)).filter (· < limit) = some m := hbased
    exact isUnsigned_of_based? (Option.eq_some_of_filter_eq_some hbased)
  · split at h
    · cases h
    · replace h : (Yaml.Plain.digits? 10 (withoutPlus cs)).filter (· < limit) = some n := h
      obtain ⟨hne, hn⟩ := number?_of_digits? (Option.eq_some_of_filter_eq_some h)
      exact .decimal hne hn

/-- It begins with a digit. -/
theorem IsUnsigned.exists_digit {cs : List Char} {n : ℕ} (h : IsUnsigned cs n) :
    ∃ c rest, cs = c :: rest ∧ isDigit c = true := by
  cases h with
  | decimal hne h =>
      obtain ⟨c, rest, rfl⟩ := List.exists_cons_of_ne_nil hne
      exact ⟨c, rest, rfl, Ascii.isDigit_of_number? h c List.mem_cons_self⟩
  | based hletter h => exact ⟨'0', _, rfl, by decide⟩

theorem IsUnsigned.isDigit_head {c : Char} {cs : List Char} {n : ℕ} (h : IsUnsigned (c :: cs) n) :
    isDigit c = true := by
  obtain ⟨c', rest, heq, hc⟩ := h.exists_digit
  rwa [(List.cons.inj heq).1]

theorem IsUnsigned.exists_head {cs : List Char} {n : ℕ} (h : IsUnsigned (withoutPlus cs) n) :
    ∃ c rest, cs = c :: rest ∧ (c = '+' ∨ isDigit c = true) := by
  obtain ⟨c, rest, heq, hc⟩ := h.exists_digit
  unfold withoutPlus at heq
  split at heq
  · exact ⟨_, _, rfl, .inl rfl⟩
  · exact ⟨c, rest, heq, .inr hc⟩

theorem not_isDigit_of_letter {letter : Char} {base : ℕ}
    (h : (letter, base) ∈ [('x', 16), ('o', 8), ('b', 2)]) : isDigit letter = false := by
  simp only [List.mem_cons, Prod.mk.injEq, List.not_mem_nil, or_false] at h
  rcases h with ⟨rfl, -⟩ | ⟨rfl, -⟩ | ⟨rfl, -⟩ <;> decide

theorem number?_of_letter {letter : Char} {base n : ℕ} {cs : List Char}
    (hletter : (letter, base) ∈ [('x', 16), ('o', 8), ('b', 2)]) :
    number? 10 ('0' :: letter :: cs) ≠ some n := by
  intro h
  have hdigit := Ascii.isDigit_of_number? h letter (by simp)
  rw [not_isDigit_of_letter hletter] at hdigit
  cases hdigit

/-- Decimal digits are the number that they write. -/
theorem IsUnsigned.eq_of_number? {cs : List Char} {n m : ℕ} (h : IsUnsigned cs n)
    (hm : number? 10 cs = some m) : n = m := by
  cases h with
  | decimal hne h => exact Option.some.inj (h.symm.trans hm)
  | based hletter h => exact absurd hm (number?_of_letter hletter)

theorem IsUnsigned.number?_of_base {letter : Char} {base n : ℕ} {cs : List Char}
    (h : IsUnsigned ('0' :: letter :: cs) n)
    (hletter : (letter, base) ∈ [('x', 16), ('o', 8), ('b', 2)]) : number? base cs = some n := by
  cases h with
  | decimal hne h => exact absurd h (number?_of_letter hletter)
  | @based _ base' _ _ hletter' h =>
      have hbase : base' = base := by
        simp only [List.mem_cons, Prod.mk.injEq, List.not_mem_nil, or_false] at hletter hletter'
        rcases hletter with ⟨rfl, rfl⟩ | ⟨rfl, rfl⟩ | ⟨rfl, rfl⟩ <;> simpa using hletter'
      exact hbase ▸ h

theorem IsUnsigned.unique {cs : List Char} {n m : ℕ} (h : IsUnsigned cs n) (h' : IsUnsigned cs m) :
    n = m := by
  cases h' with
  | decimal _ hm => exact h.eq_of_number? hm
  | based hletter hm => exact Option.some.inj ((h.number?_of_base hletter).symm.trans hm)

theorem isUnsigned_iff {cs : List Char} {n : ℕ} :
    IsUnsigned cs n ↔ cs ≠ [] ∧ number? 10 cs = some n ∨
      ∃ e ∈ [('x', 16), ('o', 8), ('b', 2)], cs.take 2 = ['0', e.1] ∧ number? e.2 (cs.drop 2) = some n := by
  constructor
  · rintro (⟨hne, h⟩ | ⟨hletter, h⟩)
    · exact .inl ⟨hne, h⟩
    · exact .inr ⟨_, hletter, rfl, h⟩
  · rintro (⟨hne, h⟩ | ⟨⟨letter, base⟩, hletter, htake, h⟩)
    · exact .decimal hne h
    · rw [← List.take_append_drop 2 cs, htake]
      exact .based hletter h

instance (cs : List Char) (n : ℕ) : Decidable (IsUnsigned cs n) :=
  decidable_of_iff' _ isUnsigned_iff

/-! ## Numbers with sign -/

namespace RawSetting

theorem number?_of_signed? {base : ℕ} {cs : List Char} {i : ℤ} (h : signed? base cs = some i) :
    (∃ digits, cs = '-' :: digits) ∨ ∃ n : ℕ, number? base (withoutPlus cs) = some n ∧ i = n := by
  unfold signed? at h
  split at h
  rename_i negative digits hsign
  split at hsign
  · exact .inl ⟨_, rfl⟩
  all_goals
    obtain ⟨rfl, rfl⟩ := Prod.mk.inj hsign
    split at h
    · cases h
    obtain ⟨n, hn, h⟩ := Option.bind_eq_some_iff.mp h
    rw [if_neg Bool.false_ne_true] at h
    split at h
    case isFalse => cases h
    obtain rfl := Option.some.inj h
  · exact .inr ⟨n, hn, rfl⟩
  · rename_i hplus _ _ _
    exact .inr ⟨n, (withoutPlus_of_ne hplus).symm ▸ hn, rfl⟩

theorem eq_of_signed? {cs : List Char} {n : ℕ} {i : ℤ} (hn : IsUnsigned (withoutPlus cs) n)
    (h : signed? 10 cs = some i) : i = n := by
  rcases number?_of_signed? h with ⟨digits, rfl⟩ | ⟨m, hm, rfl⟩
  · rw [withoutPlus_cons_of_ne (by decide)] at hn
    exact absurd hn.isDigit_head (by decide)
  · rw [hn.eq_of_number? hm]

theorem eq_of_signed?_of_number? {base n : ℕ} {cs : List Char} {i : ℤ} (hn : number? base cs = some n)
    (h : signed? base cs = some i) : i = n := by
  have hhead : ∀ c rest, cs = c :: rest → Ascii.hexValue? c ≠ none := by
    rintro c rest rfl hc
    obtain ⟨d, -, hd⟩ := Ascii.exists_of_number? hn c List.mem_cons_self
    rw [hc] at hd
    cases hd
  rcases number?_of_signed? h with ⟨digits, rfl⟩ | ⟨m, hm, rfl⟩
  · exact absurd (by decide) (hhead '-' digits rfl)
  · rw [withoutPlus_of_ne fun rest heq => hhead '+' rest heq (by decide), hn] at hm
    rw [Option.some.inj hm]

/-- A whole number of a file is the number without sign that the scalar writes. -/
theorem eq_of_plainInteger? {cs : List Char} {n : ℕ} {i : ℤ} (hn : IsUnsigned (withoutPlus cs) n)
    (h : plainInteger? cs = some i) : i = n := by
  unfold plainInteger? at h
  dsimp only at h
  split at h
  case h_2 => exact eq_of_signed? hn h
  rename_i j hbased
  obtain rfl := Option.some.inj h
  split at hbased
  · rw [withoutPlus_cons_of_ne (by decide)] at hn
    exact eq_of_signed?_of_number? (hn.number?_of_base (by simp)) hbased
  · rw [withoutPlus_cons_of_ne (by decide)] at hn
    exact eq_of_signed?_of_number? (hn.number?_of_base (by simp)) hbased
  · -- Behind one plus sign stands no other one.
    rename_i digits
    replace hn : IsUnsigned digits n := hn
    refine eq_of_signed? ?_ hbased
    rwa [withoutPlus_of_ne]
    rintro rest rfl
    exact absurd hn.isDigit_head (by decide)
  · cases hbased

theorem head_of_word : ∀ word ∈ ["true", "on", "yes", "false", "off", "no"],
    word.toList.head?.all (57 < ·.toNat) = true := by
  decide

/-- A text that begins with a sign or a digit is no word for a truth value. -/
theorem wordBool?_lower {s : String} {c : Char} {rest : List Char} (hs : s.toList = c :: rest)
    (hc : c = '+' ∨ isDigit c = true) : wordBool? (Ascii.lower s) = none := by
  have hlow : c.toLower.toNat ≤ 57 := by
    rcases hc with rfl | hc
    · decide
    · rw [Ascii.toLower_of_isDigit hc]
      exact ((Ascii.isDigit_iff c).mp hc).2
  have hword : Ascii.lower s ∉ ["true", "on", "yes", "false", "off", "no"] := by
    intro h
    have hhead := head_of_word _ h
    rw [Ascii.lower, String.toList_ofList, hs, List.map_cons, List.head?_cons, Option.all_some,
      decide_eq_true_eq] at hhead
    omega
  rw [wordBool?, if_neg fun h => hword (List.mem_append_left ["false", "off", "no"] h),
    if_neg fun h => hword (List.mem_append_right ["true", "on", "yes"] h)]

theorem eq_of_textNumber? {s : String} {n m : ℕ} (hn : IsUnsigned (withoutPlus s.toList) n)
    (h : textNumber? s = some m) : m = n := by
  obtain ⟨c, rest, hs, hc⟩ := hn.exists_head
  unfold textNumber? at h
  rw [wordBool?_lower hs hc] at h
  replace h : (if (withoutPlus s.toList).isEmpty then none
    else (number? 10 (withoutPlus s.toList)).filter (· < Nat.pow 2 64)) = some m := h
  split at h
  · cases h
  · exact (hn.eq_of_number? (Option.eq_some_of_filter_eq_some h)).symm

end RawSetting

end Preseed
