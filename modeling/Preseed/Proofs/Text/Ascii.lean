import Mathlib.Data.List.Induction
import Mathlib.Data.Nat.Init
import Mathlib.Tactic.SplitIfs
import Preseed.Text.Ascii

/-! # Letters and digits by their numbers -/

namespace Preseed.Ascii

theorem isDigit_iff (c : Char) : isDigit c = true ↔ 48 ≤ c.toNat ∧ c.toNat ≤ 57 := by
  simp only [isDigit, Bool.and_eq_true, decide_eq_true_eq]
  exact Iff.rfl

theorem isLetter_iff (c : Char) :
    isLetter c = true ↔
      (97 ≤ c.toNat ∧ c.toNat ≤ 122) ∨ (65 ≤ c.toNat ∧ c.toNat ≤ 90) := by
  simp only [isLetter, Bool.or_eq_true, Bool.and_eq_true, decide_eq_true_eq]
  exact Iff.rfl

theorem isAlphanumeric_iff (c : Char) :
    isAlphanumeric c = true ↔
      (48 ≤ c.toNat ∧ c.toNat ≤ 57) ∨
        (97 ≤ c.toNat ∧ c.toNat ≤ 122) ∨ (65 ≤ c.toNat ∧ c.toNat ≤ 90) := by
  rw [isAlphanumeric, Bool.or_eq_true, isDigit_iff, isLetter_iff]

theorem hexValue?_hexDigit : ∀ d < 16, hexValue? (hexDigit d) = some d := by
  decide

theorem isAlphanumeric_digitChar : ∀ d < 16, isAlphanumeric (Nat.digitChar d) = true := by
  decide

/-- Numbers are written by letters and digits. -/
theorem isAlphanumeric_toDigits {b : ℕ} (hb : 1 < b) (hbase : b ≤ 16) {n : ℕ} :
    ∀ c ∈ Nat.toDigits b n, isAlphanumeric c = true := by
  induction n using Nat.strong_induction_on with
  | _ n ih =>
      intro c hc
      rw [Nat.toDigits_eq_if hb] at hc
      split at hc
      · obtain rfl := List.mem_singleton.mp hc
        exact isAlphanumeric_digitChar n (by omega)
      · rcases List.mem_append.mp hc with hc | hc
        · exact ih (n / b) (Nat.div_lt_self (by omega) hb) c hc
        · obtain rfl := List.mem_singleton.mp hc
          have hlt : n % b < b := Nat.mod_lt n (by omega)
          exact isAlphanumeric_digitChar (n % b) (by omega)

/-! ## Case -/

theorem toNat_toLower (c : Char) :
    c.toLower.toNat = if 65 ≤ c.toNat ∧ c.toNat ≤ 90 then c.toNat + 32 else c.toNat := by
  have hcapital : (c.val ≥ 'A'.val ∧ c.val ≤ 'Z'.val) ↔ 65 ≤ c.toNat ∧ c.toNat ≤ 90 := Iff.rfl
  unfold Char.toLower
  split
  · rename_i h
    rw [if_pos (hcapital.mp h)]
    have hle : c.toNat ≤ 90 := (hcapital.mp h).2
    change (c.val + 32).toNat = c.toNat + 32
    rw [UInt32.toNat_add, Nat.mod_eq_of_lt]
    · rfl
    · change c.toNat + 32 < 2 ^ 32
      omega
  · rename_i h
    rw [if_neg (mt hcapital.mpr h)]

theorem toLower_of_isDigit {c : Char} (h : isDigit c = true) : c.toLower = c := by
  rw [isDigit_iff] at h
  rw [← Char.toNat_inj, toNat_toLower, if_neg (by omega)]

/-! ## Hexadecimal digits -/

theorem hexValue?_eq (c : Char) :
    hexValue? c =
      if 48 ≤ c.toNat ∧ c.toNat ≤ 57 then some (c.toNat - 48)
      else if 97 ≤ c.toNat ∧ c.toNat ≤ 102 then some (c.toNat - 97 + 10)
      else if 65 ≤ c.toNat ∧ c.toNat ≤ 70 then some (c.toNat - 65 + 10)
      else none := by
  simp only [hexValue?, isDigit_iff, Bool.and_eq_true, decide_eq_true_iff]
  rfl

theorem isHexDigit_iff (c : Char) :
    isHexDigit c = true ↔
      (48 ≤ c.toNat ∧ c.toNat ≤ 57) ∨ (97 ≤ c.toNat ∧ c.toNat ≤ 102) ∨
        (65 ≤ c.toNat ∧ c.toNat ≤ 70) := by
  rw [isHexDigit, hexValue?_eq]
  split_ifs <;> simp [*]

theorem hexValue?_toLower (c : Char) : hexValue? c.toLower = hexValue? c := by
  rw [hexValue?_eq, hexValue?_eq, toNat_toLower]
  by_cases hcapital : 65 ≤ c.toNat ∧ c.toNat ≤ 90
  · rw [if_pos hcapital]
    by_cases hdigit : c.toNat ≤ 70
    · rw [if_neg (by omega), if_pos (by omega), if_neg (by omega), if_neg (by omega),
        if_pos (by omega)]
      exact congrArg some (by omega)
    · rw [if_neg (by omega), if_neg (by omega), if_neg (by omega), if_neg (by omega),
        if_neg (by omega), if_neg (by omega)]
  · rw [if_neg hcapital]

/-- A hexadecimal digit that is no capital letter. -/
def isSmallHexDigit (c : Char) : Bool :=
  isDigit c || ('a' ≤ c && c ≤ 'f')

theorem isSmallHexDigit_iff (c : Char) :
    isSmallHexDigit c = true ↔
      (48 ≤ c.toNat ∧ c.toNat ≤ 57) ∨ (97 ≤ c.toNat ∧ c.toNat ≤ 102) := by
  rw [isSmallHexDigit, Bool.or_eq_true, isDigit_iff, Bool.and_eq_true, decide_eq_true_iff,
    decide_eq_true_iff]
  exact Iff.rfl

theorem isSmallHexDigit_toLower (c : Char) :
    isSmallHexDigit c.toLower = true ↔ isHexDigit c = true := by
  rw [isSmallHexDigit_iff, isHexDigit_iff, toNat_toLower]
  split <;> omega

theorem isHexDigit_of_isSmallHexDigit {c : Char} (h : isSmallHexDigit c = true) :
    isHexDigit c = true := by
  rw [isSmallHexDigit_iff] at h
  rw [isHexDigit_iff]
  omega

/-- A small digit is the one that is written for its value. -/
theorem exists_hexValue? {c : Char} (h : isSmallHexDigit c = true) :
    ∃ d < 16, hexValue? c = some d ∧ hexDigit d = c := by
  rw [isSmallHexDigit_iff] at h
  rw [hexValue?_eq]
  rcases h with h | h
  · have hdigit : '0'.toNat + (c.toNat - 48) = c.toNat := by
      have hzero : '0'.toNat = 48 := rfl
      omega
    refine ⟨c.toNat - 48, by omega, if_pos h, ?_⟩
    rw [hexDigit, if_pos (by omega), hdigit, Char.ofNat_toNat]
  · have hdigit : 'a'.toNat + (c.toNat - 97 + 10 - 10) = c.toNat := by
      have hletter : 'a'.toNat = 97 := rfl
      omega
    refine ⟨c.toNat - 97 + 10, by omega, by rw [if_neg (by omega), if_pos h], ?_⟩
    rw [hexDigit, if_neg (by omega), hdigit, Char.ofNat_toNat]

/-! ## Numbers -/

theorem number?_cons_zero (cs : List Char) : number? 16 ('0' :: cs) = number? 16 cs := rfl

theorem number?_replicate_append (n : ℕ) (cs : List Char) :
    number? 16 (List.replicate n '0' ++ cs) = number? 16 cs := by
  induction n with
  | zero => rfl
  | succ n ih => rw [List.replicate_succ, List.cons_append, number?_cons_zero, ih]

theorem number?_map_toLower (base : ℕ) (cs : List Char) :
    number? base (cs.map Char.toLower) = number? base cs := by
  simp only [number?, List.foldl_map, hexValue?_toLower]

/-- A number is written by digits of its base alone. -/
theorem exists_of_number? {base n : ℕ} {cs : List Char} (h : number? base cs = some n) :
    ∀ c ∈ cs, ∃ d < base, hexValue? c = some d := by
  induction cs using List.reverseRecOn generalizing n with
  | nil => simp
  | append_singleton cs c ih =>
      rw [number?, List.foldl_append, List.foldl_cons, List.foldl_nil] at h
      split at h
      · rename_i m d hm hd
        split at h
        · rename_i hlt
          rw [List.forall_mem_append, List.forall_mem_singleton]
          exact ⟨ih hm, d, hlt, hd⟩
        · cases h
      · cases h

theorem isDigit_of_hexValue? {c : Char} {d : ℕ} (h : hexValue? c = some d) (hd : d < 10) :
    isDigit c = true := by
  rw [hexValue?_eq] at h
  rw [isDigit_iff]
  split_ifs at h with hdigit
  · exact hdigit
  all_goals
    have := Option.some.inj h
    omega

theorem isDigit_of_number? {n : ℕ} {cs : List Char} (h : number? 10 cs = some n) :
    ∀ c ∈ cs, isDigit c = true := by
  intro c hc
  obtain ⟨d, hd, hvalue⟩ := exists_of_number? h c hc
  exact isDigit_of_hexValue? hvalue hd

end Preseed.Ascii
