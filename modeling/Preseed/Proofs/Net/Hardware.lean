import Preseed.Net.Hardware
import Preseed.Proofs.Client.Safety
import Preseed.Proofs.Text.Utf8

/-! # The text of a hardware address

A normalised address has six groups of two characters with colons between. Its characters are those of the
text that it was made of, so its groups are hexadecimal if and only if that text has nothing but hexadecimal
digits and separators. A search in free text finds only such texts. -/

namespace Preseed.Net.Hardware

/-! ## Normal form -/

/-- Six groups of two characters of a kind, with colons between. -/
def InGroups (kind : Char → Prop) (cs : List Char) : Prop :=
  ∃ octets : List (List Char), octets.length = 6 ∧
    (∀ o ∈ octets, o.length = 2 ∧ ∀ c ∈ o, kind c) ∧ cs = [':'].intercalate octets

theorem groups_eq_splitOnP (cs : List Char) : groups cs = cs.splitOnP isSeparator := by
  induction cs with
  | nil => simp [groups]
  | cons c rest ih =>
      rw [groups, List.splitOnP_cons_eq_if_modifyHead, ih]
      split
      · rfl
      · cases h : rest.splitOnP isSeparator with
        | nil => exact absurd h (List.splitOnP_ne_nil isSeparator rest)
        | cons piece pieces => rfl

theorem groups_eq_singleton {cs : List Char} (h : ∀ c ∈ cs, isSeparator c = false) :
    groups cs = [cs] := by
  rw [groups_eq_splitOnP, List.splitOnP_eq_singleton h]

theorem groups_append_cons {cs : List Char} {s : Char} (h : ∀ c ∈ cs, isSeparator c = false)
    (hs : isSeparator s = true) (rest : List Char) : groups (cs ++ s :: rest) = cs :: groups rest := by
  rw [groups_eq_splitOnP, groups_eq_splitOnP, List.splitOnP_append_cons_of_forall_mem h s hs]

theorem groups_intercalate {parts : List (List Char)} (hne : parts ≠ [])
    (h : ∀ part ∈ parts, ∀ c ∈ part, isSeparator c = false) :
    groups ([':'].intercalate parts) = parts := by
  induction parts with
  | nil => exact absurd rfl hne
  | cons part parts ih =>
      obtain ⟨hpart, hparts⟩ := List.forall_mem_cons.mp h
      by_cases hnil : parts = []
      · rw [hnil, List.intercalate_singleton, groups_eq_singleton hpart]
      · rw [List.intercalate_cons_of_ne_nil hnil, List.append_assoc, List.singleton_append,
          groups_append_cons hpart rfl, ih hnil hparts]

theorem flatten_groups (cs : List Char) :
    (groups cs).flatten = cs.filter fun c => !isSeparator c := by
  induction cs with
  | nil => rfl
  | cons c rest ih =>
      rw [groups]
      by_cases hc : isSeparator c = true
      · rw [if_pos hc, List.flatten_cons, List.nil_append, ih, List.filter_cons_of_neg (by simp [hc])]
      · rw [if_neg hc, List.filter_cons_of_pos (by simp [hc]), ← ih]
        cases groups rest with
        | nil => rfl
        | cons piece pieces => rfl

theorem forall_mem_groups {p : Char → Prop} {cs : List Char} :
    (∀ g ∈ groups cs, ∀ c ∈ g, p c) ↔ ∀ c ∈ cs, isSeparator c = true ∨ p c := by
  have hflatten : (∀ g ∈ groups cs, ∀ c ∈ g, p c) ↔ ∀ c ∈ (groups cs).flatten, p c := by
    simp only [List.mem_flatten]
    exact ⟨fun h c ⟨g, hg, hc⟩ => h g hg c hc, fun h g hg c hc => h c ⟨g, hg, hc⟩⟩
  rw [hflatten, flatten_groups]
  refine forall_congr' fun c => ?_
  rw [List.mem_filter]
  cases isSeparator c <;> simp

theorem not_isSeparator_of_mem_groups {cs : List Char} :
    ∀ g ∈ groups cs, ∀ c ∈ g, isSeparator c = false :=
  forall_mem_groups.mpr fun c _ => Bool.eq_false_or_eq_true (isSeparator c)

theorem length_padGroup {cs : List Char} (h : cs.length ≤ 2) : (padGroup cs).length = 2 := by
  rw [padGroup, List.length_append, List.length_replicate, List.length_map]
  omega

theorem forall_mem_padGroup {p : Char → Prop} (hzero : p '0') {cs : List Char} :
    (∀ c ∈ padGroup cs, p c) ↔ ∀ c ∈ cs, p c.toLower := by
  have hreplicate : ∀ c ∈ List.replicate (2 - cs.length) '0', p c := fun c hc =>
    (List.eq_of_mem_replicate hc).symm ▸ hzero
  rw [padGroup, List.forall_mem_append, List.forall_mem_map]
  exact and_iff_right hreplicate

theorem toLower_lt_iff (c : Char) : c.toLower.toNat < 0x80 ↔ c.toNat < 0x80 := by
  rw [Ascii.toNat_toLower]
  split <;> omega

/-- The padding makes two characters at least, and no character is less than a byte. -/
theorem length_encode_padGroup_iff {cs : List Char} :
    (Utf8.encode (padGroup cs)).length = 2 ↔ cs.length ≤ 2 ∧ ∀ c ∈ cs, c.toNat < 0x80 := by
  have hascii : (∀ c ∈ padGroup cs, c.toNat < 0x80) ↔ ∀ c ∈ cs, c.toNat < 0x80 := by
    rw [forall_mem_padGroup (p := fun c => c.toNat < 0x80) (by decide)]
    simp only [toLower_lt_iff]
  constructor
  · intro h
    have hle := Utf8.length_encode_le (padGroup cs)
    have hlength : (padGroup cs).length = 2 - cs.length + cs.length := by
      rw [padGroup, List.length_append, List.length_replicate, List.length_map]
    exact ⟨by omega, hascii.mp ((Utf8.length_encode_eq_iff _).mp (by omega))⟩
  · rintro ⟨hlength, hcs⟩
    rw [(Utf8.length_encode_eq_iff _).mpr (hascii.mpr hcs), length_padGroup hlength]

/-- A text has an address if it has six groups of at most two ASCII characters each. -/
theorem normalize?_eq_some_iff {cs out : List Char} :
    normalize? cs = some out ↔
      (groups cs).length = 6 ∧ (∀ g ∈ groups cs, g.length ≤ 2 ∧ ∀ c ∈ g, c.toNat < 0x80) ∧
        out = [':'].intercalate ((groups cs).map padGroup) := by
  have hform : (((groups cs).map padGroup).length == 6 &&
      ((groups cs).map padGroup).all fun o => (Utf8.encode o).length == 2) = true ↔
        (groups cs).length = 6 ∧ ∀ g ∈ groups cs, g.length ≤ 2 ∧ ∀ c ∈ g, c.toNat < 0x80 := by
    simp [length_encode_padGroup_iff]
  rw [normalize?, Option.ite_none_right_eq_some, hform, Option.some_inj, and_assoc, eq_comm (b := out)]

/-- The characters of an address are those of its text in small letters, zeros and colons. -/
theorem forall_mem_normalize? {p : Char → Prop} (hzero : p '0') (hcolon : p ':')
    {cs out : List Char} (h : normalize? cs = some out) :
    (∀ c ∈ out, p c) ↔ ∀ c ∈ cs, isSeparator c = true ∨ p c.toLower := by
  obtain ⟨-, -, rfl⟩ := normalize?_eq_some_iff.mp h
  rw [← forall_mem_groups]
  constructor
  · intro hout g hg
    rw [← forall_mem_padGroup hzero]
    intro c hc
    exact hout c (Split.mem_intercalate_of_mem (List.mem_map_of_mem hg) hc)
  · intro hgroups c hc
    rcases Split.mem_of_mem_intercalate hc with hc | ⟨o, ho, hc⟩
    · rw [List.mem_singleton.mp hc]
      exact hcolon
    · obtain ⟨g, hg, rfl⟩ := List.mem_map.mp ho
      exact (forall_mem_padGroup hzero).mpr (hgroups g hg) c hc

theorem isSeparator_iff (c : Char) : isSeparator c = true ↔ c.toNat = 58 ∨ c.toNat = 45 := by
  rw [isSeparator, Bool.or_eq_true, beq_iff_eq, beq_iff_eq, ← Char.toNat_inj, ← Char.toNat_inj]
  exact Iff.rfl

theorem isSeparator_toLower (c : Char) : isSeparator c.toLower = isSeparator c := by
  rw [Bool.eq_iff_iff, isSeparator_iff, isSeparator_iff, Ascii.toNat_toLower]
  split <;> omega

theorem groups_of_normalize? {cs out : List Char} (h : normalize? cs = some out) :
    groups out = (groups cs).map padGroup := by
  obtain ⟨hlength, -, rfl⟩ := normalize?_eq_some_iff.mp h
  have hne : (groups cs).map padGroup ≠ [] := by
    rw [← List.length_pos_iff, List.length_map, hlength]
    decide
  refine groups_intercalate hne (List.forall_mem_map.mpr fun g hg => ?_)
  rw [forall_mem_padGroup (p := fun c => isSeparator c = false) (by decide)]
  intro c hc
  rw [isSeparator_toLower]
  exact not_isSeparator_of_mem_groups g hg c hc

theorem InGroups.forall_mem {kind : Char → Prop} {cs : List Char} (h : InGroups kind cs) :
    ∀ c ∈ cs, c = ':' ∨ kind c := by
  obtain ⟨octets, -, hoctets, rfl⟩ := h
  intro c hc
  rcases Split.mem_of_mem_intercalate hc with hc | ⟨o, ho, hc⟩
  · exact .inl (List.mem_singleton.mp hc)
  · exact .inr ((hoctets o ho).2 c hc)

/-- The groups of an address are of a kind if and only if its text is, but for separators and capitals. -/
theorem inGroups_iff {kind : Char → Prop} (hzero : kind '0') {cs out : List Char}
    (h : normalize? cs = some out) :
    InGroups kind out ↔ ∀ c ∈ cs, isSeparator c = true ∨ kind c.toLower := by
  constructor
  · intro hout c hc
    have hall := (forall_mem_normalize? (.inr hzero) (.inl rfl) h).mp hout.forall_mem c hc
    rcases hall with hsep | hcolon | hkind
    · exact .inl hsep
    · refine .inl ?_
      rw [← isSeparator_toLower, hcolon]
      rfl
    · exact .inr hkind
  · intro hcs
    obtain ⟨hlength, hsize, rfl⟩ := normalize?_eq_some_iff.mp h
    refine ⟨(groups cs).map padGroup, by rw [List.length_map, hlength], ?_, rfl⟩
    rw [List.forall_mem_map]
    intro g hg
    refine ⟨length_padGroup (hsize g hg).1, ?_⟩
    rw [forall_mem_padGroup hzero]
    exact forall_mem_groups.mpr hcs g hg

/-- A character that any address may have: it is ASCII, no separator and no capital letter. -/
def IsPlain (c : Char) : Prop :=
  c.toNat < 0x80 ∧ isSeparator c = false ∧ c.toLower = c

theorem inGroups_isPlain {cs out : List Char} (h : normalize? cs = some out) :
    InGroups IsPlain out := by
  have hascii : ∀ c ∈ cs, isSeparator c = true ∨ c.toLower.toNat < 0x80 := by
    refine forall_mem_groups.mp fun g hg c hc => (toLower_lt_iff c).mpr ?_
    exact ((normalize?_eq_some_iff.mp h).2.1 g hg).2 c hc
  -- A small letter is its own small letter, and no separator becomes one or is made of another character.
  refine (inGroups_iff ⟨by decide, by decide, by decide⟩ h).mpr fun c hc => ?_
  rcases hascii c hc with hsep | hlow
  · exact .inl hsep
  · cases hsep : isSeparator c with
    | true => exact .inl rfl
    | false =>
        refine .inr ⟨hlow, (isSeparator_toLower c).trans hsep, Char.toNat_inj.mp ?_⟩
        rw [Ascii.toNat_toLower c.toLower, Ascii.toNat_toLower c]
        by_cases hcapital : 65 ≤ c.toNat ∧ c.toNat ≤ 90
        · rw [if_pos hcapital, if_neg (by omega)]
        · rw [if_neg hcapital, if_neg hcapital]

/-- Six groups of two hexadecimal digits in small letters, with colons between. -/
def IsNormal (mac : String) : Prop :=
  InGroups (fun c => Ascii.isSmallHexDigit c = true) mac.toList

theorem isNormal_iff {cs : List Char} {mac : String} (h : normalize? cs = some mac.toList) :
    IsNormal mac ↔ ∀ c ∈ cs, isSeparator c = true ∨ Ascii.isHexDigit c = true := by
  rw [IsNormal, inGroups_iff (by decide) h]
  simp only [Ascii.isSmallHexDigit_toLower]

theorem IsNormal.isPlain {mac : String} (h : IsNormal mac) : InGroups IsPlain mac.toList := by
  obtain ⟨octets, hlength, hoctets, heq⟩ := h
  refine ⟨octets, hlength, fun o ho => ⟨(hoctets o ho).1, fun c hc => ?_⟩, heq⟩
  have hhex := (Ascii.isSmallHexDigit_iff c).mp ((hoctets o ho).2 c hc)
  refine ⟨by omega, ?_, Char.toNat_inj.mp ?_⟩
  · rw [← Bool.not_eq_true, isSeparator_iff]
    omega
  · rw [Ascii.toNat_toLower, if_neg (by omega)]

theorem isSafe_iff_of_normalize? {cs : List Char} {mac : String}
    (h : normalize? cs = some mac.toList) :
    isSafe mac = true ↔ ∀ c ∈ cs, isSafeChar c = true := by
  have hseparator (c : Char) (hc : isSeparator c = true) : isSafeChar c = true := by
    rw [isSeparator, Bool.or_eq_true, beq_iff_eq, beq_iff_eq] at hc
    rcases hc with rfl | rfl <;> decide
  rw [isSafe_iff, forall_mem_normalize? (by decide) (by decide) h]
  refine forall₂_congr fun c _ => ?_
  rw [isSafeChar_toLower]
  exact ⟨fun hc => hc.elim (hseparator c) id, .inr⟩

theorem IsNormal.isSafe {mac : String} (h : IsNormal mac) : isSafe mac = true := by
  rw [isSafe_iff]
  intro c hc
  rcases h.forall_mem c hc with rfl | hhex
  · decide
  · refine isSafeChar_of_isAlphanumeric ?_
    rw [Ascii.isAlphanumeric_iff]
    rw [Ascii.isSmallHexDigit_iff] at hhex
    omega

/-! ## Free text -/

/-- A group of one or two hexadecimal digits. -/
def IsGroup (digits : List Char) : Prop :=
  (digits.length = 1 ∨ digits.length = 2) ∧ ∀ c ∈ digits, Ascii.isHexDigit c = true

/-- A number of groups and one more, with separators between. -/
inductive Shape : Nat → List Char → Prop where
  | last {digits : List Char} : IsGroup digits → Shape 0 digits
  | more {n : Nat} {digits rest : List Char} {s : Char} : IsGroup digits → isSeparator s = true →
      Shape n rest → Shape (n + 1) (digits ++ s :: rest)

theorem Shape.forall_mem {n : Nat} {cs : List Char} (h : Shape n cs) :
    ∀ c ∈ cs, isSeparator c = true ∨ Ascii.isHexDigit c = true := by
  induction h with
  | last hdigits => exact fun c hc => .inr (hdigits.2 c hc)
  | more hdigits hsep _ ih =>
      intro c hc
      rcases List.mem_append.mp hc with hc | hc
      · exact .inr (hdigits.2 c hc)
      rcases List.mem_cons.mp hc with rfl | hc
      · exact .inl hsep
      · exact ih c hc

theorem mem_candidates_iff_group {n : Nat} {cs read left : List Char} :
    (read, left) ∈ candidates n cs ↔
      ∃ digits rest, IsGroup digits ∧ cs = digits ++ rest ∧
        (read, left) ∈ candidates.more n digits rest := by
  constructor
  · intro h
    match cs with
    | [] => cases h
    | [c] =>
        rw [candidates] at h
        split at h
        · rename_i hc
          exact ⟨[c], [], ⟨.inl rfl, by simpa using hc⟩, rfl, h⟩
        · cases h
    | c :: d :: rest =>
        rw [candidates] at h
        split at h
        · cases h
        · rename_i hc
          have hc : Ascii.isHexDigit c = true := by simpa using hc
          rcases List.mem_append.mp h with h | h
          · split at h
            · rename_i hd
              exact ⟨[c, d], rest, ⟨.inr rfl, by simp [hc, hd]⟩, rfl, h⟩
            · cases h
          · exact ⟨[c], d :: rest, ⟨.inl rfl, by simpa using hc⟩, rfl, h⟩
  · rintro ⟨digits, rest, ⟨hlength, hhex⟩, rfl, h⟩
    match digits, rest with
    | [c], [] =>
        have hc : Ascii.isHexDigit c = true := by simpa using hhex
        rw [List.append_nil, candidates, if_pos hc]
        exact h
    | [c], d :: rest =>
        have hc : Ascii.isHexDigit c = true := by simpa using hhex
        rw [List.singleton_append, candidates, if_neg (by simp [hc])]
        exact List.mem_append_right _ h
    | [c, d], rest =>
        obtain ⟨hc, hd⟩ : Ascii.isHexDigit c = true ∧ Ascii.isHexDigit d = true := by simpa using hhex
        rw [List.cons_append, List.singleton_append, candidates, if_neg (by simp [hc]), if_pos hd]
        exact List.mem_append_left _ h
    | [], _ => simp at hlength
    | _ :: _ :: _ :: _, _ => simp at hlength

/-- The candidates at the head of a text are the shapes that it begins with. -/
theorem mem_candidates_iff {n : Nat} {cs read left : List Char} :
    (read, left) ∈ candidates n cs ↔ Shape n read ∧ cs = read ++ left := by
  induction n generalizing cs read with
  | zero =>
      rw [mem_candidates_iff_group]
      constructor
      · rintro ⟨digits, rest, hdigits, rfl, h⟩
        rw [candidates.more] at h
        obtain ⟨rfl, rfl⟩ := Prod.mk.inj (List.mem_singleton.mp h)
        exact ⟨.last hdigits, rfl⟩
      · rintro ⟨hshape, rfl⟩
        cases hshape with
        | last hdigits => exact ⟨read, left, hdigits, rfl, by simp [candidates.more]⟩
  | succ n ih =>
      rw [mem_candidates_iff_group]
      constructor
      · rintro ⟨digits, rest, hdigits, rfl, h⟩
        cases rest with
        | nil => cases h
        | cons s rest =>
            rw [candidates.more] at h
            split at h
            · rename_i hsep
              obtain ⟨⟨read', left'⟩, hmem, heq⟩ := List.mem_map.mp h
              obtain ⟨rfl, rfl⟩ := Prod.mk.inj heq
              obtain ⟨hshape, rfl⟩ := ih.mp hmem
              exact ⟨.more hdigits hsep hshape, by simp⟩
            · cases h
      · rintro ⟨hshape, rfl⟩
        cases hshape with
        | @more _ digits rest s hdigits hsep hshape =>
            refine ⟨digits, s :: (rest ++ left), hdigits, by simp, ?_⟩
            rw [candidates.more, if_pos hsep]
            exact List.mem_map.mpr ⟨(rest, left), ih.mpr ⟨hshape, rfl⟩, rfl⟩

theorem shape_of_search? {before : Option Char} {cs found : List Char}
    (h : search? before cs = some found) : Shape 5 found := by
  induction cs generalizing before with
  | nil => cases h
  | cons c rest ih =>
      rw [search?] at h
      split at h
      · rename_i hmatch
        obtain rfl := Option.some.inj h
        unfold matchAt? at hmatch
        split at hmatch
        · cases hmatch
        · obtain ⟨⟨read, left⟩, hfind, rfl⟩ := Option.map_eq_some_iff.mp hmatch
          exact (mem_candidates_iff.mp (List.mem_of_find?_eq_some hfind)).1
      · exact ih h

/-- What is found in free text has hexadecimal digits only. -/
theorem isNormal_of_find? {text mac : String} (h : find? text = some mac) : IsNormal mac := by
  obtain ⟨out, hout, rfl⟩ := Option.map_eq_some_iff.mp h
  obtain ⟨found, hfound, hnormal⟩ := Option.bind_eq_some_iff.mp hout
  rw [← String.toList_ofList (l := out)] at hnormal
  exact (isNormal_iff hnormal).mpr (shape_of_search? hfound).forall_mem

end Preseed.Net.Hardware
