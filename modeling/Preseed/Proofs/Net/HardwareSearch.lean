import Mathlib.Data.List.Basic
import Preseed.Proofs.Net.Hardware

/-! # Hardware addresses in free text

A search finds an address wherever one stands, and of several the one that begins furthest left. Only one can
begin at a place: each group ends at a separator or, the last, at the end of a word. What is given is the
address in normal form with the same octets, and a search of that gives it again. -/

namespace Preseed.Net.Hardware

/-! ## Word boundaries -/

theorem isWord_of_isHexDigit {c : Char} (h : Ascii.isHexDigit c = true) : Word.isWord c = true := by
  have halphanumeric : Ascii.isAlphanumeric c = true := by
    rw [Ascii.isHexDigit_iff] at h
    rw [Ascii.isAlphanumeric_iff]
    omega
  have hascii : c.toNat < 0x80 := by
    rw [Ascii.isHexDigit_iff] at h
    omega
  rw [Word.isWord, if_pos hascii, halphanumeric, Bool.true_or]

theorem not_isSeparator_of_isHexDigit {c : Char} (h : Ascii.isHexDigit c = true) :
    isSeparator c = false := by
  rw [Ascii.isHexDigit_iff] at h
  rw [← Bool.not_eq_true, isSeparator_iff]
  omega

theorem IsGroup.ne_nil {digits : List Char} (h : IsGroup digits) : digits ≠ [] := by
  rintro rfl
  simpa using h.1

theorem Shape.ne_nil {n : Nat} {cs : List Char} (h : Shape n cs) : cs ≠ [] := by
  cases h with
  | last hdigits => exact hdigits.ne_nil
  | more => simp

theorem Shape.exists_head? {n : Nat} {cs : List Char} (h : Shape n cs) :
    ∃ c, cs.head? = some c ∧ Ascii.isHexDigit c = true := by
  have hgroup {digits : List Char} (hdigits : IsGroup digits) :
      ∃ c rest, digits = c :: rest ∧ Ascii.isHexDigit c = true := by
    obtain ⟨c, rest, rfl⟩ := List.exists_cons_of_ne_nil hdigits.ne_nil
    exact ⟨c, rest, rfl, hdigits.2 c List.mem_cons_self⟩
  cases h with
  | last hdigits =>
      obtain ⟨c, rest, rfl, hc⟩ := hgroup hdigits
      exact ⟨c, rfl, hc⟩
  | more hdigits =>
      obtain ⟨c, rest, rfl, hc⟩ := hgroup hdigits
      exact ⟨c, rfl, hc⟩

theorem Shape.head?_append {n : Nat} {cs : List Char} (h : Shape n cs) (back : List Char) :
    (cs ++ back).head? = cs.head? := by
  obtain ⟨c, hc, -⟩ := h.exists_head?
  rw [List.head?_append, hc, Option.some_or]

theorem Shape.exists_getLast? {n : Nat} {cs : List Char} (h : Shape n cs) :
    ∃ c, cs.getLast? = some c ∧ Ascii.isHexDigit c = true := by
  induction h with
  | @last digits hdigits =>
      refine ⟨digits.getLast hdigits.ne_nil, List.getLast?_eq_some_getLast _, ?_⟩
      exact hdigits.2 _ (List.getLast_mem _)
  | @more n digits rest s hdigits hsep hrest ih =>
      obtain ⟨c, hc, hhex⟩ := ih
      refine ⟨c, ?_, hhex⟩
      simp [List.getLast?_append, List.getLast?_cons, hc]

/-- An address begins and ends in digits, so a word ends or begins there if none goes on. -/
theorem Shape.isBoundary_head? {n : Nat} {cs : List Char} (h : Shape n cs) (before : Option Char) :
    isBoundary before cs.head? = true ↔ before.any Word.isWord = false := by
  obtain ⟨c, hc, hhex⟩ := h.exists_head?
  simp [isBoundary, hc, isWord_of_isHexDigit hhex]

theorem Shape.isBoundary_getLast? {n : Nat} {cs : List Char} (h : Shape n cs) (after : Option Char) :
    isBoundary cs.getLast? after = true ↔ after.any Word.isWord = false := by
  obtain ⟨c, hc, hhex⟩ := h.exists_getLast?
  simp [isBoundary, hc, isWord_of_isHexDigit hhex]

/-! ## One address at a place -/

theorem takeWhile_digits {digits rest : List Char}
    (h : ∀ c ∈ digits, Ascii.isHexDigit c = true) (hrest : rest.head?.any Ascii.isHexDigit = false) :
    (digits ++ rest).takeWhile Ascii.isHexDigit = digits := by
  rw [List.takeWhile_append_of_pos h]
  cases rest with
  | nil => simp
  | cons c rest => simp_all

/-- Each group takes the digits as far as they go. -/
theorem Shape.eq_of_append_eq {n : Nat} {cs cs' back back' : List Char} (h : Shape n cs)
    (h' : Shape n cs') (heq : cs ++ back = cs' ++ back') (hback : back.head?.any Word.isWord = false)
    (hback' : back'.head?.any Word.isWord = false) : cs = cs' := by
  have hword {rest : List Char} (hrest : rest.head?.any Word.isWord = false) :
      rest.head?.any Ascii.isHexDigit = false := by
    rw [← Bool.not_eq_true, Option.any_eq_true] at hrest ⊢
    exact fun ⟨c, hc, hhex⟩ => hrest ⟨c, hc, isWord_of_isHexDigit hhex⟩
  have hseparator {s : Char} (hs : isSeparator s = true) (rest : List Char) :
      (s :: rest).head?.any Ascii.isHexDigit = false := by
    rw [List.head?_cons, Option.any_some, ← Bool.not_eq_true]
    intro hhex
    rw [not_isSeparator_of_isHexDigit hhex] at hs
    cases hs
  induction h generalizing cs' with
  | last hdigits =>
      cases h' with
      | last hdigits' =>
          rw [← takeWhile_digits hdigits.2 (hword hback), heq, takeWhile_digits hdigits'.2 (hword hback')]
  | @more n digits rest s hdigits hs hrest ih =>
      cases h' with
      | @more _ digits' rest' s' hdigits' hs' hrest' =>
          rw [List.append_assoc, List.append_assoc, List.cons_append, List.cons_append] at heq
          have hsame : digits = digits' := by
            rw [← takeWhile_digits hdigits.2 (hseparator hs _), heq,
              takeWhile_digits hdigits'.2 (hseparator hs' _)]
          subst hsame
          obtain ⟨rfl, hrests⟩ := List.cons.inj (List.append_cancel_left heq)
          rw [ih hrest' hrests]

/-! ## Occurrences -/

/-- An address that stands in a text, with word boundaries at both ends. -/
structure Stands (text front found back : List Char) : Prop where
  text_eq : text = front ++ (found ++ back)
  shape : Shape 5 found
  starts : isBoundary front.getLast? found.head? = true
  ends : isBoundary found.getLast? back.head? = true

/-- The address that begins furthest left. -/
def IsFirst (text found : List Char) : Prop :=
  ∃ front back, Stands text front found back ∧
    ∀ front' found' back', Stands text front' found' back' → front.length ≤ front'.length

theorem matchAt?_eq_some_iff {before : Option Char} {cs found : List Char} :
    matchAt? before cs = some found ↔
      ∃ back, cs = found ++ back ∧ Shape 5 found ∧ isBoundary before found.head? = true ∧
        isBoundary found.getLast? back.head? = true := by
  constructor
  · intro h
    unfold matchAt? at h
    split at h
    · cases h
    · rename_i hstarts
      obtain ⟨⟨read, left⟩, hfind, rfl⟩ := Option.map_eq_some_iff.mp h
      obtain ⟨hshape, rfl⟩ := mem_candidates_iff.mp (List.mem_of_find?_eq_some hfind)
      have hends := List.find?_some hfind
      rw [hshape.head?_append] at hstarts
      exact ⟨left, rfl, hshape, by simpa using hstarts, hends⟩
  · rintro ⟨back, rfl, hshape, hstarts, hends⟩
    unfold matchAt?
    rw [hshape.head?_append, hstarts]
    generalize hfind : List.find? _ (candidates 5 (found ++ back)) = result
    cases result with
    | none =>
        have hnone := List.find?_eq_none.mp hfind _ (mem_candidates_iff.mpr ⟨hshape, rfl⟩)
        exact absurd hends hnone
    | some candidate =>
        obtain ⟨read, left⟩ := candidate
        obtain ⟨hshape', heq⟩ := mem_candidates_iff.mp (List.mem_of_find?_eq_some hfind)
        have hends' := List.find?_some hfind
        have hsame := hshape.eq_of_append_eq hshape' heq ((hshape.isBoundary_getLast? _).mp hends)
          ((hshape'.isBoundary_getLast? _).mp hends')
        rw [hsame]
        rfl

theorem getLast?_cons_or (c : Char) (front : List Char) (before : Option Char) :
    (c :: front).getLast?.or before = front.getLast?.or (some c) := by
  rw [List.getLast?_cons]
  cases front.getLast? <;> rfl

/-- Where nothing is found, nothing matches. -/
theorem matchAt?_eq_none_of_search? {before : Option Char} {cs front rest : List Char}
    (h : search? before cs = none) (hcs : cs = front ++ rest) :
    matchAt? (front.getLast?.or before) rest = none := by
  induction cs generalizing before front with
  | nil =>
      obtain ⟨rfl, rfl⟩ := List.append_eq_nil_iff.mp hcs.symm
      cases hmatch : matchAt? ([].getLast?.or before) [] with
      | none => rfl
      | some found =>
          obtain ⟨back, hnil, hshape, -⟩ := matchAt?_eq_some_iff.mp hmatch
          exact absurd (List.append_eq_nil_iff.mp hnil.symm).1 hshape.ne_nil
  | cons c cs ih =>
      rw [search?] at h
      cases hmatch : matchAt? before (c :: cs) with
      | some found => simp [hmatch] at h
      | none =>
          rw [hmatch] at h
          cases front with
          | nil => rwa [← List.nil_append rest, ← hcs]
          | cons d front =>
              obtain ⟨rfl, htail⟩ := List.cons.inj hcs
              rw [getLast?_cons_or]
              exact ih h htail

/-- What is found matches, and nothing does further left. -/
theorem exists_of_search? {before : Option Char} {cs found : List Char}
    (h : search? before cs = some found) :
    ∃ front rest, cs = front ++ rest ∧ matchAt? (front.getLast?.or before) rest = some found ∧
      ∀ front' rest', cs = front' ++ rest' → front'.length < front.length →
        matchAt? (front'.getLast?.or before) rest' = none := by
  induction cs generalizing before with
  | nil => cases h
  | cons c cs ih =>
      rw [search?] at h
      cases hmatch : matchAt? before (c :: cs) with
      | some here =>
          rw [hmatch] at h
          obtain rfl := Option.some.inj h
          exact ⟨[], c :: cs, rfl, hmatch, fun _ _ _ hlt => absurd hlt (Nat.not_lt_zero _)⟩
      | none =>
          rw [hmatch] at h
          obtain ⟨front, rest, rfl, hfound, hleft⟩ := ih h
          refine ⟨c :: front, rest, rfl, by rwa [getLast?_cons_or], ?_⟩
          intro front' rest' heq hlt
          cases front' with
          | nil => rwa [← List.nil_append rest', ← heq]
          | cons d front' =>
              obtain ⟨rfl, htail⟩ := List.cons.inj heq
              rw [getLast?_cons_or]
              exact hleft front' rest' htail (Nat.lt_of_succ_lt_succ hlt)

theorem stands_iff_matchAt? {text front found rest : List Char} (htext : text = front ++ rest) :
    (∃ back, Stands text front found back) ↔ matchAt? (front.getLast?.or none) rest = some found := by
  rw [matchAt?_eq_some_iff, Option.or_none]
  constructor
  · rintro ⟨back, hstands⟩
    have hrest := List.append_cancel_left (htext.symm.trans hstands.text_eq)
    exact ⟨back, hrest, hstands.shape, hstands.starts, hstands.ends⟩
  · rintro ⟨back, rfl, hshape, hstarts, hends⟩
    exact ⟨back, htext, hshape, hstarts, hends⟩

theorem Stands.matchAt?_eq {text front found back : List Char} (h : Stands text front found back) :
    matchAt? (front.getLast?.or none) (found ++ back) = some found :=
  (stands_iff_matchAt? h.text_eq).mp ⟨back, h⟩

theorem search?_eq_none_iff {text : List Char} :
    search? none text = none ↔ ∀ front found back, ¬ Stands text front found back := by
  constructor
  · intro h front found back hstands
    have hnone := matchAt?_eq_none_of_search? h hstands.text_eq
    rw [hstands.matchAt?_eq] at hnone
    cases hnone
  · intro h
    cases hfound : search? none text with
    | none => rfl
    | some found =>
        obtain ⟨front, rest, htext, hmatch, -⟩ := exists_of_search? hfound
        obtain ⟨back, hstands⟩ := (stands_iff_matchAt? htext).mpr hmatch
        exact absurd hstands (h front found back)

theorem search?_eq_some_iff {text found : List Char} :
    search? none text = some found ↔ IsFirst text found := by
  have hfirst {found : List Char} (h : search? none text = some found) : IsFirst text found := by
    obtain ⟨front, rest, htext, hmatch, hleft⟩ := exists_of_search? h
    obtain ⟨back, hstands⟩ := (stands_iff_matchAt? htext).mpr hmatch
    refine ⟨front, back, hstands, fun front' found' back' hstands' => Nat.le_of_not_lt fun hlt => ?_⟩
    have hnone := hleft front' _ hstands'.text_eq hlt
    rw [hstands'.matchAt?_eq] at hnone
    cases hnone
  refine ⟨hfirst, ?_⟩
  rintro ⟨front, back, hstands, hleast⟩
  cases hfound : search? none text with
  | none => exact absurd hstands (search?_eq_none_iff.mp hfound front found back)
  | some other =>
      obtain ⟨front', back', hstands', hleast'⟩ := hfirst hfound
      -- Both begin at the same place, where only one matches.
      have hlength := Nat.le_antisymm (hleast _ _ _ hstands') (hleast' _ _ _ hstands)
      obtain ⟨rfl, hrest⟩ :=
        List.append_inj (hstands.text_eq.symm.trans hstands'.text_eq) hlength
      rw [← hstands'.matchAt?_eq, ← hrest, hstands.matchAt?_eq]

/-! ## Octets -/

/-- The numbers that the groups of a text write. -/
def octets (cs : List Char) : List (Option Nat) :=
  (groups cs).map (Ascii.number? 16)

theorem Shape.groups_spec {n : Nat} {cs : List Char} (h : Shape n cs) :
    (groups cs).length = n + 1 ∧ ∀ g ∈ groups cs, IsGroup g := by
  have hdigit {digits : List Char} (hdigits : IsGroup digits) :
      ∀ c ∈ digits, isSeparator c = false := fun c hc =>
    not_isSeparator_of_isHexDigit (hdigits.2 c hc)
  induction h with
  | last hdigits =>
      rw [groups_eq_singleton (hdigit hdigits)]
      simpa using hdigits
  | more hdigits hs _ ih =>
      obtain ⟨hlength, hgroups⟩ := ih
      rw [groups_append_cons (hdigit hdigits) hs, List.length_cons, hlength]
      exact ⟨rfl, List.forall_mem_cons.mpr ⟨hdigits, hgroups⟩⟩

theorem exists_normalize? {cs : List Char} (h : Shape 5 cs) : ∃ out, normalize? cs = some out := by
  obtain ⟨hlength, hgroups⟩ := h.groups_spec
  refine ⟨_, normalize?_eq_some_iff.mpr ⟨hlength, fun g hg => ?_, rfl⟩⟩
  obtain ⟨hsize, hhex⟩ := hgroups g hg
  refine ⟨by omega, fun c hc => ?_⟩
  have hdigit := (Ascii.isHexDigit_iff c).mp (hhex c hc)
  omega

theorem number?_padGroup (cs : List Char) :
    Ascii.number? 16 (padGroup cs) = Ascii.number? 16 cs := by
  rw [padGroup, Ascii.number?_replicate_append, Ascii.number?_map_toLower]

theorem octets_of_normalize? {cs out : List Char} (h : normalize? cs = some out) :
    octets out = octets cs := by
  rw [octets, octets, groups_of_normalize? h, List.map_map]
  exact List.map_congr_left fun g _ => number?_padGroup g

/-- The two small digits of a number below 256. -/
def digitPair : Option Nat → List Char
  | some n => [Ascii.hexDigit (n / 16), Ascii.hexDigit (n % 16)]
  | none => []

theorem digitPair_number? {o : List Char} (hlength : o.length = 2)
    (h : ∀ c ∈ o, Ascii.isSmallHexDigit c = true) : digitPair (Ascii.number? 16 o) = o := by
  obtain ⟨a, b, rfl⟩ := List.length_eq_two.mp hlength
  obtain ⟨x, hx, hxvalue, hxdigit⟩ := Ascii.exists_hexValue? (h a (by simp))
  obtain ⟨y, hy, hyvalue, hydigit⟩ := Ascii.exists_hexValue? (h b (by simp))
  have hnumber : Ascii.number? 16 [a, b] = some (x * 16 + y) := by
    simp [Ascii.number?, hxvalue, hyvalue, hx, hy]
  have hhigh : (x * 16 + y) / 16 = x := by omega
  have hlow : (x * 16 + y) % 16 = y := by omega
  rw [hnumber, digitPair, hhigh, hlow, hxdigit, hydigit]

/-- An address in normal form is told by its octets. -/
theorem IsNormal.toList_eq {mac : String} (h : IsNormal mac) :
    mac.toList = [':'].intercalate ((octets mac.toList).map digitPair) := by
  obtain ⟨os, hlength, hos, heq⟩ := h
  have hne : os ≠ [] := by
    rintro rfl
    cases hlength
  have hgroups : groups mac.toList = os := by
    rw [heq]
    refine groups_intercalate hne fun o ho c hc => not_isSeparator_of_isHexDigit ?_
    exact Ascii.isHexDigit_of_isSmallHexDigit ((hos o ho).2 c hc)
  have hpairs : (octets mac.toList).map digitPair = os := by
    rw [octets, hgroups, List.map_map]
    calc os.map (digitPair ∘ Ascii.number? 16)
      _ = os.map id := List.map_congr_left fun o ho => digitPair_number? (hos o ho).1 (hos o ho).2
      _ = os := List.map_id os
  rw [hpairs, ← heq]

theorem IsNormal.eq_of_octets_eq {mac mac' : String} (h : IsNormal mac) (h' : IsNormal mac')
    (heq : octets mac.toList = octets mac'.toList) : mac = mac' := by
  rw [← String.toList_inj, h.toList_eq, h'.toList_eq, heq]

theorem shape_intercalate {o : List Char} {os : List (List Char)} (ho : IsGroup o)
    (hos : ∀ o ∈ os, IsGroup o) : Shape os.length ([':'].intercalate (o :: os)) := by
  induction os generalizing o with
  | nil => simpa using Shape.last ho
  | cons next os ih =>
      obtain ⟨hnext, hos⟩ := List.forall_mem_cons.mp hos
      rw [List.intercalate_cons_cons, List.append_assoc]
      exact .more ho rfl (ih hnext hos)

theorem IsNormal.shape {mac : String} (h : IsNormal mac) : Shape 5 mac.toList := by
  obtain ⟨os, hlength, hos, heq⟩ := h
  have hgroups : ∀ o ∈ os, IsGroup o := fun o ho =>
    ⟨.inr (hos o ho).1, fun c hc => Ascii.isHexDigit_of_isSmallHexDigit ((hos o ho).2 c hc)⟩
  cases os with
  | nil => cases hlength
  | cons o os =>
      obtain ⟨ho, hos⟩ := List.forall_mem_cons.mp hgroups
      have hfive : os.length = 5 := Nat.succ.inj hlength
      rw [heq, ← hfive]
      exact shape_intercalate ho hos

/-! ## The search -/

theorem find?_eq_some_iff {text mac : String} :
    find? text = some mac ↔
      ∃ found, IsFirst text.toList found ∧ IsNormal mac ∧ octets mac.toList = octets found := by
  constructor
  · intro h
    obtain ⟨out, hout, rfl⟩ := Option.map_eq_some_iff.mp h
    obtain ⟨found, hfound, hnormal⟩ := Option.bind_eq_some_iff.mp hout
    refine ⟨found, search?_eq_some_iff.mp hfound, isNormal_of_find? h, ?_⟩
    rw [String.toList_ofList, octets_of_normalize? hnormal]
  · rintro ⟨found, hfirst, hmac, hoctets⟩
    obtain ⟨front, back, hstands, -⟩ := id hfirst
    obtain ⟨out, hout⟩ := exists_normalize? hstands.shape
    have hfind : find? text = some (String.ofList out) := by
      rw [find?, search?_eq_some_iff.mpr hfirst, Option.bind_some, hout, Option.map_some]
    have hsame : octets (String.ofList out).toList = octets mac.toList := by
      rw [String.toList_ofList, octets_of_normalize? hout, hoctets]
    rw [hfind, (isNormal_of_find? hfind).eq_of_octets_eq hmac hsame]

theorem find?_isSome_iff {text : String} :
    (find? text).isSome = true ↔ ∃ front found back, Stands text.toList front found back := by
  constructor
  · intro h
    obtain ⟨mac, hmac⟩ := Option.isSome_iff_exists.mp h
    obtain ⟨found, ⟨front, back, hstands, -⟩, -⟩ := find?_eq_some_iff.mp hmac
    exact ⟨front, found, back, hstands⟩
  · rintro ⟨front, found, back, hstands⟩
    cases hsearch : search? none text.toList with
    | none => exact absurd hstands (search?_eq_none_iff.mp hsearch front found back)
    | some first =>
        obtain ⟨_, _, hfirst, -⟩ := search?_eq_some_iff.mp hsearch
        obtain ⟨out, hout⟩ := exists_normalize? hfirst.shape
        rw [find?, hsearch, Option.bind_some, hout]
        rfl

/-- A whole text that is an address has none further left. -/
theorem IsNormal.isFirst {mac : String} (h : IsNormal mac) : IsFirst mac.toList mac.toList := by
  refine ⟨[], [], ⟨by simp, h.shape, ?_, ?_⟩, fun _ _ _ _ => Nat.zero_le _⟩
  · exact (h.shape.isBoundary_head? _).mpr rfl
  · exact (h.shape.isBoundary_getLast? _).mpr rfl

/-- A search gives an address if and only if one stands in the text. It gives the octets of the one that begins
furthest left, in normal form, and searching that gives it again. -/
theorem finds_first (text : String) :
    ((find? text).isSome = true ↔ ∃ front found back, Stands text.toList front found back) ∧
    (∀ mac, find? text = some mac ↔
      ∃ found, IsFirst text.toList found ∧ IsNormal mac ∧ octets mac.toList = octets found) ∧
    (find? text).bind find? = find? text := by
  refine ⟨find?_isSome_iff, fun mac => find?_eq_some_iff, ?_⟩
  cases hfind : find? text with
  | none => rfl
  | some mac =>
      obtain ⟨-, -, hmac, -⟩ := find?_eq_some_iff.mp hfind
      exact find?_eq_some_iff.mpr ⟨mac.toList, hmac.isFirst, hmac, rfl⟩

/-- An address with short groups and both separators, among words. -/
theorem finds_first_of_short_groups :
    let text := "at 0:1B-21:a:b:c on eth0"
    let mac := "00:1b:21:0a:0b:0c"
    (∃ front found back, Stands text.toList front found back) ∧
    (∃ found, IsFirst text.toList found ∧ IsNormal mac ∧ octets mac.toList = octets found) ∧
    find? mac = some mac := by
  intro text mac
  have hfind : find? text = some mac := by decide +kernel
  obtain ⟨hsome, hfirst, hagain⟩ := finds_first text
  rw [hfind] at hsome hagain
  exact ⟨hsome.mp rfl, (hfirst mac).mp hfind, hagain⟩

/-- A group of three digits is none, and of more than six groups the first six are the address. -/
example : find? "at 1ff:0:1b:21:a:B-c:7 on" = some "00:1b:21:0a:0b:0c" := by decide +kernel

end Preseed.Net.Hardware
