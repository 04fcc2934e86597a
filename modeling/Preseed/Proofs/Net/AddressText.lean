import Mathlib.Tactic.SplitIfs
import Preseed.Proofs.Net.Address

/-! # Reading an address back

The text of every address is read as that address: dotted octets, groups with and without a gap, and
version 4 addresses mapped into version 6. -/

namespace Preseed

/-! ## Numbers -/

namespace Ascii

theorem hexValue?_digitChar : ∀ d < 16, hexValue? (Nat.digitChar d) = some d := by
  decide

theorem number?_concat {base n d : ℕ} {cs : List Char} {c : Char} (h : number? base cs = some n)
    (hc : hexValue? c = some d) (hd : d < base) :
    number? base (cs ++ [c]) = some (n * base + d) := by
  unfold number? at h ⊢
  rw [List.foldl_append, h]
  simp [hc, hd]

theorem number?_toDigits {base : ℕ} (hbase : 1 < base) (hle : base ≤ 16) (n : ℕ) :
    number? base (Nat.toDigits base n) = some n := by
  induction n using Nat.strong_induction_on with
  | _ n ih =>
      rw [Nat.toDigits_eq_if hbase]
      split
      · rename_i hn
        have hdigit : number? base ([] ++ [Nat.digitChar n]) = some (0 * base + n) :=
          number?_concat rfl (hexValue?_digitChar n (by omega)) hn
        rwa [Nat.zero_mul, Nat.zero_add] at hdigit
      · have hlt : n % base < base := Nat.mod_lt n (by omega)
        rw [number?_concat (ih (n / base) (Nat.div_lt_self (by omega) hbase))
          (hexValue?_digitChar (n % base) (by omega)) hlt, Nat.div_add_mod']

theorem not_mem_toDigits {base : ℕ} (hbase : 1 < base) (hle : base ≤ 16) {c : Char}
    (hc : isAlphanumeric c = false) (n : ℕ) : c ∉ Nat.toDigits base n := by
  intro hmem
  rw [isAlphanumeric_toDigits hbase hle c hmem] at hc
  cases hc

end Ascii

namespace Net

/-! ## Version 4 -/

namespace IPv4

theorem octet?_toDigits (b : UInt8) : octet? (Nat.toDigits 10 b.toNat) = some b := by
  have hall : ∀ n < 256, octet? (Nat.toDigits 10 n) = some (UInt8.ofNat n) := by decide +kernel
  rw [hall b.toNat b.toNat_lt, UInt8.ofNat_toNat]

theorem pieces_toChars (x : IPv4) :
    Split.pieces '.' x.toChars =
      [Nat.toDigits 10 x.a.toNat, Nat.toDigits 10 x.b.toNat, Nat.toDigits 10 x.c.toNat,
        Nat.toDigits 10 x.d.toNat] := by
  have hdot : ∀ n, '.' ∉ Nat.toDigits 10 n :=
    Ascii.not_mem_toDigits (by decide) (by decide) (by decide)
  rw [toChars, Split.pieces_eq_splitOn]
  simp only [List.splitOn_append_cons_self_of_not_mem (hdot _), List.splitOn_eq_singleton (hdot _)]

theorem ofChars?_toChars (x : IPv4) : ofChars? x.toChars = some x := by
  rw [ofChars?, pieces_toChars]
  simp [octet?_toDigits]

theorem length_toChars (x : IPv4) : 7 ≤ x.toChars.length := by
  have hpos : ∀ n, 0 < (Nat.toDigits 10 n).length := fun n => Nat.length_toDigits_pos
  have ha := hpos x.a.toNat
  have hb := hpos x.b.toNat
  have hc := hpos x.c.toNat
  have hd := hpos x.d.toNat
  simp only [toChars, List.length_append, List.length_cons]
  omega

theorem colon_not_mem_toChars (x : IPv4) : ':' ∉ x.toChars := by
  have hcolon : ∀ n, ':' ∉ Nat.toDigits 10 n :=
    Ascii.not_mem_toDigits (by decide) (by decide) (by decide)
  simp [toChars, hcolon]

theorem groups_ofGroups (hi lo : UInt16) : (ofGroups hi lo).groups = [hi, lo] := by
  have hpair : ∀ g : UInt16, UInt16.ofNat ((UInt8.ofNat (g.toNat / 256)).toNat * 256 +
      (UInt8.ofNat (g.toNat % 256)).toNat) = g := by
    intro g
    have hg : g.toNat < 65536 := g.toNat_lt
    rw [UInt8.toNat_ofNat', UInt8.toNat_ofNat', Nat.mod_eq_of_lt (by omega : g.toNat / 256 < 2 ^ 8),
      Nat.mod_eq_of_lt (by omega : g.toNat % 256 < 2 ^ 8), Nat.div_add_mod', UInt16.ofNat_toNat]
  rw [groups, ofGroups, hpair, hpair]

/-- A text with a colon is no version 4 address. -/
theorem ofChars?_of_colon {cs : List Char} (h : ':' ∈ cs) : ofChars? cs = none := by
  have hoctet : ∀ piece : List Char, ':' ∈ piece → octet? piece = none := by
    intro piece hmem
    have hall : piece.all Ascii.isDigit = false :=
      List.all_eq_false.mpr ⟨':', hmem, by decide⟩
    simp [octet?, hall]
  have hpiece : ∃ piece ∈ Split.pieces '.' cs, ':' ∈ piece := by
    have hjoin : ['.'].intercalate (Split.pieces '.' cs) = cs := by
      rw [Split.pieces_eq_splitOn, List.intercalate_splitOn]
    rw [← hjoin] at h
    exact (Split.mem_of_mem_intercalate h).resolve_left (by decide)
  unfold ofChars?
  split
  · rename_i a b c d hpieces
    rw [hpieces] at hpiece
    obtain ⟨piece, hmem, hcolon⟩ := hpiece
    have hnone := hoctet piece hcolon
    simp only [List.mem_cons, List.not_mem_nil, or_false] at hmem
    rcases hmem with rfl | rfl | rfl | rfl <;> simp [hnone]
  · rfl

end IPv4

/-! ## Groups -/

namespace IPv6

theorem colon_not_mem_hexText (n : ℕ) : ':' ∉ Ascii.hexText n :=
  Ascii.not_mem_toDigits (by decide) (by decide) (by decide) n

theorem hexText_ne_nil (n : ℕ) : Ascii.hexText n ≠ [] := Nat.toDigits_ne_nil

theorem group?_hexText (g : UInt16) : group? (Ascii.hexText g.toNat) = some g := by
  have hlength : (Ascii.hexText g.toNat).length ≤ 4 :=
    (Nat.length_toDigits_le_iff (by decide) (by decide)).mpr g.toNat_lt
  have hnumber : Ascii.number? 16 (Ascii.hexText g.toNat) = some g.toNat :=
    Ascii.number?_toDigits (by decide) (by decide) g.toNat
  have hempty : (Ascii.hexText g.toNat).isEmpty = false := by
    simp [hexText_ne_nil]
  rw [group?, hempty, hnumber]
  simp [hlength]

theorem groupsOf?_hexText (dotted : Bool) (groups : List UInt16) :
    groupsOf? dotted (groups.map fun g => Ascii.hexText g.toNat) = some groups := by
  induction groups with
  | nil => rfl
  | cons g groups ih =>
      cases groups with
      | nil => simp [groupsOf?, group?_hexText]
      | cons next groups =>
          rw [List.map_cons] at ih ⊢
          rw [List.map_cons, groupsOf?, ih, group?_hexText]
          · rfl
          · simp

theorem pieces_joinGroups {groups : List UInt16} (h : groups ≠ []) :
    Split.pieces ':' (joinGroups groups) = groups.map fun g => Ascii.hexText g.toNat := by
  refine Split.pieces_intercalate (by simpa using h) ?_
  intro part hpart
  obtain ⟨g, -, rfl⟩ := List.mem_map.mp hpart
  exact colon_not_mem_hexText g.toNat

theorem sideOf?_joinGroups (dotted : Bool) (groups : List UInt16) :
    sideOf? dotted (joinGroups groups) = some groups := by
  by_cases h : groups = []
  · subst h
    rfl
  · have hne : joinGroups groups ≠ [] := by
      intro hnil
      have hpieces := pieces_joinGroups h
      rw [hnil] at hpieces
      cases groups with
      | nil => exact h rfl
      | cons g groups =>
          obtain ⟨hhead, -⟩ := List.cons.inj hpieces
          exact hexText_ne_nil g.toNat hhead.symm
    have hempty : (joinGroups groups).isEmpty = false := by simpa using hne
    rw [sideOf?, hempty, if_neg Bool.false_ne_true, pieces_joinGroups h, groupsOf?_hexText]

/-! ## The gap in a text -/

theorem cutGap?_cons_of_ne {c : Char} (h : c ≠ ':') (rest : List Char) :
    cutGap? (c :: rest) = (cutGap? rest).map fun (before, after) => (c :: before, after) := by
  cases rest with
  | nil => rfl
  | cons d rest => rw [cutGap?, if_neg fun hboth => h hboth.1]

theorem cutGap?_append_of_not_mem {cs : List Char} (h : ':' ∉ cs) (rest : List Char) :
    cutGap? (cs ++ rest) = (cutGap? rest).map fun (before, after) => (cs ++ before, after) := by
  induction cs with
  | nil => simp
  | cons c cs ih =>
      rw [List.mem_cons, not_or] at h
      rw [List.cons_append, cutGap?_cons_of_ne (Ne.symm h.1), ih h.2, Option.map_map]
      rfl

theorem joinGroups_cons_cons (g next : UInt16) (groups : List UInt16) :
    joinGroups (g :: next :: groups) =
      Ascii.hexText g.toNat ++ ':' :: joinGroups (next :: groups) := by
  simp [joinGroups, List.intercalate_cons_cons]

theorem joinGroups_cons (g : UInt16) (groups : List UInt16) :
    ∃ d tail, joinGroups (g :: groups) = d :: tail ∧ d ≠ ':' := by
  obtain ⟨d, digits, hdigits⟩ := List.exists_cons_of_ne_nil (hexText_ne_nil g.toNat)
  have hd : d ≠ ':' := by
    rintro rfl
    exact colon_not_mem_hexText g.toNat (hdigits ▸ List.mem_cons_self)
  cases groups with
  | nil => exact ⟨d, digits, by simp [joinGroups, hdigits], hd⟩
  | cons next groups =>
      exact ⟨d, digits ++ ':' :: joinGroups (next :: groups),
        by rw [joinGroups_cons_cons, hdigits, List.cons_append], hd⟩

/-- Joined groups have no gap among them. -/
theorem cutGap?_joinGroups (groups : List UInt16) (rest : List Char) :
    cutGap? (joinGroups groups ++ rest) =
      (cutGap? rest).map fun (before, after) => (joinGroups groups ++ before, after) := by
  induction groups with
  | nil => exact cutGap?_append_of_not_mem List.not_mem_nil rest
  | cons g groups ih =>
      cases groups with
      | nil =>
          have hjoin : joinGroups [g] = Ascii.hexText g.toNat := by simp [joinGroups]
          rw [hjoin]
          exact cutGap?_append_of_not_mem (colon_not_mem_hexText g.toNat) rest
      | cons next groups =>
          -- A colon before a digit opens no gap.
          have hcolon : cutGap? (':' :: (joinGroups (next :: groups) ++ rest)) =
              (cutGap? (joinGroups (next :: groups) ++ rest)).map
                fun (before, after) => (':' :: before, after) := by
            obtain ⟨d, tail, hjoin, hd⟩ := joinGroups_cons next groups
            rw [hjoin, List.cons_append, cutGap?, if_neg fun hboth => hd hboth.2]
          rw [joinGroups_cons_cons, List.append_assoc, List.cons_append,
            cutGap?_append_of_not_mem (colon_not_mem_hexText g.toNat), hcolon, ih, Option.map_map,
            Option.map_map]
          simp [Function.comp_def]

/-! ## The longest gap -/

/-- The groups of a gap are zero. -/
def IsGap (groups : List UInt16) (gap : ℕ × ℕ) : Prop :=
  ∀ i, gap.1 ≤ i → i < gap.1 + gap.2 → groups[i]? = some 0

theorem isGap_empty (groups : List UInt16) (start : ℕ) : IsGap groups (start, 0) :=
  fun _ hlow hhigh => absurd hhigh (Nat.not_lt.mpr hlow)

/-- A zero behind a run makes it longer, or starts one. -/
theorem IsGap.extend {groups : List UInt16} {start len i : ℕ} (h : IsGap groups (start, len))
    (hend : 0 < len → start + len = i) (hzero : groups[i]? = some 0) :
    IsGap groups (if len = 0 then i else start, len + 1) := by
  intro j hlow hhigh
  dsimp only at hlow hhigh
  by_cases hj : j = i
  · rw [hj, hzero]
  · split_ifs at hlow hhigh with hlen
    · omega
    · have hstart := hend (by omega)
      exact h j hlow (by dsimp only; omega)

/-- The scan stands behind the groups `done`. Its current run ends there, and the best run lies in the
groups too. -/
theorem isGap_go {groups done rest : List UInt16} {start len : ℕ} {best : ℕ × ℕ}
    (hgroups : groups = done ++ rest) (hend : 0 < len → start + len = done.length)
    (hrun : IsGap groups (start, len)) (hbest : IsGap groups best) :
    IsGap groups (longestGap.go done.length start len best rest) := by
  induction rest generalizing done start len best with
  | nil => exact hbest
  | cons g rest ih =>
      have hdone : groups = (done ++ [g]) ++ rest := by simp [hgroups]
      have hlength : (done ++ [g]).length = done.length + 1 := List.length_append
      rw [longestGap.go, ← hlength]
      split
      · rename_i hg
        have hnext := hrun.extend hend (by simp [hgroups, hg])
        refine ih hdone (fun _ => ?_) hnext ?_
        · split
          · omega
          · have hstart := hend (by omega)
            omega
        · split
          · exact hnext
          · exact hbest
      · exact ih hdone (fun h => absurd h (by omega)) (isGap_empty groups 0) hbest

theorem isGap_longestGap (groups : List UInt16) : IsGap groups (longestGap groups) := by
  have hgo : IsGap groups (longestGap.go ([] : List UInt16).length 0 0 (0, 0) groups) :=
    isGap_go rfl (fun h => absurd h (by omega)) (isGap_empty groups 0) (isGap_empty groups 0)
  exact hgo

theorem IsGap.le_length {groups : List UInt16} {gap : ℕ × ℕ} (h : IsGap groups gap)
    (hpos : 0 < gap.2) : gap.1 + gap.2 ≤ groups.length := by
  obtain ⟨hlt, -⟩ := List.getElem?_eq_some_iff.mp (h (gap.1 + gap.2 - 1) (by omega) (by omega))
  omega

theorem IsGap.append_eq {groups : List UInt16} {gap : ℕ × ℕ} (h : IsGap groups gap) :
    groups.take gap.1 ++ List.replicate gap.2 0 ++ groups.drop (gap.1 + gap.2) = groups := by
  have hzeros : (groups.drop gap.1).take gap.2 = List.replicate gap.2 0 := by
    apply List.ext_getElem?
    intro i
    rw [List.getElem?_take, List.getElem?_drop, List.getElem?_replicate]
    split
    · exact h (gap.1 + i) (by omega) (by omega)
    · rfl
  rw [← hzeros, ← List.drop_drop, List.append_assoc, List.take_append_drop, List.take_append_drop]

/-! ## Whole addresses -/

theorem ofGroups?_groups (x : IPv6) : ofGroups? x.groups = some x := by
  rw [ofGroups?, dif_pos x.length_groups]

theorem ofChars?_joinGroups (x : IPv6) : ofChars? (joinGroups x.groups) = some x := by
  have hne : x.groups ≠ [] := List.ne_nil_of_length_pos (by rw [x.length_groups]; decide)
  have hcut := cutGap?_joinGroups x.groups []
  rw [List.append_nil] at hcut
  rw [ofChars?, hcut]
  change (groupsOf? true (Split.pieces ':' (joinGroups x.groups))).bind ofGroups? = some x
  rw [pieces_joinGroups hne, groupsOf?_hexText]
  exact ofGroups?_groups x

/-- A gap stands for as many groups as are missing. -/
theorem ofChars?_of_isGap {x : IPv6} {gap : ℕ × ℕ} (h : IsGap x.groups gap) (hpos : 0 < gap.2) :
    ofChars? (joinGroups (x.groups.take gap.1) ++ ':' :: ':' ::
      joinGroups (x.groups.drop (gap.1 + gap.2))) = some x := by
  have height := x.length_groups
  have hle := h.le_length hpos
  have hfront : (x.groups.take gap.1).length = gap.1 := by
    rw [List.length_take]
    omega
  have hback : (x.groups.drop (gap.1 + gap.2)).length = 8 - (gap.1 + gap.2) := by
    rw [List.length_drop, height]
  have hmissing : 8 - (gap.1 + (8 - (gap.1 + gap.2))) = gap.2 := by omega
  rw [ofChars?, cutGap?_joinGroups]
  simp only [cutGap?, and_self, if_true, Option.map_some, List.append_nil]
  rw [sideOf?_joinGroups, sideOf?_joinGroups]
  change (if _ then _ else _) = some x
  rw [hfront, hback, if_pos (by omega), hmissing, h.append_eq, ofGroups?_groups]

theorem ofChars?_toHexChars (x : IPv6) : ofChars? x.toHexChars = some x := by
  have hgap := isGap_longestGap x.groups
  unfold toHexChars
  dsimp only
  split
  · exact ofChars?_of_isGap hgap (by omega)
  · exact ofChars?_joinGroups x

theorem groups_of_mapped? {x : IPv6} {inner : IPv4} (h : x.mapped? = some inner) :
    x.groups = [0, 0, 0, 0, 0, 0xFFFF] ++ inner.groups := by
  unfold mapped? at h
  split at h
  · rename_i hi lo hgroups
    obtain rfl := Option.some.inj h
    rw [hgroups, IPv4.groups_ofGroups]
    rfl
  · cases h

theorem ofChars?_toChars (x : IPv6) : ofChars? x.toChars = some x := by
  unfold toChars
  split
  · rename_i inner hinner
    have hpieces : Split.pieces ':' ("ffff:".toList ++ inner.toChars) =
        ["ffff".toList, inner.toChars] := by
      rw [Split.pieces_eq_splitOn]
      exact (List.splitOn_append_cons_self_of_not_mem (by decide : ':' ∉ "ffff".toList) _).trans
        (congrArg _ (List.splitOn_eq_singleton inner.colon_not_mem_toChars))
    have hlong : group? inner.toChars = none := by
      have hlength := inner.length_toChars
      simp only [group?]
      rw [if_pos (by simp; omega)]
    have hlast : groupsOf? true ["ffff".toList, inner.toChars] = some (0xFFFF :: inner.groups) := by
      have hffff : group? "ffff".toList = some 0xFFFF := by decide +kernel
      simp only [groupsOf?, hffff, hlong, if_true, IPv4.ofChars?_toChars]
      rfl
    have hside : sideOf? true ("ffff:".toList ++ inner.toChars) =
        some (0xFFFF :: inner.groups) := by
      rw [sideOf?, if_neg (by simp), hpieces, hlast]
    change ofChars? (':' :: ':' :: ("ffff:".toList ++ inner.toChars)) = some x
    rw [ofChars?]
    simp only [cutGap?, and_self, if_true, hside]
    have hgroups := groups_of_mapped? hinner
    have hof := ofGroups?_groups x
    rw [hgroups] at hof
    exact hof
  · exact ofChars?_toHexChars x

theorem colon_mem_toChars (x : IPv6) : ':' ∈ x.toChars := by
  unfold toChars
  split
  · simp
  · unfold toHexChars
    dsimp only
    split
    · simp
    · have height := x.length_groups
      match hgroups : x.groups with
      | [] | [_] =>
          rw [hgroups] at height
          cases height
      | g :: next :: groups => simp [joinGroups_cons_cons]

end IPv6

/-- The text of an address is read as the address. -/
theorem Address.ofString?_toString (x : Address) : ofString? x.toString = some x := by
  rw [ofString?, Address.toString, String.toList_ofList]
  cases x with
  | v4 x => rw [toChars, ofChars?, IPv4.ofChars?_toChars]
  | v6 x =>
      rw [toChars, ofChars?, IPv4.ofChars?_of_colon x.colon_mem_toChars, IPv6.ofChars?_toChars]
      rfl

/-- Of two longest runs of zeros the first is the gap. -/
example : Address.toString (.v6 ⟨[0x2001, 0xDB8, 0, 0, 1, 0, 0, 1], rfl⟩) = "2001:db8::1:0:0:1" := by
  decide +kernel

end Net

end Preseed
