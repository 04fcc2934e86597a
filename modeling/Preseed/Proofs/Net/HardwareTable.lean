import Preseed.Proofs.Net.Hardware
import Preseed.Proofs.Text.Edits

/-! # The table of neighbours

Behind its heading a table has one line for each neighbour. The first line counts that is about the wanted
address and has a usable hardware address; the lines that are skipped may as well be missing. -/

namespace Preseed.Net.Hardware

/-! ## Lines -/

/-- A line has this hardware address for the wanted address: it is made of the fourth field, and it is known. -/
def Usable (ip : Address) (line mac : List Char) : Prop :=
  ∃ type flags field rest, Blank.words line = ip.toChars :: type :: flags :: field :: rest ∧
    normalize? field = some mac ∧ mac ≠ zero

/-- A line that has no hardware address for the wanted address. -/
inductive Skipped (ip : Address) (line : List Char) : Prop where
  | short : (Blank.words line).length < 4 → Skipped ip line
  | other {address : List Char} {rest : List (List Char)} :
      Blank.words line = address :: rest → address ≠ ip.toChars → Skipped ip line
  | unusable {address type flags field : List Char} {rest : List (List Char)} :
      Blank.words line = address :: type :: flags :: field :: rest → normalize? field = none →
        Skipped ip line
  | unknown {address type flags field : List Char} {rest : List (List Char)} :
      Blank.words line = address :: type :: flags :: field :: rest → normalize? field = some zero →
        Skipped ip line

variable {ip : Address} {line : List Char}

theorem skipped_or_usable (ip : Address) (line : List Char) :
    Skipped ip line ∨ ∃ mac, Usable ip line mac := by
  match hwords : Blank.words line with
  | [] | [_] | [_, _] | [_, _, _] => exact .inl (.short (by simp [hwords]))
  | address :: type :: flags :: field :: rest =>
      by_cases haddress : address = ip.toChars
      · subst haddress
        cases hnormal : normalize? field with
        | none => exact .inl (.unusable hwords hnormal)
        | some mac =>
            by_cases hzero : mac = zero
            · exact .inl (.unknown hwords (hzero ▸ hnormal))
            · exact .inr ⟨mac, type, flags, field, rest, hwords, hnormal, hzero⟩
      · exact .inl (.other hwords haddress)

theorem Skipped.not_usable (h : Skipped ip line) (mac : List Char) : ¬ Usable ip line mac := by
  rintro ⟨type, flags, field, rest, hwords, hnormal, hzero⟩
  have haddress : (Blank.words line)[0]? = some ip.toChars := by rw [hwords]; rfl
  have hfield : (Blank.words line)[3]? = some field := by rw [hwords]; rfl
  cases h with
  | short hlength =>
      rw [List.getElem?_eq_none_iff.mpr (Nat.le_of_lt_succ hlength)] at hfield
      cases hfield
  | other hother hne =>
      rw [hother] at haddress
      exact hne (Option.some.inj haddress)
  | unusable hother hnone =>
      rw [hother] at hfield
      obtain rfl := Option.some.inj hfield
      rw [hnone] at hnormal
      cases hnormal
  | unknown hother hunknown =>
      rw [hother] at hfield
      obtain rfl := Option.some.inj hfield
      exact hzero (Option.some.inj (hnormal.symm.trans hunknown))

theorem skipped_iff : Skipped ip line ↔ ∀ mac, ¬ Usable ip line mac := by
  refine ⟨Skipped.not_usable, fun h => ?_⟩
  rcases skipped_or_usable ip line with hskipped | ⟨mac, husable⟩
  · exact hskipped
  · exact absurd husable (h mac)

theorem ofTableLine?_eq_some_iff {mac : List Char} :
    ofTableLine? ip.toChars line = some mac ↔ Usable ip line mac := by
  constructor
  · intro h
    unfold ofTableLine? at h
    split at h
    · rename_i address type flags field rest hwords
      split at h
      · rename_i haddress
        obtain ⟨hnormal, hzero⟩ := Option.filter_eq_some_iff.mp h
        exact ⟨type, flags, field, rest, haddress ▸ hwords, hnormal, by simpa using hzero⟩
      · cases h
    · cases h
  · rintro ⟨type, flags, field, rest, hwords, hnormal, hzero⟩
    simp [ofTableLine?, hwords, hnormal, hzero]

theorem ofTableLine?_eq_none_iff :
    ofTableLine? ip.toChars line = none ↔ ∀ mac, ¬ Usable ip line mac := by
  rw [Option.eq_none_iff_forall_ne_some]
  exact forall_congr' fun mac => not_congr ofTableLine?_eq_some_iff

/-! ## Tables -/

/-- A line of a table, behind its heading, has an address and, three fields further on, this text. -/
def Lists (table : String) (ip : Address) (field : List Char) : Prop :=
  ∃ line ∈ (Lines.split table.toList).drop 1, ∃ type flags rest,
    Blank.words line = ip.toChars :: type :: flags :: field :: rest

theorem exists_of_ofTable? {table mac : String} {ip : Address} (h : ofTable? table ip = some mac) :
    ∃ field, Lists table ip field ∧ normalize? field = some mac.toList := by
  obtain ⟨out, hout, rfl⟩ := Option.map_eq_some_iff.mp h
  obtain ⟨line, hline, hout⟩ := List.exists_of_findSome?_eq_some hout
  obtain ⟨type, flags, field, rest, hwords, hnormal, -⟩ := ofTableLine?_eq_some_iff.mp hout
  exact ⟨field, ⟨line, hline, type, flags, rest, hwords⟩, by rwa [String.toList_ofList]⟩

/-- The lines behind the heading. -/
def neighbourLines (table : String) : List (List Char) :=
  (Lines.split table.toList).drop 1

theorem ofTable?_eq_some_iff {table mac : String} :
    ofTable? table ip = some mac ↔
      ∃ front line back, neighbourLines table = front ++ line :: back ∧
        (∀ l ∈ front, ∀ mac', ¬ Usable ip l mac') ∧ Usable ip line mac.toList := by
  rw [ofTable?, Option.map_eq_some_iff]
  constructor
  · rintro ⟨out, hout, rfl⟩
    obtain ⟨front, line, back, hlines, hline, hfront⟩ := List.findSome?_eq_some_iff.mp hout
    refine ⟨front, line, back, hlines, fun l hl => ofTableLine?_eq_none_iff.mp (hfront l hl), ?_⟩
    rw [String.toList_ofList]
    exact ofTableLine?_eq_some_iff.mp hline
  · rintro ⟨front, line, back, hlines, hfront, hline⟩
    refine ⟨mac.toList, List.findSome?_eq_some_iff.mpr ?_, String.ofList_toList⟩
    exact ⟨front, line, back, hlines, ofTableLine?_eq_some_iff.mpr hline,
      fun l hl => ofTableLine?_eq_none_iff.mpr (hfront l hl)⟩

theorem ofTable?_eq_none_iff {table : String} :
    ofTable? table ip = none ↔ ∀ line ∈ neighbourLines table, ∀ mac, ¬ Usable ip line mac := by
  rw [ofTable?, Option.map_eq_none_iff, List.findSome?_eq_none_iff]
  exact forall₂_congr fun line _ => ofTableLine?_eq_none_iff

theorem ofTable?_congr {table table' : String}
    (h : SameBut (Skipped ip) (neighbourLines table) (neighbourLines table')) :
    ofTable? table ip = ofTable? table' ip :=
  congrArg (Option.map String.ofList) <| h.findSome?_eq fun _ hline =>
    ofTableLine?_eq_none_iff.mpr hline.not_usable

/-! ## Unknown addresses -/

theorem toLower_eq_zero_iff (c : Char) : c.toLower = '0' ↔ c = '0' := by
  rw [← Char.toNat_inj, ← Char.toNat_inj, Ascii.toNat_toLower]
  change _ = 48 ↔ _ = 48
  split <;> omega

theorem padGroup_eq_zeros_iff {cs : List Char} (h : cs.length ≤ 2) :
    padGroup cs = ['0', '0'] ↔ ∀ c ∈ cs, c = '0' := by
  have hzeros : padGroup cs = ['0', '0'] ↔ ∀ c ∈ padGroup cs, c = '0' := by
    change _ = List.replicate 2 '0' ↔ _
    rw [List.eq_replicate_iff]
    exact and_iff_right (length_padGroup h)
  rw [hzeros, forall_mem_padGroup (p := (· = '0')) rfl]
  simp only [toLower_eq_zero_iff]

theorem normalize?_eq_zero_iff {cs : List Char} :
    normalize? cs = some zero ↔
      (groups cs).length = 6 ∧ ∀ g ∈ groups cs, g.length ≤ 2 ∧ ∀ c ∈ g, c = '0' := by
  have hgroups : groups zero = List.replicate 6 ['0', '0'] := by decide
  constructor
  · intro h
    obtain ⟨hlength, hsize, -⟩ := normalize?_eq_some_iff.mp h
    have hpadded := (List.eq_replicate_iff.mp ((groups_of_normalize? h).symm.trans hgroups)).2
    refine ⟨hlength, fun g hg => ⟨(hsize g hg).1, ?_⟩⟩
    exact (padGroup_eq_zeros_iff (hsize g hg).1).mp (hpadded _ (List.mem_map_of_mem hg))
  · rintro ⟨hlength, hzeros⟩
    have hpadded : (groups cs).map padGroup = List.replicate 6 ['0', '0'] := by
      rw [← hlength, List.map_eq_replicate_iff]
      exact fun g hg => (padGroup_eq_zeros_iff (hzeros g hg).1).mpr (hzeros g hg).2
    refine normalize?_eq_some_iff.mpr ⟨hlength, fun g hg => ⟨(hzeros g hg).1, fun c hc => ?_⟩, ?_⟩
    · rw [(hzeros g hg).2 c hc]
      decide
    · rw [hpadded]
      rfl

/-! ## The first usable line -/

/-- The address is that of the first line behind the heading that has a usable one, and there is none without
such a line. A line that is too short, is about another address, or has an address that is none or is unknown
is passed over: it may stand anywhere or be missing. A field is an address if it has six groups of at most two
ASCII characters, and an unknown one if these are zeros, however many and with whatever separators. -/
theorem first_usable (table : String) (ip : Address) :
    (∀ mac, ofTable? table ip = some mac ↔
      ∃ front line back, neighbourLines table = front ++ line :: back ∧
        (∀ l ∈ front, ∀ mac', ¬ Usable ip l mac') ∧ Usable ip line mac.toList) ∧
    (ofTable? table ip = none ↔ ∀ line ∈ neighbourLines table, ∀ mac, ¬ Usable ip line mac) ∧
    (∀ line, Skipped ip line ↔ ∀ mac, ¬ Usable ip line mac) ∧
    (∀ table', SameBut (Skipped ip) (neighbourLines table) (neighbourLines table') →
      ofTable? table' ip = ofTable? table ip) ∧
    (∀ field mac, normalize? field = some mac ↔
      (groups field).length = 6 ∧ (∀ g ∈ groups field, g.length ≤ 2 ∧ ∀ c ∈ g, c.toNat < 0x80) ∧
        mac = [':'].intercalate ((groups field).map padGroup)) ∧
    ∀ field, normalize? field = some zero ↔
      (groups field).length = 6 ∧ ∀ g ∈ groups field, g.length ≤ 2 ∧ ∀ c ∈ g, c = '0' :=
  ⟨fun _ => ofTable?_eq_some_iff, ofTable?_eq_none_iff, fun _ => skipped_iff,
    fun _ hsame => (ofTable?_congr hsame).symm, fun _ _ => normalize?_eq_some_iff,
    fun _ => normalize?_eq_zero_iff⟩

/-- The table has a line about a longer address, one that is too short, one with an unknown address and one with
none, all before the line that counts. Without them it gives the same. -/
theorem first_usable_of_other_lines :
    let table := "IP\n10.0.0.50 1 2 5:4:3:2:1:0\n10.0.0.5 1\n10.0.0.5 1 0 0-0-0-0-0-0\n10.0.0.5 1 2 -\n" ++
      "10.0.0.5 1 2 A:B-C:D:E:FF"
    let table' := "IP\n10.0.0.5 1 2 A:B-C:D:E:FF"
    let ip : Address := .v4 ⟨10, 0, 0, 5⟩
    SameBut (Skipped ip) (neighbourLines table) (neighbourLines table') ∧
      ofTable? table ip = some "0a:0b:0c:0d:0e:ff" ∧ ofTable? table' ip = some "0a:0b:0c:0d:0e:ff" := by
  intro table table' ip
  have hlines : neighbourLines table =
      ["10.0.0.50 1 2 5:4:3:2:1:0".toList, "10.0.0.5 1".toList, "10.0.0.5 1 0 0-0-0-0-0-0".toList,
        "10.0.0.5 1 2 -".toList, "10.0.0.5 1 2 A:B-C:D:E:FF".toList] := by decide +kernel
  have hlines' : neighbourLines table' = ["10.0.0.5 1 2 A:B-C:D:E:FF".toList] := by decide +kernel
  have hsame : SameBut (Skipped ip) (neighbourLines table) (neighbourLines table') := by
    rw [hlines, hlines']
    refine .removed (.other rfl (by decide +kernel)) ?_
    refine .removed (.short (by decide +kernel)) ?_
    refine .removed (.unknown rfl (by decide +kernel)) ?_
    exact .removed (.unusable rfl (by decide +kernel)) (.kept _ .nil)
  obtain ⟨-, -, -, hskipped, -⟩ := first_usable table ip
  have hmac : ofTable? table ip = some "0a:0b:0c:0d:0e:ff" := by decide +kernel
  exact ⟨hsame, hmac, (hskipped table' hsame).trans hmac⟩

end Preseed.Net.Hardware
