import Mathlib.Tactic.SplitIfs
import Preseed.Text.Utf8

/-! # Reading encoded characters back -/

namespace Preseed.Utf8

theorem toNat_ofNat_of_lt {n : Nat} (h : n < 256) : (UInt8.ofNat n).toNat = n := by
  rw [UInt8.toNat_ofNat']
  exact Nat.mod_eq_of_lt h

theorem encodeChar_of_lt {c : Char} (h : c.toNat < 0x80) :
    encodeChar c = [UInt8.ofNat c.toNat] := by
  simp [encodeChar, h]

/-- Characters of ASCII with the same byte are the same. -/
theorem char_eq_of_byte_eq {c d : Char} (hc : c.toNat < 0x80) (hd : d.toNat < 0x80)
    (h : UInt8.ofNat c.toNat = UInt8.ofNat d.toNat) : c = d := by
  have hnat := congrArg UInt8.toNat h
  rw [toNat_ofNat_of_lt (by omega), toNat_ofNat_of_lt (by omega)] at hnat
  exact Char.toNat_inj.mp hnat

@[simp] theorem encode_nil : encode [] = [] := rfl

@[simp] theorem encode_cons (c : Char) (cs : List Char) :
    encode (c :: cs) = encodeChar c ++ encode cs := rfl

@[simp] theorem encode_append (cs ds : List Char) : encode (cs ++ ds) = encode cs ++ encode ds :=
  List.flatMap_append

theorem ofString_append (s t : String) : ofString (s ++ t) = ofString s ++ ofString t := by
  rw [ofString, String.toList_append, encode_append]
  rfl

/-- A text in ASCII has a byte for each character. -/
theorem encode_of_ascii {cs : List Char} (h : ∀ c ∈ cs, c.toNat < 0x80) :
    encode cs = cs.map fun c => UInt8.ofNat c.toNat := by
  induction cs with
  | nil => rfl
  | cons c cs ih =>
      rw [encode_cons, encodeChar_of_lt (h c (by simp)),
        ih (fun d hd => h d (List.mem_cons_of_mem c hd))]
      rfl

theorem length_encode_le (cs : List Char) : cs.length ≤ (encode cs).length := by
  induction cs with
  | nil => exact Nat.le_refl 0
  | cons c cs ih =>
      have hpos : 1 ≤ (encodeChar c).length := by
        unfold encodeChar
        dsimp only
        split_ifs <;> simp
      rw [encode_cons, List.length_append, List.length_cons]
      omega

/-- A text has as many bytes as characters if and only if it is ASCII. -/
theorem length_encode_eq_iff (cs : List Char) :
    (encode cs).length = cs.length ↔ ∀ c ∈ cs, c.toNat < 0x80 := by
  induction cs with
  | nil => simp
  | cons c cs ih =>
      have hle := length_encode_le cs
      rw [encode_cons, List.length_append, List.length_cons, List.forall_mem_cons, ← ih]
      by_cases hc : c.toNat < 0x80
      · rw [encodeChar_of_lt hc, List.length_singleton]
        omega
      · have htwo : 2 ≤ (encodeChar c).length := by
          unfold encodeChar
          dsimp only
          split_ifs <;> simp
        omega

/-- The numbers of characters leave out the surrogates. -/
theorem toNat_range (c : Char) :
    c.toNat < 0xD800 ∨ (0xDFFF < c.toNat ∧ c.toNat < 0x110000) :=
  c.valid

/-- Characters outside of ASCII have no byte of ASCII. -/
theorem le_of_mem_encodeChar {c : Char} (hc : 0x80 ≤ c.toNat) :
    ∀ b ∈ encodeChar c, 0x80 ≤ b.toNat := by
  have hrange := toNat_range c
  have hbyte : ∀ n, 0x80 ≤ n → n < 256 → 0x80 ≤ (UInt8.ofNat n).toNat := by
    intro n hlow hhigh
    rwa [toNat_ofNat_of_lt hhigh]
  intro b hb
  unfold encodeChar at hb
  dsimp only at hb
  split_ifs at hb
  · omega
  all_goals
    simp only [List.mem_cons, List.not_mem_nil, or_false] at hb
    rcases hb with rfl | rfl | rfl | rfl <;> exact hbyte _ (by omega) (by omega)

/-- A byte of ASCII stands for its character only. -/
theorem mem_encode_iff {c : Char} (hc : c.toNat < 0x80) (cs : List Char) :
    UInt8.ofNat c.toNat ∈ encode cs ↔ c ∈ cs := by
  induction cs with
  | nil => simp
  | cons d cs ih =>
      rw [encode_cons, List.mem_append, List.mem_cons, ih]
      refine or_congr_left ?_
      by_cases hd : d.toNat < 0x80
      · rw [encodeChar_of_lt hd, List.mem_singleton]
        exact ⟨char_eq_of_byte_eq hc hd, fun h => h ▸ rfl⟩
      · refine iff_of_false (fun hmem => ?_) fun h => hd (h ▸ hc)
        have hle := le_of_mem_encodeChar (Nat.le_of_not_lt hd) _ hmem
        rw [toNat_ofNat_of_lt (by omega)] at hle
        omega

/-- A byte that passes its test adds its low six bits. -/
theorem finish_cons {ok : Nat → Bool} {oks : List (Nat → Bool)} {bits b : Nat} (rest : Bytes)
    (hb : b < 256) (h : ok b = true) :
    finish (ok :: oks) bits (UInt8.ofNat b :: rest) =
      finish oks (bits * 0x40 + (b - 0x80)) rest := by
  simp [finish, toNat_ofNat_of_lt hb, h]

theorem isContinuation_low (n : Nat) : isContinuation (0x80 + n % 0x40) = true := by
  simp only [isContinuation, Bool.and_eq_true, decide_eq_true_eq]
  omega

/-- The bounds on the second byte of three hold for every character that needs three. -/
theorem follows_of_three {n : Nat} (hlow : 0x800 ≤ n) (hhigh : n < 0x10000)
    (hvalid : n < 0xD800 ∨ 0xDFFF < n) :
    follows (0xE0 + n / 0x1000) (0x80 + n / 0x40 % 0x40) = true := by
  simp only [follows, isContinuation, beq_iff_eq]
  split_ifs <;> simp only [Bool.and_eq_true, decide_eq_true_eq] <;> omega

theorem follows_of_four {n : Nat} (hlow : 0x10000 ≤ n) (hhigh : n < 0x110000) :
    follows (0xF0 + n / 0x40000) (0x80 + n / 0x1000 % 0x40) = true := by
  simp only [follows, isContinuation, beq_iff_eq]
  split_ifs <;> simp only [Bool.and_eq_true, decide_eq_true_eq] <;> omega

/-! ## One character from its bytes -/

theorem next_of_two {n : Nat} (hlow : 0x80 ≤ n) (hhigh : n < 0x800) (rest : Bytes) :
    next (UInt8.ofNat (0xC0 + n / 0x40)) (UInt8.ofNat (0x80 + n % 0x40) :: rest) =
      (some (Char.ofNat n), rest) := by
  have hlead : (UInt8.ofNat (0xC0 + n / 0x40)).toNat = 0xC0 + n / 0x40 :=
    toNat_ofNat_of_lt (by omega)
  have hbits : (0xC0 + n / 0x40 - 0xC0) * 0x40 + (0x80 + n % 0x40 - 0x80) = n := by omega
  rw [next, hlead, if_neg (by omega), if_neg (by omega), if_pos (by omega),
    finish_cons rest (by omega) (isContinuation_low n), hbits, finish]

theorem next_of_three {n : Nat} (hlow : 0x800 ≤ n) (hhigh : n < 0x10000)
    (hvalid : n < 0xD800 ∨ 0xDFFF < n) (rest : Bytes) :
    next (UInt8.ofNat (0xE0 + n / 0x1000))
        (UInt8.ofNat (0x80 + n / 0x40 % 0x40) :: UInt8.ofNat (0x80 + n % 0x40) :: rest) =
      (some (Char.ofNat n), rest) := by
  have hlead : (UInt8.ofNat (0xE0 + n / 0x1000)).toNat = 0xE0 + n / 0x1000 :=
    toNat_ofNat_of_lt (by omega)
  have hbits : ((0xE0 + n / 0x1000 - 0xE0) * 0x40 + (0x80 + n / 0x40 % 0x40 - 0x80)) * 0x40 +
      (0x80 + n % 0x40 - 0x80) = n := by omega
  rw [next, hlead, if_neg (by omega), if_neg (by omega), if_neg (by omega), if_pos (by omega),
    finish_cons _ (by omega) (follows_of_three hlow hhigh hvalid),
    finish_cons rest (by omega) (isContinuation_low n), hbits, finish]

theorem next_of_four {n : Nat} (hlow : 0x10000 ≤ n) (hhigh : n < 0x110000) (rest : Bytes) :
    next (UInt8.ofNat (0xF0 + n / 0x40000))
        (UInt8.ofNat (0x80 + n / 0x1000 % 0x40) :: UInt8.ofNat (0x80 + n / 0x40 % 0x40) ::
          UInt8.ofNat (0x80 + n % 0x40) :: rest) =
      (some (Char.ofNat n), rest) := by
  have hlead : (UInt8.ofNat (0xF0 + n / 0x40000)).toNat = 0xF0 + n / 0x40000 :=
    toNat_ofNat_of_lt (by omega)
  have hbits : (((0xF0 + n / 0x40000 - 0xF0) * 0x40 + (0x80 + n / 0x1000 % 0x40 - 0x80)) * 0x40 +
      (0x80 + n / 0x40 % 0x40 - 0x80)) * 0x40 + (0x80 + n % 0x40 - 0x80) = n := by omega
  rw [next, hlead, if_neg (by omega), if_neg (by omega), if_neg (by omega), if_neg (by omega),
    if_pos (by omega), finish_cons _ (by omega) (follows_of_four hlow hhigh),
    finish_cons _ (by omega) (isContinuation_low _),
    finish_cons rest (by omega) (isContinuation_low n), hbits, finish]

/-! ## Texts -/

/-- The bytes of a character, in front of any others, are read as this character. -/
theorem pieces_encodeChar_append (c : Char) (rest : Bytes) :
    pieces (encodeChar c ++ rest) = some c :: pieces rest := by
  have hvalid := toNat_range c
  have hchar : Char.ofNat c.toNat = c := Char.ofNat_toNat c
  generalize hn : c.toNat = n at hvalid hchar
  by_cases h1 : n < 0x80
  · have hlead : (UInt8.ofNat n).toNat = n := toNat_ofNat_of_lt (by omega)
    simp [encodeChar, hn, h1, pieces, next, hlead, hchar]
  by_cases h2 : n < 0x800
  · simp only [encodeChar, hn, h1, h2, if_true, if_false, List.cons_append, List.nil_append]
    rw [pieces, next_of_two (by omega) h2, hchar]
  by_cases h3 : n < 0x10000
  · simp only [encodeChar, hn, h1, h2, h3, if_true, if_false, List.cons_append, List.nil_append]
    rw [pieces, next_of_three (by omega) h3 (by omega), hchar]
  · simp only [encodeChar, hn, h1, h2, h3, if_false, List.cons_append, List.nil_append]
    rw [pieces, next_of_four (by omega) (by omega), hchar]

theorem pieces_encode (cs : List Char) : pieces (encode cs) = cs.map some := by
  induction cs with
  | nil => simp [pieces]
  | cons c cs ih => rw [encode_cons, pieces_encodeChar_append, ih, List.map_cons]

theorem decodeLossy_encode (cs : List Char) : decodeLossy (encode cs) = cs := by
  rw [decodeLossy, pieces_encode, List.map_map]
  exact List.map_id cs

theorem toStringLossy_ofString (s : String) : toStringLossy (ofString s) = s := by
  rw [toStringLossy, ofString, decodeLossy_encode, String.ofList_toList]

theorem ofString_inj {s t : String} (h : ofString s = ofString t) : s = t := by
  rw [← toStringLossy_ofString s, h, toStringLossy_ofString]

/-! ## Well-formed bytes -/

theorem toNat_ofNat_of_valid {n : Nat} (h : n < 0xD800 ∨ (0xDFFF < n ∧ n < 0x110000)) :
    (Char.ofNat n).toNat = n := by
  rw [Char.ofNat, dif_pos h]
  rfl

/-- A byte is told by its number. -/
theorem ofNat_eq_of_toNat {n : Nat} {b : UInt8} (h : n = b.toNat) : UInt8.ofNat n = b := by
  rw [h, UInt8.ofNat_toNat]

theorem exists_of_finish_cons {ok : Nat → Bool} {oks : List (Nat → Bool)} {bits : Nat}
    {rest after : Bytes} {c : Char} (h : finish (ok :: oks) bits rest = (some c, after)) :
    ∃ b rest', rest = b :: rest' ∧ ok b.toNat = true ∧
      finish oks (bits * 0x40 + (b.toNat - 0x80)) rest' = (some c, after) := by
  cases rest with
  | nil => simp [finish] at h
  | cons b rest =>
      rw [finish] at h
      split at h
      · exact ⟨b, rest, rfl, ‹_›, h⟩
      · simp at h

theorem encodeChar_of_one {b : UInt8} (hb : b.toNat < 0x80) :
    encodeChar (Char.ofNat b.toNat) = [b] := by
  have hn := toNat_ofNat_of_valid (n := b.toNat) (by omega)
  rw [encodeChar_of_lt (by omega), ofNat_eq_of_toNat hn]

theorem encodeChar_of_two {b b₁ : UInt8} (hlow : 0xC2 ≤ b.toNat) (hhigh : b.toNat < 0xE0)
    (h₁ : isContinuation b₁.toNat = true) :
    encodeChar (Char.ofNat ((b.toNat - 0xC0) * 0x40 + (b₁.toNat - 0x80))) = [b, b₁] := by
  simp only [isContinuation, Bool.and_eq_true, decide_eq_true_eq] at h₁
  generalize hn : (b.toNat - 0xC0) * 0x40 + (b₁.toNat - 0x80) = n
  have hchar := toNat_ofNat_of_valid (n := n) (by omega)
  rw [encodeChar]
  simp only [hchar]
  rw [if_neg (by omega), if_pos (by omega), ofNat_eq_of_toNat (b := b) (by omega),
    ofNat_eq_of_toNat (b := b₁) (by omega)]

theorem encodeChar_of_three {b b₁ b₂ : UInt8} (hlow : 0xE0 ≤ b.toNat) (hhigh : b.toNat < 0xF0)
    (h₁ : follows b.toNat b₁.toNat = true) (h₂ : isContinuation b₂.toNat = true) :
    encodeChar (Char.ofNat (((b.toNat - 0xE0) * 0x40 + (b₁.toNat - 0x80)) * 0x40 +
      (b₂.toNat - 0x80))) = [b, b₁, b₂] := by
  simp only [follows, isContinuation, beq_iff_eq] at h₁ h₂
  generalize hn : ((b.toNat - 0xE0) * 0x40 + (b₁.toNat - 0x80)) * 0x40 + (b₂.toNat - 0x80) = n
  have hrange : 0x800 ≤ n ∧ (n < 0xD800 ∨ 0xDFFF < n) ∧ n < 0x10000 ∧ 0x80 ≤ b₁.toNat ∧
      b₁.toNat < 0xC0 ∧ 0x80 ≤ b₂.toNat ∧ b₂.toNat < 0xC0 := by
    split_ifs at h₁ <;> simp only [Bool.and_eq_true, decide_eq_true_eq] at h₁ h₂ <;> omega
  obtain ⟨hn1, hn2, hn3, hb1, hb1', hb2, hb2'⟩ := hrange
  have hchar := toNat_ofNat_of_valid (n := n) (by omega)
  rw [encodeChar]
  simp only [hchar]
  rw [if_neg (by omega), if_neg (by omega), if_pos (by omega),
    ofNat_eq_of_toNat (b := b) (by omega), ofNat_eq_of_toNat (b := b₁) (by omega),
    ofNat_eq_of_toNat (b := b₂) (by omega)]

theorem encodeChar_of_four {b b₁ b₂ b₃ : UInt8} (hlow : 0xF0 ≤ b.toNat) (hhigh : b.toNat < 0xF5)
    (h₁ : follows b.toNat b₁.toNat = true) (h₂ : isContinuation b₂.toNat = true)
    (h₃ : isContinuation b₃.toNat = true) :
    encodeChar (Char.ofNat ((((b.toNat - 0xF0) * 0x40 + (b₁.toNat - 0x80)) * 0x40 +
      (b₂.toNat - 0x80)) * 0x40 + (b₃.toNat - 0x80))) = [b, b₁, b₂, b₃] := by
  simp only [follows, isContinuation, beq_iff_eq] at h₁ h₂ h₃
  generalize hn : (((b.toNat - 0xF0) * 0x40 + (b₁.toNat - 0x80)) * 0x40 +
    (b₂.toNat - 0x80)) * 0x40 + (b₃.toNat - 0x80) = n
  have hrange : 0x10000 ≤ n ∧ n < 0x110000 ∧ 0x80 ≤ b₁.toNat ∧ b₁.toNat < 0xC0 ∧
      0x80 ≤ b₂.toNat ∧ b₂.toNat < 0xC0 ∧ 0x80 ≤ b₃.toNat ∧ b₃.toNat < 0xC0 := by
    split_ifs at h₁ <;> simp only [Bool.and_eq_true, decide_eq_true_eq] at h₁ h₂ h₃ <;> omega
  obtain ⟨hn1, hn2, hb1, hb1', hb2, hb2', hb3, hb3'⟩ := hrange
  have hchar := toNat_ofNat_of_valid (n := n) (by omega)
  rw [encodeChar]
  simp only [hchar]
  rw [if_neg (by omega), if_neg (by omega), if_neg (by omega),
    ofNat_eq_of_toNat (b := b) (by omega), ofNat_eq_of_toNat (b := b₁) (by omega),
    ofNat_eq_of_toNat (b := b₂) (by omega), ofNat_eq_of_toNat (b := b₃) (by omega)]

/-- The bytes that are read as a character are those of the character. -/
theorem encodeChar_of_next {b : UInt8} {rest after : Bytes} {c : Char}
    (h : next b rest = (some c, after)) : encodeChar c ++ after = b :: rest := by
  unfold next at h
  split_ifs at h with h1 h2 h3 h4 h5
  · obtain ⟨rfl, rfl⟩ := (by simpa using h)
    rw [encodeChar_of_one h1]
    rfl
  · simp at h
  · obtain ⟨b₁, rest, rfl, hb₁, h⟩ := exists_of_finish_cons h
    obtain ⟨rfl, rfl⟩ := (by simpa [finish] using h)
    rw [encodeChar_of_two (by omega) h3 hb₁]
    rfl
  · obtain ⟨b₁, rest, rfl, hb₁, h⟩ := exists_of_finish_cons h
    obtain ⟨b₂, rest, rfl, hb₂, h⟩ := exists_of_finish_cons h
    obtain ⟨rfl, rfl⟩ := (by simpa [finish] using h)
    rw [encodeChar_of_three (by omega) h4 hb₁ hb₂]
    rfl
  · obtain ⟨b₁, rest, rfl, hb₁, h⟩ := exists_of_finish_cons h
    obtain ⟨b₂, rest, rfl, hb₂, h⟩ := exists_of_finish_cons h
    obtain ⟨b₃, rest, rfl, hb₃, h⟩ := exists_of_finish_cons h
    obtain ⟨rfl, rfl⟩ := (by simpa [finish] using h)
    rw [encodeChar_of_four (by omega) h5 hb₁ hb₂ hb₃]
    rfl
  · simp at h

theorem encode_of_pieces {bytes : Bytes} {cs : List Char} (h : pieces bytes = cs.map some) :
    encode cs = bytes := by
  induction cs generalizing bytes with
  | nil =>
      cases bytes with
      | nil => rfl
      | cons b rest => simp [pieces] at h
  | cons c cs ih =>
      cases bytes with
      | nil => simp [pieces] at h
      | cons b rest =>
          rw [pieces, List.map_cons, List.cons.injEq] at h
          obtain ⟨hc, hrest⟩ := h
          rw [encode_cons, ih hrest]
          exact encodeChar_of_next (Prod.ext hc rfl)

theorem mapM_id_eq_some_iff {α : Type} {l : List (Option α)} {as : List α} :
    l.mapM id = some as ↔ l = as.map some := by
  induction l generalizing as with
  | nil => cases as <;> simp
  | cons a l ih =>
      rw [List.mapM_cons]
      cases a with
      | none => cases as <;> simp
      | some a =>
          change ((l.mapM id).bind fun bs => some (a :: bs)) = some as ↔ _
          rw [Option.bind_eq_some_iff]
          constructor
          · rintro ⟨bs, hbs, heq⟩
            rw [← Option.some.inj heq, ih.mp hbs, List.map_cons]
          · intro h
            cases as with
            | nil => simp at h
            | cons b bs =>
                obtain ⟨hb, hbs⟩ := List.cons.inj h
                rw [Option.some.inj hb]
                exact ⟨bs, ih.mpr hbs, rfl⟩

/-- Bytes are a text if they are the text's bytes. -/
theorem toString?_eq_some_iff {bytes : Bytes} {s : String} :
    toString? bytes = some s ↔ bytes = ofString s := by
  rw [toString?, Option.map_eq_some_iff]
  constructor
  · rintro ⟨cs, hcs, rfl⟩
    rw [ofString, String.toList_ofList, encode_of_pieces (mapM_id_eq_some_iff.mp hcs)]
  · rintro rfl
    refine ⟨s.toList, ?_, String.ofList_toList⟩
    rw [decode?, mapM_id_eq_some_iff, ofString, pieces_encode]

end Preseed.Utf8
