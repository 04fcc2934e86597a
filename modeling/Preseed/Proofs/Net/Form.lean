import Preseed.Net.Form
import Preseed.Proofs.Text.Ascii
import Preseed.Proofs.Text.Split
import Preseed.Proofs.Text.Utf8

/-! # Reading form-encoded pairs back

Form encoding writes printable ASCII only, and decoding gives back every pair, whatever its texts
hold. -/

namespace Preseed

/-! ## Percent encoding -/

namespace Percent

theorem byteDigit?_upperHexDigit :
    ∀ n < 16, byteDigit? (UInt8.ofNat (Ascii.upperHexDigit n).toNat) = some n := by
  decide

theorem upperHexDigit_isAlphanumeric :
    ∀ n < 16, Ascii.isAlphanumeric (Ascii.upperHexDigit n) = true := by
  decide

theorem upperHexDigit_ne_plus :
    ∀ n < 16, UInt8.ofNat (Ascii.upperHexDigit n).toNat ≠ 0x2B := by
  decide

theorem escape?_digits (b : UInt8) :
    escape? (UInt8.ofNat (Ascii.upperHexDigit (b.toNat / 16)).toNat)
      (UInt8.ofNat (Ascii.upperHexDigit (b.toNat % 16)).toNat) = some b := by
  have hsize : b.toNat < 256 := UInt8.toNat_lt b
  have hhigh := byteDigit?_upperHexDigit (b.toNat / 16) (by omega)
  have hlow := byteDigit?_upperHexDigit (b.toNat % 16) (by omega)
  have hsum : 16 * (b.toNat / 16) + b.toNat % 16 = b.toNat := by omega
  rw [escape?, hhigh, hlow]
  change some (UInt8.ofNat (16 * (b.toNat / 16) + b.toNat % 16)) = some b
  rw [hsum, UInt8.ofNat_toNat]

theorem decode_cons_of_ne {b : UInt8} (h : b ≠ 0x25) (rest : Bytes) :
    decode (b :: rest) = b :: decode rest := by
  match rest with
  | [] => rfl
  | [_] => rfl
  | _ :: _ :: _ => rw [decode, if_neg h]

theorem decode_escape {hi lo x : UInt8} (h : escape? hi lo = some x) (rest : Bytes) :
    decode (0x25 :: hi :: lo :: rest) = x :: decode rest := by
  rw [decode, if_pos rfl, h]

end Percent

/-! ## Characters of encoded texts -/

namespace Form

/-- The characters that encoded texts are made of. -/
def isFormChar (c : Char) : Bool :=
  isPlain c || c == '+' || c == '%'

theorem isFormChar_of_isAlphanumeric {c : Char} (h : Ascii.isAlphanumeric c = true) :
    isFormChar c = true := by
  simp [isFormChar, isPlain, h]

/-- Encoded texts are printable, and hold no separator of pairs, keys and values. -/
theorem isFormChar_spec {c : Char} (h : isFormChar c = true) :
    0x20 < c.toNat ∧ c.toNat < 0x7F ∧ c ≠ '&' ∧ c ≠ '=' := by
  simp only [isFormChar, isPlain, Bool.or_eq_true, Ascii.isAlphanumeric_iff, decide_eq_true_eq,
    beq_iff_eq, List.mem_cons, List.not_mem_nil, or_false] at h
  rcases h with ((halnum | rfl | rfl | rfl | rfl) | rfl) | rfl
  · refine ⟨by omega, by omega, ?_, ?_⟩
    · rintro rfl
      simp at halnum
    · rintro rfl
      simp at halnum
  all_goals decide

theorem isPlain_ne {c : Char} (h : isPlain c = true) : c ≠ '+' ∧ c ≠ '%' := by
  constructor
  · rintro rfl
    exact absurd h (by decide)
  · rintro rfl
    exact absurd h (by decide)

theorem isFormChar_encodeByte (b : UInt8) : ∀ c ∈ Percent.encodeByte b, isFormChar c = true := by
  have hsize : b.toNat < 256 := UInt8.toNat_lt b
  intro c hc
  simp only [Percent.encodeByte, List.mem_cons, List.not_mem_nil, or_false] at hc
  rcases hc with rfl | rfl | rfl
  · decide
  · exact isFormChar_of_isAlphanumeric (Percent.upperHexDigit_isAlphanumeric _ (by omega))
  · exact isFormChar_of_isAlphanumeric (Percent.upperHexDigit_isAlphanumeric _ (by omega))

theorem isFormChar_encodeChar (c : Char) : ∀ d ∈ encodeChar c, isFormChar d = true := by
  intro d hd
  unfold encodeChar at hd
  split at hd
  · obtain rfl := List.mem_singleton.mp hd
    decide
  · unfold Percent.encodeChar at hd
    split at hd
    · rename_i hplain
      obtain rfl := List.mem_singleton.mp hd
      simp only [Bool.and_eq_true, Bool.not_not] at hplain
      simp [isFormChar, hplain.2]
    · obtain ⟨b, -, hb⟩ := List.mem_flatMap.mp hd
      exact isFormChar_encodeByte b d hb

theorem isFormChar_encodeText (s : String) : ∀ c ∈ encodeText s, isFormChar c = true := by
  intro c hc
  obtain ⟨d, -, hd⟩ := List.mem_flatMap.mp hc
  exact isFormChar_encodeChar d c hd

theorem encode_encodeText (s : String) :
    Utf8.encode (encodeText s) = (encodeText s).map fun c => UInt8.ofNat c.toNat :=
  Utf8.encode_of_ascii fun c hc => by
    have hspec := isFormChar_spec (isFormChar_encodeText s c hc)
    omega

/-- No byte of an encoded text is a separator. -/
theorem separator_not_mem_encodeText {sep : Char} (hsep : sep = '&' ∨ sep = '=') (s : String) :
    UInt8.ofNat sep.toNat ∉ Utf8.encode (encodeText s) := by
  rw [encode_encodeText, List.mem_map]
  rintro ⟨c, hc, hbyte⟩
  obtain ⟨-, hlt, hamp, heq⟩ := isFormChar_spec (isFormChar_encodeText s c hc)
  rcases hsep with rfl | rfl
  · exact hamp (Utf8.char_eq_of_byte_eq (by omega) (by decide) hbyte)
  · exact heq (Utf8.char_eq_of_byte_eq (by omega) (by decide) hbyte)

/-! ## Texts -/

@[simp] theorem spaces_append (a b : Bytes) : spaces (a ++ b) = spaces a ++ spaces b :=
  List.map_append

/-- An escaped byte holds no plus sign, so the step that undoes these keeps it. -/
theorem decode_spaces_encodeByte (b : UInt8) (rest : Bytes) :
    Percent.decode (spaces (Utf8.encode (Percent.encodeByte b) ++ rest)) =
      b :: Percent.decode (spaces rest) := by
  have hsize : b.toNat < 256 := UInt8.toNat_lt b
  have hbytes : Utf8.encode (Percent.encodeByte b) =
      [0x25, UInt8.ofNat (Ascii.upperHexDigit (b.toNat / 16)).toNat,
        UInt8.ofNat (Ascii.upperHexDigit (b.toNat % 16)).toNat] :=
    Utf8.encode_of_ascii fun c hc => by
      have hspec := isFormChar_spec (isFormChar_encodeByte b c hc)
      omega
  have hspaces : spaces (Utf8.encode (Percent.encodeByte b)) = Utf8.encode (Percent.encodeByte b) := by
    simp [hbytes, spaces, Percent.upperHexDigit_ne_plus (b.toNat / 16) (by omega),
      Percent.upperHexDigit_ne_plus (b.toNat % 16) (by omega)]
  rw [spaces_append, hspaces, hbytes]
  exact Percent.decode_escape (Percent.escape?_digits b) (spaces rest)

theorem decode_spaces_encodeBytes (bytes rest : Bytes) :
    Percent.decode (spaces (Utf8.encode (bytes.flatMap Percent.encodeByte) ++ rest)) =
      bytes ++ Percent.decode (spaces rest) := by
  induction bytes with
  | nil => rfl
  | cons b bytes ih =>
      rw [List.flatMap_cons, Utf8.encode_append, List.append_assoc, decode_spaces_encodeByte, ih,
        List.cons_append]

theorem decode_spaces_encodeChar (c : Char) (rest : Bytes) :
    Percent.decode (spaces (Utf8.encode (encodeChar c) ++ rest)) =
      Utf8.encodeChar c ++ Percent.decode (spaces rest) := by
  unfold encodeChar
  split
  · rename_i hspace
    subst hspace
    exact Percent.decode_cons_of_ne (by decide) (spaces rest)
  · unfold Percent.encodeChar
    split
    · rename_i hplain
      simp only [Bool.and_eq_true, decide_eq_true_eq, Bool.not_not] at hplain
      obtain ⟨hlt, hplain⟩ := hplain
      have hplus : UInt8.ofNat c.toNat ≠ 0x2B := fun h =>
        (isPlain_ne hplain).1 (Utf8.char_eq_of_byte_eq hlt (by decide) h)
      have hpercent : UInt8.ofNat c.toNat ≠ 0x25 := fun h =>
        (isPlain_ne hplain).2 (Utf8.char_eq_of_byte_eq hlt (by decide) h)
      rw [Utf8.encode_cons, Utf8.encode_nil, List.append_nil, Utf8.encodeChar_of_lt hlt]
      simp only [spaces, List.cons_append, List.nil_append, List.map_cons, if_neg hplus]
      exact Percent.decode_cons_of_ne hpercent (spaces rest)
    · exact decode_spaces_encodeBytes _ rest

theorem decode_spaces_encodeText (cs : List Char) (rest : Bytes) :
    Percent.decode (spaces (Utf8.encode (cs.flatMap encodeChar) ++ rest)) =
      Utf8.encode cs ++ Percent.decode (spaces rest) := by
  induction cs with
  | nil => rfl
  | cons c cs ih =>
      rw [List.flatMap_cons, Utf8.encode_append, List.append_assoc, decode_spaces_encodeChar, ih,
        Utf8.encode_cons, List.append_assoc]

theorem decodeText_encodeText (s : String) : decodeText (Utf8.encode (encodeText s)) = s := by
  have h := decode_spaces_encodeText s.toList []
  rw [List.append_nil] at h
  rw [decodeText, encodeText, h]
  change Utf8.toStringLossy (Utf8.ofString s ++ []) = s
  rw [List.append_nil, Utf8.toStringLossy_ofString]

/-! ## Pairs -/

theorem encode_encodePair (pair : String × String) :
    Utf8.encode (encodePair pair) =
      Utf8.encode (encodeText pair.1) ++ 0x3D :: Utf8.encode (encodeText pair.2) := by
  rw [encodePair, Utf8.encode_append, Utf8.encode_cons, Utf8.encodeChar_of_lt (by decide)]
  rfl

theorem decodePiece_encodePair (pair : String × String) :
    decodePiece (Utf8.encode (encodePair pair)) = pair := by
  have hcut : Split.cut (0x3D : UInt8)
      (Utf8.encode (encodeText pair.1) ++ 0x3D :: Utf8.encode (encodeText pair.2)) =
        (Utf8.encode (encodeText pair.1), Utf8.encode (encodeText pair.2)) :=
    Split.cut_append _ (separator_not_mem_encodeText (.inr rfl) pair.1)
  rw [encode_encodePair, decodePiece, hcut]
  simp only [decodeText_encodeText]

theorem ampersand_not_mem_encodePair (pair : String × String) :
    (0x26 : UInt8) ∉ Utf8.encode (encodePair pair) := by
  rw [encode_encodePair, List.mem_append, List.mem_cons]
  rintro (h | h | h)
  · exact separator_not_mem_encodeText (.inl rfl) pair.1 h
  · exact absurd h (by decide)
  · exact separator_not_mem_encodeText (.inl rfl) pair.2 h

theorem encode_intercalate (parts : List (List Char)) :
    Utf8.encode (['&'].intercalate parts) = [0x26].intercalate (parts.map Utf8.encode) := by
  induction parts with
  | nil => rfl
  | cons part parts ih =>
      cases parts with
      | nil => simp
      | cons next parts =>
          rw [List.intercalate_cons_cons, Utf8.encode_append, ih, Utf8.encode_append]
          simp only [List.map_cons, List.intercalate_cons_cons]
          rfl

theorem pieces_encode {pairs : List (String × String)} (hpairs : pairs ≠ []) :
    Split.pieces 0x26 (Utf8.encode (encode pairs)) =
      pairs.map fun pair => Utf8.encode (encodePair pair) := by
  rw [encode, encode_intercalate, List.map_map]
  refine Split.pieces_intercalate (by simpa using hpairs) ?_
  intro part hpart
  obtain ⟨pair, -, rfl⟩ := List.mem_map.mp hpart
  exact ampersand_not_mem_encodePair pair

/-- Decoding gives back the pairs that were encoded. -/
theorem decode_encode (pairs : List (String × String)) :
    decode (String.ofList (encode pairs)) = pairs := by
  by_cases hpairs : pairs = []
  · subst hpairs
    rfl
  have hfilter : (pairs.map fun pair => Utf8.encode (encodePair pair)).filter (!·.isEmpty) =
      pairs.map fun pair => Utf8.encode (encodePair pair) := by
    apply List.filter_eq_self.mpr
    intro part hpart
    obtain ⟨pair, -, rfl⟩ := List.mem_map.mp hpart
    simp [encode_encodePair]
  rw [decode, Utf8.ofString, String.toList_ofList, decodeBytes, pieces_encode hpairs, hfilter,
    List.map_map]
  calc pairs.map (decodePiece ∘ fun pair => Utf8.encode (encodePair pair))
      = pairs.map id := List.map_congr_left fun pair _ => decodePiece_encodePair pair
    _ = pairs := List.map_id pairs

/-- The text of encoded pairs is printable. -/
theorem encode_printable (pairs : List (String × String)) :
    ∀ c ∈ encode pairs, 0x20 < c.toNat ∧ c.toNat < 0x7F := by
  have htext : ∀ s, ∀ c ∈ encodeText s, 0x20 < c.toNat ∧ c.toNat < 0x7F := fun s c hc =>
    have hspec := isFormChar_spec (isFormChar_encodeText s c hc)
    ⟨hspec.1, hspec.2.1⟩
  have hpair : ∀ pair, ∀ c ∈ encodePair pair, 0x20 < c.toNat ∧ c.toNat < 0x7F := by
    intro pair c hc
    rcases List.mem_append.mp hc with hc | hc
    · exact htext pair.1 c hc
    · rcases List.mem_cons.mp hc with rfl | hc
      · decide
      · exact htext pair.2 c hc
  intro c hc
  rcases Split.mem_of_mem_intercalate hc with hc | ⟨part, hpart, hc⟩
  · obtain rfl := List.mem_singleton.mp hc
    decide
  · obtain ⟨pair, -, rfl⟩ := List.mem_map.mp hpart
    exact hpair pair c hc

end Form

end Preseed
