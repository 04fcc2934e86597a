import Mathlib.Data.List.Forall2
import Preseed.Directory.Filter
import Preseed.Text.Utf8

/-! # The grammar of filters

RFC 4515 as relations between texts and what they read as, one rule for each production. The grammar has
more to say than filters here do: negations, orders, substrings and matching rules. A list of conditions
may be empty, which makes the condition that always holds and the one that never does. -/

namespace Preseed.Filter

/-! ## What texts read as -/

inductive Comparison where
  | equal
  | approximate
  | atLeast
  | atMost
  deriving DecidableEq, Repr

def Comparison.symbol : Comparison → List Char
  | equal => ['=']
  | approximate => ['~', '=']
  | atLeast => ['>', '=']
  | atMost => ['<', '=']

/-- What the text of a filter reads as; the values of attributes are octets. -/
inductive Reading where
  | all (readings : List Reading)
  | any (readings : List Reading)
  | not (reading : Reading)
  | comparison (sort : Comparison) (name : List Char) (value : Bytes)
  | present (name : List Char)
  /-- The parts of the value between its asterisks; an empty first or last part says nothing. -/
  | substrings (name : List Char) (parts : List Bytes)
  /-- A test by a matching rule, which may take in the attributes of the entry's name. -/
  | extensible (name : Option (List Char)) (withDn : Bool) (rule : Option (List Char)) (value : Bytes)

/-! ## Attributes and values -/

def isDescriptionChar (c : Char) : Bool :=
  Ascii.isAlphanumeric c || c == '-' || c == '.' || c == ';'

/-- Whether a text is an attribute description, or the name of a matching rule. -/
def isDescription (name : List Char) : Bool :=
  !name.isEmpty && name.all isDescriptionChar

/-- A character that stands for itself in a value. -/
def isNormal (c : Char) : Bool :=
  (0x01 ≤ c.toNat && c.toNat ≤ 0x27) || (0x2B ≤ c.toNat && c.toNat ≤ 0x5B) || 0x5D ≤ c.toNat

/-- A value is written by characters that stand for their octets, and by a backslash and two hexadecimal
digits for any octet. -/
inductive ReadsValue : List Char → Bytes → Prop where
  | nil : ReadsValue [] []
  | normal {c : Char} {text : List Char} {value : Bytes} (hc : isNormal c = true)
      (h : ReadsValue text value) : ReadsValue (c :: text) (Utf8.encodeChar c ++ value)
  | escaped {hi lo : Char} {high low : Nat} {text : List Char} {value : Bytes}
      (hhigh : Ascii.hexValue? hi = some high) (hlow : Ascii.hexValue? lo = some low)
      (h : ReadsValue text value) :
      ReadsValue ('\\' :: hi :: lo :: text) (UInt8.ofNat (16 * high + low) :: value)

/-! ## Conditions -/

/-- The mark for the attributes of an entry's name, in any case. -/
def dnMarks : List (List Char) :=
  [[':', 'd', 'n'], [':', 'd', 'N'], [':', 'D', 'n'], [':', 'D', 'N']]

/-- A test of one attribute. A value of nothing but one asterisk makes a test for presence, so it is no
pair of substrings. -/
inductive ReadsItem : List Char → Reading → Prop where
  | comparison {name text : List Char} {value : Bytes} (sort : Comparison)
      (hname : isDescription name = true) (hvalue : ReadsValue text value) :
      ReadsItem (name ++ (sort.symbol ++ text)) (.comparison sort name value)
  | present {name : List Char} (hname : isDescription name = true) :
      ReadsItem (name ++ ['=', '*']) (.present name)
  | substrings {name : List Char} {texts : List (List Char)} {parts : List Bytes}
      (hname : isDescription name = true) (hparts : List.Forall₂ ReadsValue texts parts)
      (hlength : 2 ≤ texts.length) (hne : texts ≠ [[], []]) :
      ReadsItem (name ++ '=' :: ['*'].intercalate texts) (.substrings name parts)
  | extensible {name rule : Option (List Char)} {mark text : List Char} {value : Bytes}
      (hsome : name.isSome ∨ rule.isSome) (hname : ∀ n ∈ name, isDescription n = true)
      (hmark : mark ∈ [] :: dnMarks) (hrule : ∀ r ∈ rule, isDescription r = true)
      (hvalue : ReadsValue text value) :
      ReadsItem
        (name.getD [] ++ (mark ++ (rule.elim [] (':' :: ·) ++ ':' :: '=' :: text)))
        (.extensible name (!mark.isEmpty) rule value)

mutual

inductive Reads : List Char → Reading → Prop where
  | all {text : List Char} {readings : List Reading} (h : ReadsList text readings) :
      Reads ('(' :: '&' :: (text ++ [')'])) (.all readings)
  | any {text : List Char} {readings : List Reading} (h : ReadsList text readings) :
      Reads ('(' :: '|' :: (text ++ [')'])) (.any readings)
  | not {text : List Char} {reading : Reading} (h : Reads text reading) :
      Reads ('(' :: '!' :: (text ++ [')'])) (.not reading)
  | item {text : List Char} {reading : Reading} (h : ReadsItem text reading) :
      Reads ('(' :: (text ++ [')'])) reading

inductive ReadsList : List Char → List Reading → Prop where
  | nil : ReadsList [] []
  | cons {text texts : List Char} {reading : Reading} {readings : List Reading}
      (h : Reads text reading) (hs : ReadsList texts readings) :
      ReadsList (text ++ texts) (reading :: readings)

end

/-! ## The characters of values and items -/

theorem isDescription_iff {name : List Char} :
    isDescription name = true ↔ name ≠ [] ∧ ∀ c ∈ name, isDescriptionChar c = true := by
  simp [isDescription]

/-- No character of a description is one of those that mark off its parts. -/
theorem notMem_of_isDescription {c : Char} (hc : isDescriptionChar c = false) {name : List Char}
    (h : isDescription name = true) : c ∉ name := by
  intro hmem
  rw [(isDescription_iff.mp h).2 c hmem] at hc
  cases hc

/-- Every comparison but the one for equality is marked before its equals sign. -/
theorem Comparison.symbol_eq {sort : Comparison} (h : sort ≠ .equal) :
    ∃ c, sort.symbol = [c, '='] ∧ isDescriptionChar c = false ∧ c ≠ '=' := by
  cases sort with
  | equal => exact absurd rfl h
  | approximate => exact ⟨'~', rfl, by decide, by decide⟩
  | atLeast => exact ⟨'>', rfl, by decide, by decide⟩
  | atMost => exact ⟨'<', rfl, by decide, by decide⟩

theorem ReadsValue.notMem {c : Char} (hnormal : isNormal c = false) (hhex : Ascii.hexValue? c = none)
    (hescape : c ≠ '\\') {text : List Char} {value : Bytes} (h : ReadsValue text value) :
    c ∉ text := by
  induction h with
  | nil => exact List.not_mem_nil
  | normal hd _ ih =>
      rw [List.mem_cons, not_or]
      refine ⟨?_, ih⟩
      rintro rfl
      rw [hnormal] at hd
      cases hd
  | escaped hhigh hlow _ ih =>
      simp only [List.mem_cons, not_or]
      refine ⟨hescape, ?_, ?_, ih⟩
      · rintro rfl
        rw [hhex] at hhigh
        cases hhigh
      · rintro rfl
        rw [hhex] at hlow
        cases hlow

/-- A text is read as one value. -/
theorem ReadsValue.unique {text : List Char} {value value' : Bytes} (h : ReadsValue text value)
    (h' : ReadsValue text value') : value = value' := by
  induction h generalizing value' with
  | nil =>
      cases h'
      rfl
  | normal hc _ ih =>
      cases h' with
      | normal _ h' => rw [ih h']
      | escaped => exact absurd hc (by decide)
  | escaped hhigh hlow _ ih =>
      cases h' with
      | normal hc => exact absurd hc (by decide)
      | escaped hhigh' hlow' h' =>
          obtain rfl := Option.some.inj (hhigh.symm.trans hhigh')
          obtain rfl := Option.some.inj (hlow.symm.trans hlow')
          rw [ih h']

end Preseed.Filter
