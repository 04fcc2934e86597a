import Preseed.Directory.Classes
import Preseed.Plugin.LdapDirectives
import Preseed.Proofs.Directory.Grammar
import Preseed.Proofs.Text.Ascii
import Preseed.Proofs.Text.Split
import Preseed.Proofs.Text.Utf8

/-! # Reading filters back

The text of a filter whose attributes are named by descriptions reads as this filter and as nothing else.
No value can change what the filter says. -/

namespace Preseed.Filter

mutual

/-- What a filter says, in the terms of the grammar. -/
def reading : Filter → Reading
  | equals name value => .comparison .equal name.toList (Utf8.ofString value)
  | present name => .present name.toList
  | all filters => .all (readings filters)
  | any filters => .any (readings filters)

def readings : List Filter → List Reading
  | [] => []
  | f :: fs => f.reading :: readings fs

end

mutual

/-- The attributes that a filter tests. -/
def names : Filter → List String
  | equals name _ => [name]
  | present name => [name]
  | all filters => listNames filters
  | any filters => listNames filters

def listNames : List Filter → List String
  | [] => []
  | f :: fs => f.names ++ listNames fs

end

/-- Whether texts are attribute descriptions. -/
def AreDescriptions (names : List String) : Prop :=
  ∀ name ∈ names, isDescription name.toList = true

instance (names : List String) : Decidable (AreDescriptions names) :=
  inferInstanceAs (Decidable (∀ name ∈ names, isDescription name.toList = true))

theorem areDescriptions_append {names others : List String} :
    AreDescriptions (names ++ others) ↔ AreDescriptions names ∧ AreDescriptions others :=
  List.forall_mem_append

/-! ## Values -/

theorem isNormal_of_not_isSpecial {c : Char} (h : isSpecial c = false) : isNormal c = true := by
  simp only [isSpecial, Bool.or_eq_false_iff, beq_eq_false_iff_ne] at h
  obtain ⟨⟨⟨⟨hbackslash, hasterisk⟩, hopen⟩, hclose⟩, hnul⟩ := h
  have hnul : c.toNat ≠ 0x00 := fun h => hnul (Char.toNat_inj.mp h)
  have hopen : c.toNat ≠ 0x28 := fun h => hopen (Char.toNat_inj.mp h)
  have hclose : c.toNat ≠ 0x29 := fun h => hclose (Char.toNat_inj.mp h)
  have hasterisk : c.toNat ≠ 0x2A := fun h => hasterisk (Char.toNat_inj.mp h)
  have hbackslash : c.toNat ≠ 0x5C := fun h => hbackslash (Char.toNat_inj.mp h)
  simp only [isNormal, Bool.or_eq_true, Bool.and_eq_true, decide_eq_true_eq]
  omega

theorem toNat_lt_of_isSpecial {c : Char} (h : isSpecial c = true) : c.toNat < 0x80 := by
  simp only [isSpecial, Bool.or_eq_true, beq_iff_eq] at h
  rcases h with (((rfl | rfl) | rfl) | rfl) | rfl <;> decide

/-- The two digits of a special character give its octet. -/
theorem readsValue_escapeChar_append (c : Char) {text : List Char} {value : Bytes}
    (h : ReadsValue text value) : ReadsValue (escapeChar c ++ text) (Utf8.encodeChar c ++ value) := by
  cases hc : isSpecial c with
  | false =>
      simp only [escapeChar, hc, Bool.false_eq_true, if_false]
      exact .normal (isNormal_of_not_isSpecial hc) h
  | true =>
      have hlt := toNat_lt_of_isSpecial hc
      have hhigh := Ascii.hexValue?_hexDigit (c.toNat / 16) (by omega)
      have hlow := Ascii.hexValue?_hexDigit (c.toNat % 16) (by omega)
      have hsum : 16 * (c.toNat / 16) + c.toNat % 16 = c.toNat := by omega
      have hescaped := ReadsValue.escaped hhigh hlow h
      rw [hsum] at hescaped
      simpa only [escapeChar, hc, if_true, Utf8.encodeChar_of_lt hlt, List.cons_append,
        List.nil_append] using hescaped

theorem readsValue_escape (cs : List Char) : ReadsValue (escape cs) (Utf8.encode cs) := by
  induction cs with
  | nil => exact .nil
  | cons c cs ih => exact readsValue_escapeChar_append c ih

/-! ## Tests of one attribute -/

namespace ReadsItem

/-- What marks off the parts of a test is in no description and no value. -/
theorem notMem_extensible {c : Char} (hc : isDescriptionChar c = false) (hne : c ≠ ':')
    (hmarks : ∀ mark ∈ dnMarks, c ∉ mark) {name rule : Option (List Char)} {mark : List Char}
    (hname : ∀ n ∈ name, isDescription n = true) (hmark : mark ∈ [] :: dnMarks)
    (hrule : ∀ r ∈ rule, isDescription r = true) :
    c ∉ name.getD [] ∧ c ∉ mark ∧ c ∉ rule.elim [] (':' :: ·) := by
  refine ⟨?_, ?_, ?_⟩
  · cases name with
    | none => exact List.not_mem_nil
    | some n => exact notMem_of_isDescription hc (hname n rfl)
  · rcases List.mem_cons.mp hmark with rfl | hmark
    · exact List.not_mem_nil
    · exact hmarks mark hmark
  · cases rule with
    | none => exact List.not_mem_nil
    | some r =>
        rw [Option.elim_some, List.mem_cons, not_or]
        exact ⟨hne, notMem_of_isDescription hc (hrule r rfl)⟩

/-- What is in no value is in none of several. -/
theorem forall_notMem_of_values {c : Char}
    (h : ∀ {text : List Char} {value : Bytes}, ReadsValue text value → c ∉ text)
    {texts : List (List Char)} {parts : List Bytes} (hparts : List.Forall₂ ReadsValue texts parts) :
    ∀ text ∈ texts, c ∉ text :=
  ((List.forall₂_and_left _ _).mp (hparts.imp fun _ _ hvalue => ⟨h hvalue, hvalue⟩)).1

/-- A test ends before the first closing parenthesis. -/
theorem close_notMem {text : List Char} {r : Reading} (h : ReadsItem text r) : ')' ∉ text := by
  have hdescription : ∀ {name}, isDescription name = true → ')' ∉ name :=
    notMem_of_isDescription (by decide)
  have hvalues : ∀ {text value}, ReadsValue text value → ')' ∉ text :=
    ReadsValue.notMem (by decide) (by decide) (by decide)
  cases h with
  | comparison sort hname hvalue =>
      have hsymbol : ')' ∉ sort.symbol := by cases sort <;> decide
      simp only [List.mem_append, not_or]
      exact ⟨hdescription hname, hsymbol, hvalues hvalue⟩
  | present hname =>
      rw [List.mem_append, not_or]
      exact ⟨hdescription hname, by decide⟩
  | substrings hname hparts =>
      have hpart := forall_notMem_of_values hvalues hparts
      rw [List.mem_append, List.mem_cons]
      rintro (hmem | hmem | hmem)
      · exact hdescription hname hmem
      · exact absurd hmem (by decide)
      · rcases Split.mem_of_mem_intercalate hmem with hmem | ⟨part, hmem, hclose⟩
        · exact absurd hmem (by decide)
        · exact hpart part hmem hclose
  | extensible _ hname hmark hrule hvalue =>
      obtain ⟨hname, hmark, hrule⟩ :=
        notMem_extensible (c := ')') (by decide) (by decide) (by decide) hname hmark hrule
      simp only [List.mem_append, List.mem_cons, not_or]
      exact ⟨hname, hmark, hrule, by decide, by decide, hvalues hvalue⟩

theorem exists_cons_of_isDescription {name : List Char} (h : isDescription name = true) :
    ∃ c rest, name = c :: rest ∧ isDescriptionChar c = true := by
  obtain ⟨hne, hall⟩ := isDescription_iff.mp h
  cases name with
  | nil => exact absurd rfl hne
  | cons c rest => exact ⟨c, rest, rfl, hall c List.mem_cons_self⟩

/-- A test begins with a description or a colon, never like a condition made of others. -/
theorem head {text : List Char} {r : Reading} (h : ReadsItem text r) :
    ∃ c rest, text = c :: rest ∧ (isDescriptionChar c = true ∨ c = ':') := by
  cases h with
  | comparison sort hname _ =>
      obtain ⟨c, rest, rfl, hc⟩ := exists_cons_of_isDescription hname
      exact ⟨c, _, rfl, .inl hc⟩
  | present hname =>
      obtain ⟨c, rest, rfl, hc⟩ := exists_cons_of_isDescription hname
      exact ⟨c, _, rfl, .inl hc⟩
  | substrings hname _ _ _ =>
      obtain ⟨c, rest, rfl, hc⟩ := exists_cons_of_isDescription hname
      exact ⟨c, _, rfl, .inl hc⟩
  | @extensible name rule mark text value hsome hname hmark hrule hvalue =>
      cases name with
      | some n =>
          obtain ⟨c, rest, rfl, hc⟩ := exists_cons_of_isDescription (hname n rfl)
          exact ⟨c, _, rfl, .inl hc⟩
      | none =>
          have hcolon : ∃ rest, mark ++ (rule.elim [] (':' :: ·) ++ ':' :: '=' :: text) =
              ':' :: rest := by
            simp only [dnMarks, List.mem_cons, List.not_mem_nil, or_false] at hmark
            rcases hmark with rfl | rfl | rfl | rfl | rfl
            · cases rule <;> exact ⟨_, rfl⟩
            all_goals exact ⟨_, rfl⟩
          obtain ⟨rest, hcolon⟩ := hcolon
          exact ⟨':', rest, hcolon, .inr rfl⟩

/-- A description before an equals sign is tested for a value, for presence or for substrings. -/
theorem cases_of_description {name text : List Char} (hname : isDescription name = true) {r : Reading}
    (h : ReadsItem (name ++ '=' :: text) r) :
    (∃ value, ReadsValue text value ∧ r = .comparison .equal name value) ∨
      (text = ['*'] ∧ r = .present name) ∨
      ∃ texts parts, text = ['*'].intercalate texts ∧ List.Forall₂ ReadsValue texts parts ∧
        2 ≤ texts.length ∧ texts ≠ [[], []] ∧ r = .substrings name parts := by
  have hequals : ∀ {name}, isDescription name = true → '=' ∉ name :=
    notMem_of_isDescription (by decide)
  -- What stands before the first equals sign is the description, which rules out the other tests.
  have hbefore : ∀ {before after : List Char}, '=' ∉ before →
      name ++ '=' :: text = before ++ '=' :: after → before = name ∧ after = text := by
    intro before after hmem heq
    obtain ⟨rfl, rfl⟩ := (Split.append_cons_inj (hequals hname) hmem).mp heq
    exact ⟨rfl, rfl⟩
  generalize ht : name ++ '=' :: text = whole at h
  cases h with
  | @comparison name' text' value sort hname' hvalue =>
      by_cases hsort : sort = .equal
      · subst hsort
        obtain ⟨rfl, rfl⟩ := hbefore (hequals hname') ht
        exact .inl ⟨value, hvalue, rfl⟩
      · obtain ⟨c, hsymbol, hc, hne⟩ := Comparison.symbol_eq hsort
        have hmem : '=' ∉ name' ++ [c] := by
          simpa [hequals hname'] using hne.symm
        obtain ⟨rfl, -⟩ := hbefore hmem (by simpa [hsymbol] using ht)
        exact absurd (by simp) (notMem_of_isDescription hc hname)
  | present hname' =>
      obtain ⟨rfl, rfl⟩ := hbefore (hequals hname') ht
      exact .inr (.inl ⟨rfl, rfl⟩)
  | @substrings name' texts parts hname' hparts hlength hne =>
      obtain ⟨rfl, rfl⟩ := hbefore (hequals hname') ht
      exact .inr (.inr ⟨texts, parts, rfl, hparts, hlength, hne, rfl⟩)
  | @extensible name' rule mark text' value _ hname' hmark hrule _ =>
      obtain ⟨hname', hmark, hrule⟩ :=
        notMem_extensible (c := '=') (by decide) (by decide) (by decide) hname' hmark hrule
      have hmem : '=' ∉ name'.getD [] ++ mark ++ rule.elim [] (':' :: ·) ++ [':'] := by
        simp only [List.mem_append, not_or]
        exact ⟨⟨⟨hname', hmark⟩, hrule⟩, by decide⟩
      obtain ⟨rfl, -⟩ := hbefore hmem (by simpa using ht)
      exact absurd (by simp) (notMem_of_isDescription (c := ':') (by decide) hname)

/-- A value between asterisks has an asterisk. -/
theorem asterisk_mem_intercalate {texts : List (List Char)} (h : 2 ≤ texts.length) :
    '*' ∈ ['*'].intercalate texts := by
  match texts with
  | first :: second :: rest =>
      rw [List.intercalate_cons_cons]
      simp

theorem asterisk_notMem {text : List Char} {value : Bytes} (h : ReadsValue text value) :
    '*' ∉ text :=
  h.notMem (by decide) (by decide) (by decide)

theorem eq_of_value {name text : List Char} {value : Bytes} (hname : isDescription name = true)
    (hvalue : ReadsValue text value) {r : Reading} (h : ReadsItem (name ++ '=' :: text) r) :
    r = .comparison .equal name value := by
  rcases cases_of_description hname h with ⟨value', hvalue', rfl⟩ | ⟨rfl, -⟩ |
    ⟨texts, parts, rfl, -, hlength, -, -⟩
  · rw [hvalue.unique hvalue']
  · exact absurd List.mem_cons_self (asterisk_notMem hvalue)
  · exact absurd (asterisk_mem_intercalate hlength) (asterisk_notMem hvalue)

theorem eq_of_asterisk {name : List Char} (hname : isDescription name = true) {r : Reading}
    (h : ReadsItem (name ++ ['=', '*']) r) : r = .present name := by
  rcases cases_of_description hname h with ⟨value, hvalue, -⟩ | ⟨-, rfl⟩ |
    ⟨texts, parts, htext, hparts, hlength, hne, -⟩
  · exact absurd List.mem_cons_self (asterisk_notMem hvalue)
  · rfl
  · have hasterisk := forall_notMem_of_values asterisk_notMem hparts
    have htexts : texts ≠ [] := List.ne_nil_of_length_pos (by omega)
    -- The texts between the asterisks are the pieces of a single asterisk.
    have hpieces := Split.pieces_intercalate htexts hasterisk
    rw [← htext] at hpieces
    exact absurd hpieces.symm hne

end ReadsItem

/-! ## Filters -/

mutual

theorem reads_toChars : ∀ {f : Filter}, AreDescriptions f.names → Reads f.toChars f.reading
  | equals name value, h => by
      have hitem := ReadsItem.comparison .equal (h name List.mem_cons_self)
        (readsValue_escape value.toList)
      simpa [toChars, reading, Comparison.symbol, Utf8.ofString] using Reads.item hitem
  | present name, h => by
      simpa [toChars, reading] using Reads.item (.present (h name List.mem_cons_self))
  | all _, h => .all (readsList_listChars h)
  | any _, h => .any (readsList_listChars h)

theorem readsList_listChars :
    ∀ {fs : List Filter}, AreDescriptions (listNames fs) → ReadsList (listChars fs) (readings fs)
  | [], _ => .nil
  | _ :: _, h =>
      .cons (reads_toChars (areDescriptions_append.mp h).1)
        (readsList_listChars (areDescriptions_append.mp h).2)

end

/-- No test begins like a condition made of others. -/
theorem ReadsItem.append_ne {text rest after : List Char} {r : Reading} (h : ReadsItem text r)
    (mark : Char) (hmark : isDescriptionChar mark = false) (hne : mark ≠ ':') :
    text ++ rest ≠ mark :: after := by
  obtain ⟨c, tail, rfl, hc⟩ := h.head
  intro heq
  obtain rfl : c = mark := (List.cons.inj heq).1
  rcases hc with hc | hc
  · rw [hmark] at hc
    cases hc
  · exact hne hc

/-- A test in parentheses that is read in one way only is read so in front of any text. -/
theorem Reads.eq_of_item {item : List Char} {s : Reading} (hitem : ReadsItem item s)
    (hunique : ∀ {r}, ReadsItem item r → r = s) {text rest rest' : List Char} {r : Reading}
    (h : Reads text r) (heq : text ++ rest = '(' :: (item ++ ')' :: rest')) :
    text = '(' :: (item ++ [')']) ∧ r = s := by
  cases h with
  | all => exact absurd (by simpa using heq.symm) (hitem.append_ne '&' (by decide) (by decide))
  | any => exact absurd (by simpa using heq.symm) (hitem.append_ne '|' (by decide) (by decide))
  | not => exact absurd (by simpa using heq.symm) (hitem.append_ne '!' (by decide) (by decide))
  | @item text _ h =>
      have heq : text ++ ')' :: rest = item ++ ')' :: rest' := by simpa using heq
      obtain ⟨rfl, -⟩ := (Split.append_cons_inj h.close_notMem hitem.close_notMem).mp heq
      exact ⟨rfl, hunique h⟩

mutual

/-- Whatever follows a filter's text, nothing but this text is read there, and only as the filter. -/
theorem Reads.eq_of_append : ∀ {f : Filter}, AreDescriptions f.names →
    ∀ {text rest rest' : List Char} {r : Reading}, Reads text r → text ++ rest = f.toChars ++ rest' →
      text = f.toChars ∧ r = f.reading
  | equals name value, hf, text, rest, rest', r, h, heq => by
      have hname := hf name List.mem_cons_self
      have hvalue := readsValue_escape value.toList
      obtain ⟨rfl, rfl⟩ := h.eq_of_item (.comparison .equal hname hvalue)
        (fun hitem => ReadsItem.eq_of_value hname hvalue hitem)
        (by simpa [toChars, Comparison.symbol] using heq)
      exact ⟨by simp [toChars, Comparison.symbol], rfl⟩
  | present name, hf, text, rest, rest', r, h, heq => by
      have hname := hf name List.mem_cons_self
      obtain ⟨rfl, rfl⟩ := h.eq_of_item (.present hname) (ReadsItem.eq_of_asterisk hname)
        (by simpa [toChars] using heq)
      exact ⟨by simp [toChars], rfl⟩
  | all fs, hf, text, rest, rest', r, h, heq => by
      cases h with
      | @all text readings hs =>
          have heq : text ++ ')' :: rest = listChars fs ++ ')' :: rest' := by
            simpa [toChars] using heq
          obtain ⟨rfl, rfl⟩ := ReadsList.eq_of_append hf hs heq
          exact ⟨rfl, rfl⟩
      | any | not => simp [toChars] at heq
      | item h =>
          exact absurd (by simpa [toChars] using heq) (h.append_ne '&' (by decide) (by decide))
  | any fs, hf, text, rest, rest', r, h, heq => by
      cases h with
      | @any text readings hs =>
          have heq : text ++ ')' :: rest = listChars fs ++ ')' :: rest' := by
            simpa [toChars] using heq
          obtain ⟨rfl, rfl⟩ := ReadsList.eq_of_append hf hs heq
          exact ⟨rfl, rfl⟩
      | all | not => simp [toChars] at heq
      | item h =>
          exact absurd (by simpa [toChars] using heq) (h.append_ne '|' (by decide) (by decide))

theorem ReadsList.eq_of_append : ∀ {fs : List Filter}, AreDescriptions (listNames fs) →
    ∀ {text rest rest' : List Char} {rs : List Reading}, ReadsList text rs →
      text ++ ')' :: rest = listChars fs ++ ')' :: rest' → text = listChars fs ∧ rs = readings fs
  | [], _, text, rest, rest', rs, h, heq => by
      cases h with
      | nil => exact ⟨rfl, rfl⟩
      | cons h =>
          cases h <;> simp [listChars] at heq
  | f :: fs, hf, text, rest, rest', rs, h, heq => by
      obtain ⟨hf, hfs⟩ := areDescriptions_append.mp hf
      cases h with
      | nil =>
          cases f <;> simp [listChars, toChars] at heq
      | @cons text texts reading readings h hs =>
          obtain ⟨rfl, rfl⟩ := Reads.eq_of_append hf h (by simpa [listChars] using heq)
          obtain ⟨rfl, rfl⟩ := ReadsList.eq_of_append hfs hs (by simpa [listChars] using heq)
          exact ⟨rfl, rfl⟩

end

mutual

theorem reading_inj : ∀ {f g : Filter}, f.reading = g.reading → f = g
  | equals name value, g, h => by
      cases g with
      | equals name' value' =>
          simp only [reading, Reading.comparison.injEq, true_and] at h
          rw [String.toList_inj.mp h.1, Utf8.ofString_inj h.2]
      | _ => simp [reading] at h
  | present name, g, h => by
      cases g with
      | present name' =>
          simp only [reading, Reading.present.injEq] at h
          rw [String.toList_inj.mp h]
      | _ => simp [reading] at h
  | all fs, g, h => by
      cases g with
      | all gs =>
          simp only [reading, Reading.all.injEq] at h
          rw [readings_inj h]
      | _ => simp [reading] at h
  | any fs, g, h => by
      cases g with
      | any gs =>
          simp only [reading, Reading.any.injEq] at h
          rw [readings_inj h]
      | _ => simp [reading] at h

theorem readings_inj : ∀ {fs gs : List Filter}, readings fs = readings gs → fs = gs
  | [], gs, h => by
      cases gs with
      | nil => rfl
      | cons => simp [readings] at h
  | f :: fs, gs, h => by
      cases gs with
      | nil => simp [readings] at h
      | cons g gs =>
          simp only [readings, List.cons.injEq] at h
          rw [reading_inj h.1, readings_inj h.2]

end

/-- The text of a filter can be read, and as nothing else. -/
def ReadsOnlyAs (f : Filter) (r : Reading) : Prop :=
  ∀ s, Reads f.text.toList s ↔ s = r

theorem readsOnlyAs_reading {f : Filter} (h : AreDescriptions f.names) : f.ReadsOnlyAs f.reading := by
  intro s
  rw [text, String.toList_ofList]
  constructor
  · intro hs
    have heq : f.toChars ++ [] = f.toChars ++ [] := rfl
    exact (Reads.eq_of_append h hs heq).2
  · rintro rfl
    exact reads_toChars h

theorem ReadsOnlyAs.eq {f g : Filter} {r s : Reading} (hf : f.ReadsOnlyAs r) (hg : g.ReadsOnlyAs s)
    (h : f.text = g.text) : r = s := by
  have hr : Reads f.text.toList r := (hf r).mpr rfl
  rw [h] at hr
  exact (hg r).mp hr

/-- The text of a filter reads as this filter only, so different filters have different texts and no test
for a value turns into one for presence. The filters that classes and their directives are looked up by
read as two tests for equality, whatever the client or the class is called. -/
theorem text_reads_back :
    (∀ f : Filter, AreDescriptions f.names → f.ReadsOnlyAs f.reading) ∧
    (∀ f g : Filter, f.reading = g.reading → f = g) ∧
    (∀ f g : Filter, AreDescriptions f.names → AreDescriptions g.names → f.text = g.text → f = g) ∧
    (∀ name value : String, isDescription name.toList = true →
      ∀ other, ¬ Reads (equals name value).text.toList (.present other)) ∧
    (∀ (lookup : ClassLookup) (client : String),
      isDescription lookup.memberAttribute.toList = true →
      (lookup.request client).filter.ReadsOnlyAs (.all [
        .comparison .equal "objectClass".toList (Utf8.ofString lookup.objectClass),
        .comparison .equal lookup.memberAttribute.toList (Utf8.ofString client)])) ∧
    (∀ (settings : LdapDirectives.Settings) (name : String),
      isDescription settings.classAttribute.toList = true →
      (LdapDirectives.request settings name).filter.ReadsOnlyAs (.all [
        .comparison .equal "objectClass".toList (Utf8.ofString settings.objectClass),
        .comparison .equal settings.classAttribute.toList (Utf8.ofString name)])) := by
  have hpair : ∀ first second : String, isDescription first.toList = true →
      isDescription second.toList = true → ∀ value value' : String,
      AreDescriptions (Filter.all [.equals first value, .equals second value']).names := by
    intro first second hfirst hsecond value value' name hname
    simp only [names, listNames, List.append_nil, List.cons_append, List.nil_append, List.mem_cons,
      List.not_mem_nil, or_false] at hname
    rcases hname with rfl | rfl
    · exact hfirst
    · exact hsecond
  refine ⟨fun f => readsOnlyAs_reading, fun f g => reading_inj, ?_, ?_, ?_, ?_⟩
  · intro f g hf hg h
    exact reading_inj ((readsOnlyAs_reading hf).eq (readsOnlyAs_reading hg) h)
  · intro name value hname other hother
    have hdescription : AreDescriptions (equals name value).names := by
      simpa [AreDescriptions, names] using hname
    have h := (readsOnlyAs_reading hdescription _).mp hother
    simp [reading] at h
  · intro lookup client hname
    exact readsOnlyAs_reading (hpair _ _ (by decide) hname _ _)
  · intro settings name hname
    exact readsOnlyAs_reading (hpair _ _ (by decide) hname _ _)

theorem text_reads_back_of_hostile :
    let f : Filter := .any [.all [], .equals "cn;x-1" "*", .any [.equals "cn" "a)(b=\\2a\x00é"]]
    let lookup : ClassLookup :=
      { baseDn := "o=lab", objectClass := "preseedObject", memberAttribute := "preseedValue"
        classAttribute := "cn" }
    AreDescriptions f.names ∧ f.ReadsOnlyAs f.reading ∧
      isDescription lookup.memberAttribute.toList = true ∧
      (lookup.request "host*)(cn=*").filter.ReadsOnlyAs (.all [
        .comparison .equal "objectClass".toList (Utf8.ofString "preseedObject"),
        .comparison .equal "preseedValue".toList (Utf8.ofString "host*)(cn=*")]) ∧
      isDescription "cn".toList = true ∧
      ¬ Reads (equals "cn" "*").text.toList (.present "cn".toList) := by
  intro f lookup
  have hf : AreDescriptions f.names := by decide
  have hmember : isDescription lookup.memberAttribute.toList = true := by decide
  have hcn : isDescription "cn".toList = true := by decide
  obtain ⟨hreads, -, -, hpresent, hlookup, -⟩ := text_reads_back
  exact ⟨hf, hreads f hf, hmember, hlookup lookup "host*)(cn=*" hmember, hcn,
    hpresent "cn" "*" hcn "cn".toList⟩

end Preseed.Filter
