import Preseed.Proofs.Client.Safety

/-! # What expansion leaves alone

The placeholders of a client stand for safe texts and are themselves named by safe texts. Expansion
therefore changes a template in safe characters and in braces only. -/

namespace Preseed

def isBrace (c : Char) : Bool :=
  c == '\x7b' || c == '\x7d'

/-- A character that could end a line, a word or a quotation, or that a shell interprets. -/
def isActive (c : Char) : Bool :=
  !isSafeChar c && !isBrace c

/-- Line breaks, quotes, blanks and what a shell or an installer gives a meaning to. -/
example :
    "\n\r\"' \t$\x60;&|<>#\\".toList.all isActive = true := by
  decide

theorem isActive_brace {c : Char} (h : isBrace c = true) : isActive c = false := by
  simp [isActive, h]

theorem isActive_of_isSafeChar {c : Char} (h : isSafeChar c = true) : isActive c = false := by
  simp [isActive, h]

theorem isBrace_of_isSafeChar {c : Char} (h : isSafeChar c = true) : isBrace c = false := by
  cases hbrace : isBrace c with
  | false => rfl
  | true =>
      simp only [isBrace, Bool.or_eq_true, beq_iff_eq] at hbrace
      rcases hbrace with rfl | rfl
      · exact absurd h (by decide)
      · exact absurd h (by decide)

theorem filter_of_safe {p : Char → Bool} (hp : ∀ c, isSafeChar c = true → p c = false)
    {cs : List Char} (hcs : ∀ c ∈ cs, isSafeChar c = true) : cs.filter p = [] := by
  rw [List.filter_eq_nil_iff]
  intro c hc
  rw [hp c (hcs c hc)]
  exact Bool.false_ne_true

namespace Template

/-- A text is rewritten by keeping characters and by putting safe texts in the place of safe texts
between braces. -/
inductive Rewrites : List Char → List Char → Prop where
  | nil : Rewrites [] []
  | keep (c) {before after} : Rewrites before after → Rewrites (c :: before) (c :: after)
  | replace {key value before after} (hkey : ∀ c ∈ key, isSafeChar c = true)
      (hvalue : ∀ c ∈ value, isSafeChar c = true) :
      Rewrites before after → Rewrites ('\x7b' :: (key ++ '\x7d' :: before)) (value ++ after)

/-- Placeholders whose names and values are safe. -/
def SafeValues (value? : List Char → Option (List Char)) : Prop :=
  ∀ key value, value? key = some value →
    (∀ c ∈ key, isSafeChar c = true) ∧ ∀ c ∈ value, isSafeChar c = true

theorem rewrites_expand {value? : List Char → Option (List Char)} (hvalues : SafeValues value?)
    (template : List Char) : Rewrites template (expand value? template) := by
  fun_induction expand value? template with
  | case1 => exact .nil
  | case2 rest key after hcut value hvalue ih =>
      obtain ⟨hkey, hval⟩ := hvalues key value hvalue
      rw [Split.eq_append_of_cut? hcut]
      exact .replace hkey hval ih
  | case3 rest key after hcut hvalue ih => exact .keep _ ih
  | case4 rest hcut ih => exact .keep _ ih
  | case5 c rest hc ih => exact .keep c ih

/-- What is neither safe nor a brace is the same before and after, in the same order. -/
theorem Rewrites.filter_eq {p : Char → Bool} (hsafe : ∀ c, isSafeChar c = true → p c = false)
    (hbrace : ∀ c, isBrace c = true → p c = false) {before after : List Char}
    (h : Rewrites before after) : after.filter p = before.filter p := by
  induction h with
  | nil => rfl
  | keep c _ ih => rw [List.filter_cons, List.filter_cons, ih]
  | replace hkey hvalue _ ih =>
      have hopen : p '\x7b' = false := hbrace _ (by decide)
      have hclose : p '\x7d' = false := hbrace _ (by decide)
      rw [List.filter_append, filter_of_safe hsafe hvalue, List.filter_cons, hopen,
        List.filter_append, filter_of_safe hsafe hkey, List.filter_cons, hclose, ih]
      rfl

/-- What is not safe comes from before, in the same order. -/
theorem Rewrites.filter_sublist {p : Char → Bool}
    (hsafe : ∀ c, isSafeChar c = true → p c = false) {before after : List Char}
    (h : Rewrites before after) : (after.filter p).Sublist (before.filter p) := by
  induction h with
  | nil => exact List.Sublist.refl _
  | keep c _ ih =>
      rw [List.filter_cons, List.filter_cons]
      split
      · exact ih.cons_cons c
      · exact ih
  | @replace key value before after hkey hvalue _ ih =>
      have hpart : (before.filter p).Sublist
          (('\x7b' :: (key ++ '\x7d' :: before)).filter p) := by
        refine List.Sublist.filter p ?_
        exact ((List.sublist_cons_self _ _).trans (List.sublist_append_right key _)).cons _
      rw [List.filter_append, filter_of_safe hsafe hvalue, List.nil_append]
      exact ih.trans hpart

end Template

namespace Client

theorem isSafe_placeholder {client : Client} (h : client.IsSafe) {key value : String}
    (hvalue : client.placeholder? key = some value) :
    isSafe key = true ∧ isSafe value = true := by
  have hgetD : ∀ {o : Option String}, (∀ v ∈ o, isSafe v = true) → isSafe (o.getD "") = true := by
    intro o ho
    cases o with
    | none => exact isSafe_empty
    | some v => exact ho v rfl
  unfold placeholder? at hvalue
  split at hvalue
  · cases hvalue
    exact ⟨by decide, h.name⟩
  · cases hvalue
    exact ⟨by decide, h.derivedHostname⟩
  · cases hvalue
    exact ⟨by decide, hgetD h.domain⟩
  · cases hvalue
    exact ⟨by decide, Net.Address.isSafe_toString client.ip⟩
  · cases hvalue
    exact ⟨by decide, h.hardwareAddress⟩
  · cases hvalue
    exact ⟨by decide, hgetD h.architecture⟩
  · cases hvalue
    exact ⟨by decide, h.distro⟩
  · cases hvalue
    exact ⟨by decide, hgetD h.node⟩
  · cases hvalue

theorem rewrites_expand {client : Client} (h : client.IsSafe) (template : String) :
    Template.Rewrites template.toList (client.expand template).toList := by
  rw [expand, String.toList_ofList]
  refine Template.rewrites_expand ?_ _
  intro key value hvalue
  obtain ⟨text, htext, rfl⟩ := Option.map_eq_some_iff.mp hvalue
  obtain ⟨hkey, hval⟩ := isSafe_placeholder h htext
  rw [isSafe_iff] at hkey hval
  rw [String.toList_ofList] at hkey
  exact ⟨hkey, hval⟩

/-- Whatever a request says, an expanded template has the template's active characters and no others,
and no brace that the template has not. -/
theorem expand_keeps_active (ip : Net.Address) (name : Option String) {hardware : Option String}
    (hhardware : ∀ a ∈ hardware, isSafe a = true) (query : String) (classes : List String)
    (template : String) :
    let client := ((Builder.ofQuery ip name hardware query).extendClasses classes).build
    (client.expand template).toList.filter isActive = template.toList.filter isActive ∧
      ((client.expand template).toList.filter isBrace).Sublist (template.toList.filter isBrace) ∧
      ∀ c, isActive c = true → (client.expand template).toList.count c = template.toList.count c := by
  intro client
  have hclient : client.IsSafe :=
    ((Builder.isSafe_ofQuery ip name hhardware query).extendClasses classes).build
  have hrewrites := rewrites_expand hclient template
  have hactive : (client.expand template).toList.filter isActive = template.toList.filter isActive :=
    hrewrites.filter_eq (fun _ => isActive_of_isSafeChar) (fun _ => isActive_brace)
  refine ⟨hactive, hrewrites.filter_sublist (fun _ => isBrace_of_isSafeChar), ?_⟩
  intro c hc
  rw [← List.count_filter hc, hactive, List.count_filter hc]

theorem expand_keeps_active_of_hostile :
    (∀ a ∈ some "52:54:00:12:34:56", isSafe a = true) ∧
      ((((Builder.ofQuery (.v4 ⟨10, 0, 0, 5⟩) (some "a\nb") (some "52:54:00:12:34:56")
        "client=%24(reboot)&node=n7&distro=%7Bip%7D").extendClasses ["web;"]).build.expand
          "\x7bname\x7d \"\x7bnode\x7d\"; $\x7b\x7bhwaddr\x7d\x7d \x7bdistro\x7d \x7b").toList.filter isActive) =
        [' ', '"', '"', ';', ' ', '$', ' ', ' '] :=
  ⟨by decide, (expand_keeps_active (.v4 ⟨10, 0, 0, 5⟩) (some "a\nb") (by decide)
    "client=%24(reboot)&node=n7&distro=%7Bip%7D" ["web;"] _).1.trans (by decide)⟩

end Client

end Preseed
