import Preseed.Client.Basic
import Preseed.Proofs.Text.Split

/-! # Expansion as a scan for tokens

Expansion looks for the brace that closes an opening one, and then for the value of what stands between.
The scan below knows the tokens of the placeholders and looks for no brace. Both give the same text, since a
token holds no brace but its first and its last character, so that none begins inside another. -/

namespace Preseed

namespace Template

/-- A placeholder with the text that stands for it. -/
structure Token where
  key : List Char
  value : List Char
  open_notMem : '\x7b' ∉ key := by decide
  close_notMem : '\x7d' ∉ key := by decide

/-- The placeholder as a template writes it. -/
def Token.text (t : Token) : List Char :=
  '\x7b' :: (t.key ++ ['\x7d'])

/-- The text begins with the token. -/
def Token.begins (t : Token) (cs : List Char) : Bool :=
  t.text.isPrefixOf cs

/-- From left to right: a token that begins here is replaced by its value, and the scan goes on behind it;
where none begins, one character is copied. -/
def scan (tokens : List Token) : List Char → List Char
  | [] => []
  | c :: rest =>
    match tokens.find? (·.begins (c :: rest)) with
    | some t => t.value ++ scan tokens ((c :: rest).drop t.text.length)
    | none => c :: scan tokens rest
termination_by cs => cs.length
decreasing_by
  · rw [List.length_drop, Token.text, List.length_cons, List.length_cons]
    omega
  · exact Nat.lt_succ_self _

/-! ## Where a token begins -/

theorem Token.begins_iff {t : Token} {cs : List Char} :
    t.begins cs = true ↔ ∃ after, cs = t.text ++ after := by
  rw [begins, List.isPrefixOf_iff_prefix]
  exact ⟨fun ⟨after, h⟩ => ⟨after, h.symm⟩, fun ⟨after, h⟩ => ⟨after, h.symm⟩⟩

/-- A token begins at an opening brace if its key is what stands before the next closing one. -/
theorem Token.begins_cons_iff {t : Token} {c : Char} {rest : List Char} :
    t.begins (c :: rest) = true ↔
      c = '\x7b' ∧ ∃ after, Split.cut? '\x7d' rest = some (t.key, after) := by
  rw [begins_iff]
  constructor
  · rintro ⟨after, h⟩
    obtain ⟨rfl, rfl⟩ := List.cons.inj h
    refine ⟨rfl, after, ?_⟩
    rw [List.append_eq, List.append_assoc]
    exact Split.cut?_append after t.close_notMem
  · rintro ⟨rfl, after, hcut⟩
    refine ⟨after, ?_⟩
    rw [Split.eq_append_of_cut? hcut, text]
    simp

theorem Token.begins_of_cut? {t : Token} {rest key after : List Char}
    (h : Split.cut? '\x7d' rest = some (key, after)) :
    t.begins ('\x7b' :: rest) = (t.key == key) := by
  rw [Bool.eq_iff_iff, begins_cons_iff, h, beq_iff_eq]
  simp [eq_comm]

theorem find?_begins_of_cut? (tokens : List Token) {rest key after : List Char}
    (h : Split.cut? '\x7d' rest = some (key, after)) :
    tokens.find? (·.begins ('\x7b' :: rest)) = tokens.find? (·.key == key) :=
  congrArg (tokens.find? ·) (funext fun _ => Token.begins_of_cut? h)

/-- No token begins before another brace opens if none begins without what follows that brace. -/
theorem Token.begins_append {t : Token} (c : Char) (rest tail : List Char) :
    t.begins (c :: (rest ++ '\x7b' :: tail)) = t.begins (c :: rest) := by
  rw [Bool.eq_iff_iff, begins_cons_iff, begins_cons_iff]
  refine and_congr_right fun _ => ⟨?_, ?_⟩
  · rintro ⟨after, hcut⟩
    obtain ⟨heq, -⟩ := Split.cut?_eq_some_iff.mp hcut
    rcases List.append_eq_append_iff.mp heq with ⟨more, hkey, hmore⟩ | ⟨more, hrest, hmore⟩
    · -- The key would reach to the brace that opens behind `rest`.
      cases more with
      | nil => cases hmore
      | cons d more =>
        obtain ⟨rfl, -⟩ := List.cons.inj hmore
        exact absurd (by simp [hkey]) t.open_notMem
    · cases more with
      | nil => cases hmore
      | cons d more =>
        obtain ⟨rfl, -⟩ := List.cons.inj hmore
        exact ⟨more, by rw [hrest, Split.cut?_append more t.close_notMem]⟩
  · rintro ⟨after, hcut⟩
    refine ⟨after ++ '\x7b' :: tail, ?_⟩
    rw [Split.eq_append_of_cut? hcut, List.append_assoc, List.cons_append,
      Split.cut?_append _ t.close_notMem]

/-! ## The scan and the search for braces -/

/-- The value of a key among tokens. -/
def valueOf? (tokens : List Token) (key : List Char) : Option (List Char) :=
  (tokens.find? (·.key == key)).map (·.value)

theorem scan_cons_of_none {tokens : List Token} {c : Char} {rest : List Char}
    (h : tokens.find? (·.begins (c :: rest)) = none) :
    scan tokens (c :: rest) = c :: scan tokens rest := by
  rw [scan, h]

theorem expand_eq_scan (tokens : List Token) (cs : List Char) :
    expand (valueOf? tokens) cs = scan tokens cs := by
  fun_induction expand (valueOf? tokens) cs with
  | case1 => rw [scan]
  | case2 rest key after hcut value hvalue ih =>
    obtain ⟨t, ht, rfl⟩ := Option.map_eq_some_iff.mp hvalue
    obtain rfl : t.key = key := by simpa using List.find?_some ht
    have hbehind : ('\x7b' :: rest).drop t.text.length = after := by
      rw [Split.eq_append_of_cut? hcut, Token.text]
      simp
    rw [scan, find?_begins_of_cut? tokens hcut, ht, ih, ← hbehind]
  | case3 rest key after hcut hvalue ih =>
    have hnone : tokens.find? (·.key == key) = none := Option.map_eq_none_iff.mp hvalue
    rw [scan_cons_of_none (by rw [find?_begins_of_cut? tokens hcut, hnone]), ih]
  | case4 rest hcut ih =>
    rw [scan_cons_of_none, ih]
    rw [List.find?_eq_none]
    intro t _ hbegins
    obtain ⟨-, after, h⟩ := Token.begins_cons_iff.mp hbegins
    rw [hcut] at h
    cases h
  | case5 c rest hc ih =>
    rw [scan_cons_of_none, ih]
    rw [List.find?_eq_none]
    intro t _ hbegins
    exact hc (Token.begins_cons_iff.mp hbegins).1

/-- Every occurrence of a token is replaced, whatever stands around it. -/
theorem scan_append_text {tokens : List Token} {t : Token}
    (ht : tokens.find? (·.key == t.key) = some t) (before after : List Char) :
    scan tokens (before ++ (t.text ++ after)) =
      scan tokens before ++ (t.value ++ scan tokens after) := by
  fun_induction scan tokens before with
  | case1 =>
    have hcut : Split.cut? '\x7d' (t.key ++ '\x7d' :: after) = some (t.key, after) :=
      Split.cut?_append after t.close_notMem
    have htext : t.text ++ after = '\x7b' :: (t.key ++ '\x7d' :: after) := by
      simp [Token.text]
    rw [List.nil_append, List.nil_append, htext, scan, find?_begins_of_cut? tokens hcut, ht,
      ← htext]
    simp only [List.drop_left]
  | case2 c rest u hu ih =>
    have hprefix : u.text.length ≤ (c :: rest).length := by
      have hbegins : u.begins (c :: rest) = true := by simpa using List.find?_some hu
      obtain ⟨more, hmore⟩ := Token.begins_iff.mp hbegins
      rw [hmore, List.length_append]
      exact Nat.le_add_right _ _
    have hsame : tokens.find? (·.begins (c :: (rest ++ (t.text ++ after)))) = some u := by
      rw [← hu]
      exact congrArg (tokens.find? ·) (funext fun _ => Token.begins_append c rest _)
    rw [List.cons_append, scan, hsame]
    dsimp only
    rw [← List.cons_append, List.drop_append_of_le_length hprefix, ih, List.append_assoc]
  | case3 c rest hnone ih =>
    have hsame : tokens.find? (·.begins (c :: (rest ++ (t.text ++ after)))) = none := by
      rw [← hnone]
      exact congrArg (tokens.find? ·) (funext fun _ => Token.begins_append c rest _)
    rw [List.cons_append, scan_cons_of_none hsame, ih, List.cons_append]

theorem scan_eq_self {tokens : List Token} {cs : List Char}
    (h : ∀ t ∈ tokens, ¬ t.text <:+: cs) : scan tokens cs = cs := by
  induction cs with
  | nil => rw [scan]
  | cons c rest ih =>
    rw [scan_cons_of_none, ih]
    · exact fun t ht hrest => h t ht (List.infix_cons hrest)
    · rw [List.find?_eq_none]
      intro t ht hbegins
      exact h t ht (List.isPrefixOf_iff_prefix.mp hbegins).isInfix

end Template

namespace Client

/-- The placeholders of templates, with what is known of the client. -/
def tokens (client : Client) : List Template.Token :=
  [{ key := "name".toList, value := client.name.toList },
    { key := "hostname".toList, value := client.derivedHostname.toList },
    { key := "domain".toList, value := (client.domain.getD "").toList },
    { key := "ip".toList, value := client.ip.toString.toList },
    { key := "hwaddr".toList, value := client.hardwareAddress.toList },
    { key := "arch".toList, value := (client.architecture.getD "").toList },
    { key := "distro".toList, value := client.distro.toList },
    { key := "node".toList, value := (client.node.getD "").toList }]

example (client : Client) :
    client.tokens.map (fun t => String.ofList t.text) =
      ["\x7bname\x7d", "\x7bhostname\x7d", "\x7bdomain\x7d", "\x7bip\x7d", "\x7bhwaddr\x7d",
        "\x7barch\x7d", "\x7bdistro\x7d", "\x7bnode\x7d"] := by
  rfl

theorem placeholder?_eq_valueOf? (client : Client) (key : List Char) :
    (client.placeholder? (String.ofList key)).map String.toList =
      Template.valueOf? client.tokens key := by
  obtain ⟨text, rfl⟩ : ∃ text : String, key = text.toList := ⟨String.ofList key, by simp⟩
  rw [String.ofList_toList]
  unfold placeholder?
  split
  case h_9 hname hhostname hdomain hip hhwaddr harch hdistro hnode =>
    rw [Option.map_none, eq_comm, Template.valueOf?, Option.map_eq_none_iff, List.find?_eq_none]
    intro t ht hkey
    rw [beq_iff_eq] at hkey
    simp only [tokens, List.mem_cons, List.not_mem_nil, or_false] at ht
    rcases ht with rfl | rfl | rfl | rfl | rfl | rfl | rfl | rfl
    all_goals
      have := String.toList_inj.mp hkey
      subst this
      contradiction
  all_goals rfl

theorem find?_tokens {client : Client} {t : Template.Token} (ht : t ∈ client.tokens) :
    client.tokens.find? (·.key == t.key) = some t := by
  simp only [tokens, List.mem_cons, List.not_mem_nil, or_false] at ht
  rcases ht with rfl | rfl | rfl | rfl | rfl | rfl | rfl | rfl
  all_goals rfl

theorem toList_expand (client : Client) (template : String) :
    (client.expand template).toList = Template.scan client.tokens template.toList := by
  have hvalue : (fun key => (client.placeholder? (String.ofList key)).map String.toList) =
      Template.valueOf? client.tokens :=
    funext client.placeholder?_eq_valueOf?
  rw [expand, String.toList_ofList, hvalue, Template.expand_eq_scan]

/-- Expansion is the scan for the eight tokens. An occurrence of a token is replaced whatever stands around
it, what takes its place is not looked at again, and a text without tokens stays as it is. -/
theorem expand_scans_tokens (client : Client) :
    (∀ template, client.expand template =
      String.ofList (Template.scan client.tokens template.toList)) ∧
    (∀ t ∈ client.tokens, ∀ before after,
      client.expand (before ++ String.ofList t.text ++ after) =
        client.expand before ++ String.ofList t.value ++ client.expand after) ∧
    ∀ template, (∀ t ∈ client.tokens, ¬ t.text <:+: template.toList) →
      client.expand template = template := by
  refine ⟨fun template => ?_, fun t ht before after => ?_, fun template hnone => ?_⟩
  · rw [← toList_expand, String.ofList_toList]
  · rw [← String.toList_inj]
    simp only [toList_expand, String.toList_append, String.toList_ofList, List.append_assoc]
    exact Template.scan_append_text (find?_tokens ht) before.toList after.toList
  · rw [← String.toList_inj, toList_expand, Template.scan_eq_self hnone]

/-- A node that looks like a token, between braces that close nothing. -/
theorem expand_scans_tokens_of_nested :
    let client := ((builder (.v4 ⟨10, 0, 0, 5⟩)).applyParams { node := some "\x7bip\x7d" }).build
    let node : Template.Token := { key := "node".toList, value := "\x7bip\x7d".toList }
    node ∈ client.tokens ∧
      (∀ t ∈ client.tokens, ¬ t.text <:+: "\x7bnode \x7b".toList) ∧
      client.expand ("\x7bnode \x7b" ++ String.ofList node.text ++ "\x7d\x7bip\x7d") =
        "\x7bnode \x7b\x7bip\x7d\x7d10.0.0.5" := by
  intro client node
  have hnode : node ∈ client.tokens := by
    simp [client, node, tokens, Builder.build, Builder.applyParams]
  have hnone : ∀ t ∈ client.tokens, ¬ t.text <:+: "\x7bnode \x7b".toList := by
    decide +kernel
  obtain ⟨-, hreplaced, hkept⟩ := expand_scans_tokens client
  refine ⟨hnode, hnone, ?_⟩
  rw [hreplaced node hnode, hkept _ hnone]
  decide +kernel

end Client

end Preseed
