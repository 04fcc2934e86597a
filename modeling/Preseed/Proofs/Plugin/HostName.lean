import Preseed.Plugin.Netcfg
import Preseed.Proofs.Client.Safety
import Preseed.Proofs.Client.Steps
import Preseed.Proofs.Net.AddressText

/-! # Host name and domain

A reverse name is cut at its first dot, unless it is an IP address. So a client without a usable name has
its address as host name and no domain, and the host name and domain of the network answers are the parts
of one name. -/

namespace Preseed

/-! ## The parts of a name -/

section

variable {name : String} (h : Net.Address.ofString? name = none)

include h

theorem toList_deriveHostname : (deriveHostname name).toList = (Split.cut '.' name.toList).1 := by
  rw [deriveHostname, h, if_neg (by simp), String.toList_ofList, Split.takeWhile_eq_cut]

theorem dot_not_mem_deriveHostname : '.' ∉ (deriveHostname name).toList := by
  rw [toList_deriveHostname h, ← Split.takeWhile_eq_cut]
  intro hmem
  simpa using List.all_eq_true.mp List.all_takeWhile '.' hmem

/-- The name is cut behind its host name. -/
theorem eq_hostname_dot_iff {d : String} :
    name = deriveHostname name ++ "." ++ d ↔
      ∃ before, Split.cut? '.' name.toList = some (before, d.toList) := by
  constructor
  · intro hname
    refine ⟨(deriveHostname name).toList, Split.cut?_eq_some_iff.mpr
      ⟨?_, dot_not_mem_deriveHostname h⟩⟩
    calc name.toList = (deriveHostname name ++ "." ++ d).toList := congrArg String.toList hname
      _ = (deriveHostname name).toList ++ '.' :: d.toList := by simp
  · rintro ⟨before, hcut⟩
    have hhost := toList_deriveHostname h
    rw [Split.cut, hcut, Option.getD_some] at hhost
    rw [← String.toList_inj, String.toList_append, String.toList_append, hhost,
      Split.eq_append_of_cut? hcut]
    simp

theorem eq_hostname_or :
    name = deriveHostname name ∨ ∃ d, name = deriveHostname name ++ "." ++ d := by
  cases hcut : Split.cut? '.' name.toList with
  | none =>
      left
      rw [← String.toList_inj, toList_deriveHostname h, Split.cut, hcut, Option.getD_none]
  | some parts =>
      right
      refine ⟨String.ofList parts.2, (eq_hostname_dot_iff h).mpr ⟨parts.1, ?_⟩⟩
      rw [hcut, String.toList_ofList]

end

namespace Client

theorem domain_eq_some_iff {client : Client} (h : Net.Address.ofString? client.reverseName = none)
    {d : String} :
    client.domain = some d ↔
      d ≠ "" ∧ client.reverseName = deriveHostname client.reverseName ++ "." ++ d := by
  rw [eq_hostname_dot_iff h, domain, h, if_neg (by simp)]
  constructor
  · intro hdomain
    split at hdomain
    · cases hdomain
    · rename_i before after hafter hcut
      obtain rfl := Option.some.inj hdomain
      refine ⟨fun hnil => hafter ?_, before, by rw [hcut, String.toList_ofList]⟩
      simpa using congrArg String.toList hnil
    · cases hdomain
  · rintro ⟨hd, before, hcut⟩
    rw [hcut]
    cases hchars : d.toList with
    | nil => exact absurd (String.toList_eq_nil_iff.mp hchars) hd
    | cons c cs =>
        change some (String.ofList (c :: cs)) = some d
        rw [← hchars, String.ofList_toList]

/-- An IP address has no domain. -/
theorem domain_eq_none {client : Client}
    (h : (Net.Address.ofString? client.reverseName).isSome) : client.domain = none := by
  rw [domain, if_pos h]

end Client

/-! ## Network answers -/

/-- Answers to one question tell their values. -/
theorem Directive.text_string_inj {key value value' : String} :
    (Directive.string key value).text = (Directive.string key value').text ↔ value = value' := by
  refine ⟨fun h => ?_, fun h => h ▸ rfl⟩
  have hvalue : (if value.isEmpty then "" else " " ++ value) =
      if value'.isEmpty then "" else " " ++ value' := (String.append_right_inj _).mp h
  have hspace : ∀ s, " " ++ s ≠ "" := fun s hs => by simpa using congrArg String.toList hs
  split at hvalue <;> split at hvalue
  · rename_i h₁ h₂
    rw [String.isEmpty_iff.mp h₁, String.isEmpty_iff.mp h₂]
  · exact absurd hvalue.symm (hspace value')
  · exact absurd hvalue (hspace value)
  · exact (String.append_right_inj " ").mp hvalue

namespace Netcfg

def hostLine (host : String) : String :=
  (Directive.string "netcfg/get_hostname" host).text

def domainLine (domain : String) : String :=
  (Directive.string "netcfg/get_domain" domain).text

variable (settings : Settings) (client : Client)

def interfaceLine : String :=
  { Directive.string "netcfg/choose_interface" settings.interface with type := "select" }.text

def forcedLines : List String :=
  if settings.forceHostname then
    [(Directive.string "netcfg/hostname" (hostname settings client)).text]
  else []

theorem lines_preseed :
    lines settings client .preseed =
      [interfaceLine settings, hostLine (hostname settings client)] ++
        client.domain.toList.map domainLine ++ forcedLines settings client := by
  unfold forcedLines
  cases h : settings.forceHostname <;> simp [lines, directives, h, interfaceLine, hostLine,
    domainLine, Function.comp_def]

/-- Lines differ where a character of their keys does. -/
theorem text_ne_of_getElem? {d d' : Directive} (i : ℕ)
    (h : d.text.toList[i]? ≠ d'.text.toList[i]?) : d.text ≠ d'.text :=
  fun htext => h (congrArg (·.toList[i]?) htext)

theorem not_mem_forcedLines {line : String} (h : line.toList[11]? ≠ some 'h') :
    line ∉ forcedLines settings client := by
  unfold forcedLines
  split
  · rw [List.mem_singleton]
    rintro rfl
    exact h (by simp [Directive.text, Directive.string])
  · exact List.not_mem_nil

theorem hostLine_mem_lines_iff {host : String} :
    hostLine host ∈ lines settings client .preseed ↔ host = hostname settings client := by
  have hinterface : hostLine host ≠ interfaceLine settings :=
    text_ne_of_getElem? 11 (by simp [Directive.text, Directive.string])
  have hdomain : hostLine host ∉ client.domain.toList.map domainLine := by
    rw [List.mem_map]
    rintro ⟨d, -, hline⟩
    exact text_ne_of_getElem? 15 (by simp [Directive.text, Directive.string]) hline
  have hforced : hostLine host ∉ forcedLines settings client :=
    not_mem_forcedLines settings client (by simp [hostLine, Directive.text, Directive.string])
  have hhost : hostLine host = hostLine (hostname settings client) ↔
      host = hostname settings client := Directive.text_string_inj
  simp [lines_preseed, hinterface, hdomain, hforced, hhost]

theorem domainLine_mem_lines_iff {d : String} :
    domainLine d ∈ lines settings client .preseed ↔ client.domain = some d := by
  have hinterface : domainLine d ≠ interfaceLine settings :=
    text_ne_of_getElem? 11 (by simp [Directive.text, Directive.string])
  have hhost : domainLine d ≠ hostLine (hostname settings client) :=
    text_ne_of_getElem? 15 (by simp [Directive.text, Directive.string])
  have hforced : domainLine d ∉ forcedLines settings client :=
    not_mem_forcedLines settings client (by simp [domainLine, Directive.text, Directive.string])
  have hdomain : ∀ d', domainLine d' = domainLine d ↔ d' = d := fun d' =>
    Directive.text_string_inj
  simp [lines_preseed, hinterface, hhost, hforced, hdomain]

end Netcfg

namespace Client.Builder

theorem hostName_of_unusable (ip : Net.Address) {steps : List Step} (h : usableName steps = none) :
    (run ip steps).build.reverseName = ip.toString ∧
      (run ip steps).build.derivedHostname = ip.toString ∧
      (run ip steps).build.domain = none := by
  have hip : (run ip steps).build.reverseName = ip.toString := by
    rw [(factsOf_run ip steps).reverseName_eq, h, Option.getD_none]
  have hread : (Net.Address.ofString? (run ip steps).build.reverseName).isSome := by
    rw [hip, Net.Address.ofString?_toString]
    rfl
  refine ⟨hip, ?_, domain_eq_none hread⟩
  change deriveHostname (run ip steps).build.reverseName = ip.toString
  rw [deriveHostname, if_pos hread, hip]

theorem eq_hostName_or_of_domain {client : Client}
    (h : Net.Address.ofString? client.reverseName = none) (hdomain : client.domain = none) :
    client.reverseName = deriveHostname client.reverseName ∨
      client.reverseName = deriveHostname client.reverseName ++ "." := by
  rcases eq_hostname_or h with halone | ⟨d, hd⟩
  · exact .inl halone
  · right
    by_cases hempty : d = ""
    · rwa [hempty, String.append_empty] at hd
    · rw [(domain_eq_some_iff h).mpr ⟨hempty, hd⟩] at hdomain
      cases hdomain

/-- A client without a usable name has its address as host name, and no domain. Any other name that is no
address is the host name with its domain, or with a last dot, or alone. The answers of both, where both
are given, are the parts of the reverse name. -/
theorem hostName_of_steps {σ : Type} (state : σ) (ip : Net.Address) (steps : List Step) :
    let client := (run ip steps).build
    (usableName steps = none →
      client.reverseName = ip.toString ∧ client.derivedHostname = ip.toString ∧
        client.domain = none ∧ isSafe ip.toString = true) ∧
      (∀ name, usableName steps = some name → Net.Address.ofString? name = none →
        client.reverseName = name ∧ '.' ∉ client.derivedHostname.toList ∧
          (∀ d, client.domain = some d ↔ d ≠ "" ∧ name = client.derivedHostname ++ "." ++ d) ∧
          (client.domain = none →
            name = client.derivedHostname ∨ name = client.derivedHostname ++ ".")) ∧
      ∀ settings : Netcfg.Settings, settings.hostname = none → ∀ out s,
        let lines := ((Netcfg.plugin state settings client).call .preseed out s).lines
        (∀ host, Netcfg.hostLine host ∈ lines ↔ host = client.derivedHostname) ∧
          (∀ d, Netcfg.domainLine d ∈ lines ↔ client.domain = some d) ∧
          ∀ host d, Netcfg.hostLine host ∈ lines → Netcfg.domainLine d ∈ lines →
            host ++ "." ++ d = client.reverseName := by
  intro client
  refine ⟨fun h => ?_, fun name hname hliteral => ?_, fun settings hsettings out s => ?_⟩
  · obtain ⟨hreverse, hhost, hdomain⟩ := hostName_of_unusable ip h
    exact ⟨hreverse, hhost, hdomain, Net.Address.isSafe_toString ip⟩
  · obtain rfl : client.reverseName = name := by
      rw [(factsOf_run ip steps).reverseName_eq, hname, Option.getD_some]
    exact ⟨rfl, dot_not_mem_deriveHostname hliteral, fun d => domain_eq_some_iff hliteral,
      eq_hostName_or_of_domain hliteral⟩
  · have hhost : ∀ host, Netcfg.hostLine host ∈ Netcfg.lines settings client .preseed ↔
        host = client.derivedHostname := by
      intro host
      rw [Netcfg.hostLine_mem_lines_iff, Netcfg.hostname, hsettings]
    refine ⟨hhost, fun d => Netcfg.domainLine_mem_lines_iff settings client, ?_⟩
    intro host d hhostLine hdomainLine
    obtain rfl := (hhost host).mp hhostLine
    have hdomain := (Netcfg.domainLine_mem_lines_iff settings client).mp hdomainLine
    have hliteral : Net.Address.ofString? client.reverseName = none := by
      by_contra hsome
      rw [domain_eq_none (Option.isSome_iff_ne_none.mpr hsome)] at hdomain
      cases hdomain
    exact ((domain_eq_some_iff hliteral).mp hdomain).2.symm

/-- An unsafe name counts as none. A requested name changes neither part of the reverse name. -/
theorem hostName_of_steps_of_override :
    let mapped : Net.Address := .v6 ⟨[0, 0, 0, 0, 0, 0xFFFF, 0x0A00, 5], rfl⟩
    let unsafeSteps : List Step := [.reverseName (some "host5\nd-i.lab.example")]
    let steps : List Step := [.reverseName (some "host5.lab.example"),
      .params { client := some "other.site.example" }]
    let client := (run mapped steps).build
    let lines := Netcfg.lines {} client .preseed
    usableName unsafeSteps = none ∧
      (run mapped unsafeSteps).build.derivedHostname = "::ffff:10.0.0.5" ∧
      (run mapped unsafeSteps).build.domain = none ∧
      usableName steps = some "host5.lab.example" ∧
      Net.Address.ofString? "host5.lab.example" = none ∧
      ({} : Netcfg.Settings).hostname = none ∧ client.domain = some "lab.example" ∧
      Netcfg.hostLine "host5" ∈ lines ∧ Netcfg.domainLine "lab.example" ∈ lines ∧
      "host5" ++ "." ++ "lab.example" = client.reverseName := by
  intro mapped unsafeSteps steps client lines
  have hunusable : usableName unsafeSteps = none := by decide +kernel
  have husable : usableName steps = some "host5.lab.example" := by decide +kernel
  have hliteral : Net.Address.ofString? "host5.lab.example" = none := by decide +kernel
  obtain ⟨haddress, -, -⟩ := hostName_of_steps () mapped unsafeSteps
  obtain ⟨-, hhost, hdomain, -⟩ := haddress hunusable
  obtain ⟨-, hname, hanswers⟩ := hostName_of_steps () mapped steps
  obtain ⟨-, -, hparts, -⟩ := hname _ husable hliteral
  obtain ⟨hhostLine, hdomainLine, hjoin⟩ := hanswers {} rfl {} ()
  have hlab : client.domain = some "lab.example" :=
    (hparts "lab.example").mpr ⟨by decide, by decide +kernel⟩
  have hfirst : Netcfg.hostLine "host5" ∈ lines := (hhostLine "host5").mpr (by decide +kernel)
  have hsecond : Netcfg.domainLine "lab.example" ∈ lines := (hdomainLine "lab.example").mpr hlab
  exact ⟨hunusable, hhost.trans (by decide +kernel), hdomain, husable, hliteral, rfl, hlab, hfirst,
    hsecond, hjoin "host5" "lab.example" hfirst hsecond⟩

end Client.Builder

end Preseed
