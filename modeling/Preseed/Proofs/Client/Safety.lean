import Preseed.Client.Basic
import Preseed.Proofs.Net.Address

/-! # Safe facts

Every value that a query leaves behind is safe, and so are the facts of a client that is built from one.
The steps of parsing and building each keep this. -/

namespace Preseed

theorem isSafe_iff (s : String) : isSafe s = true ↔ ∀ c ∈ s.toList, isSafeChar c = true :=
  List.all_eq_true

@[simp] theorem isSafe_empty : isSafe "" = true := by decide

theorem isSafe_of_subset {s t : String} (h : isSafe t = true) (hsub : s.toList ⊆ t.toList) :
    isSafe s = true :=
  (isSafe_iff s).mpr fun c hc => (isSafe_iff t).mp h c (hsub hc)

theorem isSafeChar_toLower (c : Char) : isSafeChar c.toLower = true ↔ isSafeChar c = true := by
  by_cases h : 65 ≤ c.toNat ∧ c.toNat ≤ 90
  · have hlower : Ascii.isAlphanumeric c.toLower = true := by
      rw [Ascii.isAlphanumeric_iff, Ascii.toNat_toLower, if_pos h]
      omega
    have hcapital : Ascii.isAlphanumeric c = true := by
      rw [Ascii.isAlphanumeric_iff]
      omega
    simp [isSafeChar, hlower, hcapital]
  · have hsame : c.toLower = c := Char.toNat_inj.mp (by rw [Ascii.toNat_toLower, if_neg h])
    rw [hsame]

/-! ## Parameters -/

namespace Params

/-- What a checked value is: safe and not empty. -/
def IsUsable (value : String) : Prop :=
  value.isEmpty = false ∧ isSafe value = true

theorem checked_eq_some_iff {value v : String} :
    checked value = some v ↔ value = v ∧ IsUsable v := by
  unfold checked
  split
  · rename_i hbad
    rw [Bool.or_eq_true, Bool.not_eq_true'] at hbad
    constructor
    · intro h
      cases h
    · rintro ⟨rfl, hempty, hsafe⟩
      rw [hempty, hsafe] at hbad
      simp at hbad
  · rename_i hgood
    simp only [Bool.or_eq_true, Bool.not_eq_true', not_or, Bool.not_eq_true,
      Bool.not_eq_false] at hgood
    constructor
    · intro h
      cases h
      exact ⟨rfl, hgood⟩
    · rintro ⟨rfl, -⟩
      rfl

theorem checked_of_isUsable {value : String} (h : IsUsable value) : checked value = some value :=
  checked_eq_some_iff.mpr ⟨rfl, h⟩

theorem isUsable_of_mem_checked {value v : String} (h : v ∈ checked value) : IsUsable v :=
  (checked_eq_some_iff.mp h).2

theorem isSafe_stripped (value : String) : isSafe (stripped value) = true := by
  rw [isSafe_iff, stripped, String.toList_ofList]
  intro c hc
  exact (List.mem_filter.mp hc).2

/-- The values that a query may leave behind. -/
structure IsSafe (params : Params) : Prop where
  client : ∀ v ∈ params.client, IsUsable v
  classes : ∀ v ∈ params.classes, IsUsable v
  node : ∀ v ∈ params.node, IsUsable v
  arch : ∀ v ∈ params.arch, IsUsable v
  distro : ∀ v ∈ params.distro, IsUsable v
  plugin : ∀ v ∈ params.plugin, IsUsable v
  script : ∀ v ∈ params.script, isSafe v = true
  version : ∀ v ∈ params.version, isSafe v = true

theorem isSafe_default : IsSafe {} := by
  constructor <;> intro v hv <;> cases hv

theorem IsSafe.apply {params : Params} (h : params.IsSafe) (pair : String × String) :
    (params.apply pair).IsSafe := by
  obtain ⟨key, value⟩ := pair
  have hvalue : ∀ v ∈ checked value, IsUsable v := fun v hv => isUsable_of_mem_checked hv
  have hstripped : ∀ v ∈ some (stripped value), isSafe v = true := by
    rintro v ⟨⟩
    exact isSafe_stripped value
  unfold Params.apply
  dsimp only
  split
  · exact { h with client := hvalue }
  · refine { h with classes := fun v hv => ?_ }
    rcases List.mem_append.mp hv with hv | hv
    · exact h.classes v hv
    · exact hvalue v (Option.mem_toList.mp hv)
  · exact { h with node := hvalue }
  · exact { h with arch := hvalue }
  · exact { h with distro := hvalue }
  · exact { h with plugin := hvalue }
  · exact { h with script := hstripped }
  · exact { h with }
  · exact { h with version := hstripped }
  · exact h

theorem isSafe_foldl {params : Params} (h : params.IsSafe) (pairs : List (String × String)) :
    (pairs.foldl Params.apply params).IsSafe := by
  induction pairs generalizing params with
  | nil => exact h
  | cons pair pairs ih => exact ih (h.apply pair)

theorem isSafe_parse (query : String) : (parse query).IsSafe :=
  isSafe_foldl isSafe_default (Form.decode query)

end Params

/-! ## Clients -/

theorem isSafe_deriveHostname {name : String} (h : isSafe name = true) :
    isSafe (deriveHostname name) = true := by
  unfold deriveHostname
  split
  · exact h
  · refine isSafe_of_subset h ?_
    rw [String.toList_ofList]
    exact (List.takeWhile_sublist _).subset

namespace Client

/-- All facts that a template may name are safe. -/
structure IsSafe (client : Client) : Prop where
  reverseName : isSafe client.reverseName = true
  name : isSafe client.name = true
  derivedHostname : isSafe client.derivedHostname = true
  hardwareAddress : isSafe client.hardwareAddress = true
  architecture : ∀ v ∈ client.architecture, isSafe v = true
  distro : isSafe client.distro = true
  node : ∀ v ∈ client.node, isSafe v = true

theorem IsSafe.domain {client : Client} (h : client.IsSafe) :
    ∀ v ∈ client.domain, isSafe v = true := by
  intro v hv
  unfold Client.domain at hv
  split at hv
  · cases hv
  · split at hv
    · cases hv
    · rename_i before after _ hcut
      cases hv
      refine isSafe_of_subset h.reverseName ?_
      rw [String.toList_ofList, Split.eq_append_of_cut? hcut]
      exact fun c hc => List.mem_append_right before (List.mem_cons_of_mem _ hc)
    · cases hv

namespace Builder

/-- The collected facts are safe. Classes are no matter: no template names them. -/
structure IsSafe (b : Builder) : Prop where
  reverseName : ∀ v ∈ b.reverseName, isSafe v = true
  clientOverride : ∀ v ∈ b.clientOverride, isSafe v = true
  hardwareAddress : isSafe b.hardwareAddress = true
  architecture : ∀ v ∈ b.architecture, isSafe v = true
  distro : isSafe b.distro = true
  node : ∀ v ∈ b.node, isSafe v = true

theorem isSafe_ofAddress (ip : Net.Address) : (ofAddress ip).IsSafe where
  reverseName := fun v hv => by cases hv
  clientOverride := fun v hv => by cases hv
  hardwareAddress := isSafe_empty
  architecture := fun v hv => by cases hv
  distro := isSafe_empty
  node := fun v hv => by cases hv

theorem IsSafe.withReverseName {b : Builder} (h : b.IsSafe) (name : Option String) :
    (b.withReverseName name).IsSafe := by
  refine { h with reverseName := fun v hv => ?_ }
  have hkept := (Option.mem_filter_iff.mp hv).2
  rw [Bool.and_eq_true] at hkept
  exact hkept.2

theorem IsSafe.withHardwareAddress {b : Builder} (h : b.IsSafe) {address : Option String}
    (haddress : ∀ a ∈ address, isSafe a = true) : (b.withHardwareAddress address).IsSafe := by
  refine { h with hardwareAddress := ?_ }
  cases address with
  | none => exact isSafe_empty
  | some a => exact haddress a rfl

/-- The later of two values, where each is safe. -/
theorem isSafe_orElse {new old : Option String} (hnew : ∀ v ∈ new, Params.IsUsable v)
    (hold : ∀ v ∈ old, isSafe v = true) : ∀ v ∈ new <|> old, isSafe v = true := by
  intro v hv
  cases new with
  | none => exact hold v hv
  | some n =>
      obtain rfl : n = v := Option.some.inj hv
      exact (hnew n rfl).2

theorem IsSafe.applyParams {b : Builder} (h : b.IsSafe) {params : Params}
    (hparams : params.IsSafe) : (b.applyParams params).IsSafe where
  reverseName := h.reverseName
  clientOverride := isSafe_orElse hparams.client h.clientOverride
  hardwareAddress := h.hardwareAddress
  architecture := isSafe_orElse hparams.arch h.architecture
  distro := by
    change isSafe (params.distro.getD b.distro) = true
    cases hdistro : params.distro with
    | none => exact h.distro
    | some d => exact (hparams.distro d hdistro).2
  node := isSafe_orElse hparams.node h.node

theorem IsSafe.extendClasses {b : Builder} (h : b.IsSafe) (classes : List String) :
    (b.extendClasses classes).IsSafe :=
  { h with }

theorem IsSafe.resolvedReverseName {b : Builder} (h : b.IsSafe) :
    isSafe b.resolvedReverseName = true := by
  unfold Builder.resolvedReverseName
  cases hname : b.reverseName with
  | none => exact Net.Address.isSafe_toString b.ip
  | some name => exact h.reverseName name hname

theorem IsSafe.lookupName {b : Builder} (h : b.IsSafe) : isSafe b.lookupName = true := by
  unfold Builder.lookupName
  cases hname : b.clientOverride with
  | none => exact h.resolvedReverseName
  | some name => exact h.clientOverride name hname

theorem IsSafe.build {b : Builder} (h : b.IsSafe) : b.build.IsSafe where
  reverseName := h.resolvedReverseName
  name := h.lookupName
  derivedHostname := isSafe_deriveHostname h.resolvedReverseName
  hardwareAddress := h.hardwareAddress
  architecture := h.architecture
  distro := h.distro
  node := h.node

/-- The builder of a request: what the lookups of its address answer, and then its parameters. -/
def ofQuery (ip : Net.Address) (name hardware : Option String) (query : String) : Builder :=
  (((builder ip).withReverseName name).withHardwareAddress hardware).applyParams
    (Params.parse query)

theorem isSafe_ofQuery (ip : Net.Address) (name : Option String) {hardware : Option String}
    (hhardware : ∀ a ∈ hardware, isSafe a = true) (query : String) :
    (ofQuery ip name hardware query).IsSafe :=
  (((isSafe_ofAddress ip).withReverseName name).withHardwareAddress hhardware).applyParams
    (Params.isSafe_parse query)

end Builder

end Client

end Preseed
