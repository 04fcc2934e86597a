import Mathlib.Data.String.Basic
import Preseed.Plugin.Load
import Preseed.Proofs.Plugin.Kinds

/-! # What a registry holds

A registry keeps one registration for each kind that was registered, whatever its case: the last. Its kinds
ascend in small letters, so that none stands twice. -/

namespace Preseed.Registry

variable {σ : Type} {registrations : List (Registration σ)}

/-! ## One spelling of each kind -/

/-- Where keys ascend, none stands twice. -/
theorem filter_key_eq (h : registrations.Pairwise (·.key < ·.key)) (key : String) :
    registrations.filter (·.key == key) = (registrations.find? (·.key == key)).toList := by
  induction registrations with
  | nil => rfl
  | cons r rest ih =>
      obtain ⟨hlt, hrest⟩ := List.pairwise_cons.mp h
      by_cases hr : r.key = key
      · subst hr
        have hnone : rest.filter (·.key == r.key) = [] :=
          List.filter_eq_nil_iff.mpr fun s hs => by simpa using (hlt s hs).ne'
        simp [hnone]
      · rw [List.filter_cons_of_neg (by simpa using hr), List.find?_cons_of_neg (by simpa using hr),
          ih hrest]

theorem filter_kinds (registry : Registry σ) (kind : String) :
    registry.kinds.filter (Ascii.eqIgnoreCase · kind) =
      ((registry.find? kind).map (·.kind)).toList := by
  rw [kinds, List.filter_map, find?, Option.toList_map, ← filter_key_eq registry.ascending]
  rfl

theorem kinds_ascending (registry : Registry σ) :
    (registry.kinds.map Ascii.lower).Pairwise (· < ·) := by
  rw [kinds, List.map_map]
  exact List.pairwise_map.mpr registry.ascending

/-! ## The contract -/

/-- What a registry does that was made by these registrations. -/
structure Holds (given : List (String × Factory σ)) (registry : Registry σ) : Prop where
  contains_iff : ∀ kind,
    registry.contains kind = true ↔ ∃ g ∈ given, Ascii.eqIgnoreCase g.1 kind = true
  create_iff : ∀ kind init,
    (registry.create? kind init).isSome = true ↔ ∃ g ∈ given, Ascii.eqIgnoreCase g.1 kind = true
  /-- The factory that was last registered for the kind is called. -/
  create_eq : ∀ kind init,
    registry.create? kind init = (lastGiven? given kind).map fun g => g.2 init
  /-- Of all that spells a kind there is one, spelled as it was last. -/
  spelling : ∀ kind,
    registry.kinds.filter (Ascii.eqIgnoreCase · kind) = ((lastGiven? given kind).map (·.1)).toList
  ascending : (registry.kinds.map Ascii.lower).Pairwise (· < ·)
  /-- A further registration leaves the other kinds alone. -/
  others : ∀ kind factory other, Ascii.eqIgnoreCase kind other = false →
    (registry.register kind factory).contains other = registry.contains other ∧
      ∀ init, (registry.register kind factory).create? other init = registry.create? other init

/-- The kinds that are always there, as they are registered. -/
def builtinKinds : List (String × Factory (List Entry)) :=
  [(Directives.kind, Directives.factory []), (Netcfg.kind, Netcfg.factory []),
    (LdapDirectives.kind, LdapDirectives.factory)]

theorem lastGiven?_isSome_iff {given : List (String × Factory σ)} {kind : String} :
    (lastGiven? given kind).isSome = true ↔ ∃ g ∈ given, Ascii.eqIgnoreCase g.1 kind = true := by
  rw [lastGiven?, List.find?_isSome]
  simp only [List.mem_reverse]

theorem holds_registerAll (given : List (String × Factory σ)) :
    Holds given (empty.registerAll given) := by
  have hfind (kind : String) : (empty.registerAll given).find? kind =
      (lastGiven? given kind).map fun g => ⟨g.1, g.2⟩ := by
    rw [find?_registerAll]
    exact Option.or_none
  refine ⟨fun kind => ?_, fun kind init => ?_, fun kind init => ?_, fun kind => ?_,
    kinds_ascending _, fun kind factory other hother => ?_⟩
  · rw [contains, hfind, Option.isSome_map, lastGiven?_isSome_iff]
  · rw [create?_eq, hfind, Option.isSome_map, Option.isSome_map, lastGiven?_isSome_iff]
  · rw [create?_eq, hfind, Option.map_map]
    rfl
  · rw [filter_kinds, hfind, Option.map_map]
    rfl
  · have hsame : ((empty.registerAll given).register kind factory).find? other =
        (empty.registerAll given).find? other := by
      rw [find?_register, hother, if_neg Bool.false_ne_true]
    exact ⟨by rw [contains, contains, hsame], fun init => by rw [create?_eq, create?_eq, hsame]⟩

/-- After any registrations, in a registry that was empty or had the kinds that are always there, a kind is
known if and only if it was registered in some case; then the factory of its last registration is called. The
kinds are listed once each in the spelling of the last registration, in the order of their small letters, and a
registration leaves all kinds alone but the one that it spells. -/
theorem holds_registered :
    (∀ (σ : Type) (given : List (String × Factory σ)), Holds given (empty.registerAll given)) ∧
    ∀ given : List (String × Factory (List Entry)),
      Holds (builtinKinds ++ given) (builtin.registerAll given) := by
  refine ⟨fun σ => holds_registerAll, fun given => ?_⟩
  have hbuiltin : builtin.registerAll given = empty.registerAll (builtinKinds ++ given) := by
    rw [registerAll, registerAll, List.foldl_append]
    rfl
  rw [hbuiltin]
  exact holds_registerAll _

/-- A kind of one's own, and a kind that was there before in another spelling. -/
theorem holds_registered_of_respelled :
    let registry := builtin.registerAll [("mirror", Directives.factory []), ("NETCFG", LdapDirectives.factory)]
    registry.kinds = ["Directives", "LdapDirectives", "mirror", "NETCFG"] ∧
      (∀ init, registry.create? "netcfg" init = some (LdapDirectives.factory init)) ∧
      Ascii.eqIgnoreCase "Mirror" "netcfg" = false ∧
      ∀ factory init, (registry.register "Mirror" factory).create? "netcfg" init =
        some (LdapDirectives.factory init) := by
  intro registry
  have hholds := holds_registered.2
    [("mirror", Directives.factory []), ("NETCFG", LdapDirectives.factory)]
  have hcreate : ∀ init, registry.create? "netcfg" init = some (LdapDirectives.factory init) :=
    fun init => hholds.create_eq "netcfg" init
  have hother : Ascii.eqIgnoreCase "Mirror" "netcfg" = false := by decide
  refine ⟨by decide +kernel, hcreate, hother, fun factory init => ?_⟩
  rw [(hholds.others "Mirror" factory "netcfg" hother).2, hcreate]

end Preseed.Registry
