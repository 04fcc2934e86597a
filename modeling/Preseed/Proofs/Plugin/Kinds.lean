import Preseed.Plugin.Registry

/-! # Which registration counts

A registry is told by the registrations that it was made of: of those that spell a kind, in whatever case,
the last counts. -/

namespace Preseed.Registry

variable {σ : Type}

/-- The registry after further registrations, one after another. -/
def registerAll (registry : Registry σ) (given : List (String × Factory σ)) : Registry σ :=
  given.foldl (fun registry g => registry.register g.1 g.2) registry

/-- The last registration that spells a kind, in whatever case. -/
def lastGiven? (given : List (String × Factory σ)) (kind : String) :
    Option (String × Factory σ) :=
  given.reverse.find? fun g => Ascii.eqIgnoreCase g.1 kind

theorem find?_insert (r : Registration σ) (registrations : List (Registration σ)) (key : String) :
    (Registration.insert r registrations).find? (·.key == key) =
      if r.key = key then some r else registrations.find? (·.key == key) := by
  induction registrations with
  | nil => by_cases h : r.key = key <;> simp [Registration.insert, h]
  | cons s rest ih =>
    rw [Registration.insert]
    split
    · rename_i hsame
      by_cases h : r.key = key
      · simp [h]
      · have hs : s.key ≠ key := fun heq => h (hsame.trans heq)
        simp [h, hs]
    · rename_i hother
      split
      · by_cases h : r.key = key <;> simp [h]
      · by_cases h : r.key = key
        · have hs : s.key ≠ key := fun heq => hother (h.trans heq.symm)
          rw [List.find?_cons_of_neg (by simpa using hs), ih, if_pos h, if_pos h]
        · rw [List.find?_cons, List.find?_cons, ih, if_neg h, if_neg h]

theorem find?_register (registry : Registry σ) (kind : String) (factory : Factory σ)
    (k : String) :
    (registry.register kind factory).find? k =
      if Ascii.eqIgnoreCase kind k then some ⟨kind, factory⟩
      else registry.find? k := by
  rw [find?, register, find?_insert, find?]
  simp only [Ascii.eqIgnoreCase, beq_iff_eq]
  rfl

theorem find?_registerAll (registry : Registry σ) (given : List (String × Factory σ))
    (kind : String) :
    (registry.registerAll given).find? kind =
      ((lastGiven? given kind).map fun g => ⟨g.1, g.2⟩).or
        (registry.find? kind) := by
  induction given generalizing registry with
  | nil => rfl
  | cons g given ih =>
    have hlast : lastGiven? (g :: given) kind =
        (lastGiven? given kind).or (if Ascii.eqIgnoreCase g.1 kind then some g else none) := by
      rw [lastGiven?, List.reverse_cons, List.find?_append, lastGiven?, List.find?_singleton]
    rw [registerAll, List.foldl_cons, ← registerAll, ih, find?_register, hlast]
    cases lastGiven? given kind with
    | some last => rfl
    | none => by_cases h : Ascii.eqIgnoreCase g.1 kind = true <;> simp [h]

end Preseed.Registry
