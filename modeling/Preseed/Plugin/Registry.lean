import Preseed.Plugin.Basic

/-!
# Kinds of plugins

A registry knows the kinds of plugins and how each is made. Kinds compare without regard to ASCII case;
each keeps the spelling of its last registration.
-/

namespace Preseed

/-- A registered kind. -/
structure Registration (σ : Type) where
  kind : String
  factory : Factory σ

namespace Registration

variable {σ : Type}

/-- The kind in small letters. -/
def key (r : Registration σ) : String :=
  Ascii.lower r.kind

/-- Puts a registration in its place; one of the same key gives way. -/
def insert (r : Registration σ) : List (Registration σ) → List (Registration σ)
  | [] => [r]
  | s :: rest =>
    if r.key = s.key then r :: rest
    else if r.key < s.key then r :: s :: rest
    else s :: insert r rest

theorem eq_or_mem_of_mem_insert {r s : Registration σ} {registrations : List (Registration σ)}
    (h : s ∈ insert r registrations) : s = r ∨ s ∈ registrations := by
  induction registrations with
  | nil => exact .inl (List.mem_singleton.mp h)
  | cons t rest ih =>
    rw [insert] at h
    split at h
    · exact (List.mem_cons.mp h).imp_right (List.mem_cons_of_mem t)
    split at h
    · exact List.mem_cons.mp h
    · rcases List.mem_cons.mp h with rfl | h
      · exact .inr List.mem_cons_self
      · exact (ih h).imp_right (List.mem_cons_of_mem t)

theorem pairwise_insert (r : Registration σ) {registrations : List (Registration σ)}
    (h : registrations.Pairwise (·.key < ·.key)) :
    (insert r registrations).Pairwise (·.key < ·.key) := by
  induction registrations with
  | nil => exact List.pairwise_singleton _ r
  | cons t rest ih =>
    obtain ⟨hlt, hrest⟩ := List.pairwise_cons.mp h
    rw [insert]
    split
    · rename_i hsame
      exact .cons (hsame ▸ hlt) hrest
    rename_i hne
    split
    · rename_i hless
      refine .cons ?_ h
      intro s hs
      rcases List.mem_cons.mp hs with rfl | hs
      · exact hless
      · exact String.lt_trans hless (hlt s hs)
    · rename_i hless
      refine .cons ?_ (ih hrest)
      intro s hs
      rcases eq_or_mem_of_mem_insert hs with rfl | hs
      · exact Std.lt_of_le_of_ne (String.not_lt.mp hless) (Ne.symm hne)
      · exact hlt s hs

end Registration

/-- The registered kinds. -/
structure Registry (σ : Type) where
  registrations : List (Registration σ) := []
  ascending : registrations.Pairwise (·.key < ·.key) := by exact .nil

namespace Registry

variable {σ : Type}

def empty : Registry σ := {}

def register (registry : Registry σ) (kind : String) (factory : Factory σ) : Registry σ where
  registrations := Registration.insert { kind, factory } registry.registrations
  ascending := Registration.pairwise_insert _ registry.ascending

def find? (registry : Registry σ) (kind : String) : Option (Registration σ) :=
  registry.registrations.find? fun r => r.key == Ascii.lower kind

def contains (registry : Registry σ) (kind : String) : Bool :=
  (registry.find? kind).isSome

/-- The kinds as they were last spelled, in the order of their small letters. -/
def kinds (registry : Registry σ) : List String :=
  registry.registrations.map (·.kind)

/-- The call that makes a plugin of a kind; none if the kind is not registered. -/
def call? (registry : Registry σ) (kind : String) (init : PluginInit) : Option (FactoryCall σ) :=
  (registry.find? kind).map fun r => { factory := r.factory, init }

/-- Makes a plugin of a kind; none if the kind is not registered. -/
def create? (registry : Registry σ) (kind : String) (init : PluginInit) :
    Option (Except PluginError (Plugin σ)) :=
  (registry.call? kind init).map (·.result)

theorem create?_eq (registry : Registry σ) (kind : String) (init : PluginInit) :
    registry.create? kind init = (registry.find? kind).map fun r => r.factory init := by
  rw [create?, call?, Option.map_map]
  rfl

end Registry

end Preseed
