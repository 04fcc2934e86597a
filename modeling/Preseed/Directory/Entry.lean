import Preseed.Directory.Filter

/-!
# Directory entries

An entry has a distinguished name and attributes with values. Attributes are kept in the ascending order of
their names; names compare without regard to ASCII case.
-/

namespace Preseed

namespace Entry

/-- Adds a value to the attribute of exactly this name. -/
def addValue (name value : String) : List (String × List String) → List (String × List String)
  | [] => [(name, [value])]
  | (n, values) :: rest =>
    if name = n then (n, values ++ [value]) :: rest
    else if name < n then (name, [value]) :: (n, values) :: rest
    else (n, values) :: addValue name value rest

theorem mem_addValue_of_ne {name value : String} {a : String × List String} (h : a.1 ≠ name)
    (as : List (String × List String)) : a ∈ addValue name value as ↔ a ∈ as := by
  have hne (values : List String) : a ≠ (name, values) := fun e => h (congrArg Prod.fst e)
  induction as with
  | nil => simp [addValue, hne]
  | cons b rest ih =>
    obtain ⟨n, values⟩ := b
    rw [addValue]
    split
    · rename_i hname
      subst hname
      simp [hne]
    · split
      · simp [hne]
      · simp [ih]

theorem fst_eq_or_mem_of_mem_addValue {name value : String} {a : String × List String}
    {as : List (String × List String)} (h : a ∈ addValue name value as) : a.1 = name ∨ a ∈ as := by
  by_cases ha : a.1 = name
  · exact .inl ha
  · exact .inr ((mem_addValue_of_ne ha as).mp h)

theorem pairwise_addValue (name value : String) {as : List (String × List String)}
    (h : as.Pairwise (·.1 < ·.1)) : (addValue name value as).Pairwise (·.1 < ·.1) := by
  induction as with
  | nil => simp [addValue]
  | cons b rest ih =>
    obtain ⟨n, values⟩ := b
    obtain ⟨hlt, hrest⟩ := List.pairwise_cons.mp h
    rw [addValue]
    split
    · exact .cons hlt hrest
    · rename_i hne
      split
      · rename_i hless
        refine .cons ?_ h
        intro a ha
        rcases List.mem_cons.mp ha with rfl | ha
        · exact hless
        · exact String.lt_trans hless (hlt a ha)
      · rename_i hless
        refine .cons ?_ (ih hrest)
        intro a ha
        rcases fst_eq_or_mem_of_mem_addValue ha with hname | ha
        · rw [hname]
          exact Std.lt_of_le_of_ne (String.not_lt.mp hless) (Ne.symm hne)
        · exact hlt a ha

end Entry

structure Entry where
  dn : String
  /-- Names with their values. -/
  attributes : List (String × List String) := []
  ascending : attributes.Pairwise (·.1 < ·.1) := by first | exact .nil | decide
  deriving DecidableEq, Repr

namespace Entry

/-- An entry without attributes. -/
def empty (dn : String) : Entry := { dn }

instance : Inhabited Entry := ⟨empty ""⟩

/-- The entry with one more value. -/
def add (e : Entry) (name value : String) : Entry where
  dn := e.dn
  attributes := addValue name value e.attributes
  ascending := pairwise_addValue name value e.ascending

/-- The values of the first attribute that has the name in some spelling. -/
def values (e : Entry) (name : String) : List String :=
  match e.attributes.find? fun a => Ascii.eqIgnoreCase a.1 name with
  | some (_, values) => values
  | none => []

def first (e : Entry) (name : String) : Option String :=
  (e.values name).head?

end Entry

namespace Filter

mutual

/-- Whether an entry meets the filter; values compare without regard to ASCII case. -/
def accepts (e : Entry) : Filter → Bool
  | equals name value => (e.values name).any fun v => Ascii.eqIgnoreCase v value
  | present name => !(e.values name).isEmpty
  | all filters => acceptsAll e filters
  | any filters => acceptsAny e filters

def acceptsAll (e : Entry) : List Filter → Bool
  | [] => true
  | f :: fs => f.accepts e && acceptsAll e fs

def acceptsAny (e : Entry) : List Filter → Bool
  | [] => false
  | f :: fs => f.accepts e || acceptsAny e fs

end

end Filter

end Preseed
