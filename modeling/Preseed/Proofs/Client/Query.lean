import Mathlib.Data.List.Induction
import Preseed.Proofs.Client.Safety

/-! # What a query gives

The parameters of a request, told by the values of each key among the decoded pairs of its query: classes
add up, and of several values of another key the last counts, whether it is usable or not. The info page is
asked for by a key alone. -/

namespace Preseed.Params

instance : DecidablePred IsUsable :=
  fun _ => inferInstanceAs (Decidable (_ ∧ _))

theorem checked_eq_filter (value : String) : checked value = (some value).filter (IsUsable ·) := by
  by_cases h : IsUsable value
  · rw [checked_of_isUsable h, Option.filter_some, if_pos (decide_eq_true h)]
  · rw [Option.filter_some, if_neg (by simpa using h), Option.eq_none_iff_forall_ne_some]
    intro v hv
    obtain ⟨rfl, husable⟩ := checked_eq_some_iff.mp hv
    exact h husable

theorem checked_of_not_isUsable {value : String} (h : ¬IsUsable value) : checked value = none := by
  rw [checked_eq_filter, Option.filter_some, if_neg (by simpa using h)]

theorem bind_checked (value : Option String) :
    value.bind checked = value.filter (IsUsable ·) := by
  cases value with
  | none => rfl
  | some v => exact checked_eq_filter v

theorem filterMap_checked (values : List String) :
    values.filterMap checked = values.filter (IsUsable ·) := by
  induction values with
  | nil => rfl
  | cons value values ih =>
      by_cases h : IsUsable value
      · rw [List.filterMap_cons_some (checked_of_isUsable h),
          List.filter_cons_of_pos (by simpa using h), ih]
      · rw [List.filterMap_cons_none (checked_of_not_isUsable h),
          List.filter_cons_of_neg (by simpa using h), ih]

/-! ## Values of keys -/

/-- The values of a key among pairs, in order. -/
def valuesOf (key : String) (pairs : List (String × String)) : List String :=
  (pairs.filter (·.1 == key)).map Prod.snd

theorem valuesOf_cons (key : String) (pair : String × String) (pairs : List (String × String)) :
    valuesOf key (pair :: pairs) =
      (if pair.1 = key then [pair.2] else []) ++ valuesOf key pairs := by
  unfold valuesOf
  by_cases h : pair.1 = key <;> simp [h]

theorem valuesOf_append (key : String) (pairs more : List (String × String)) :
    valuesOf key (pairs ++ more) = valuesOf key pairs ++ valuesOf key more := by
  simp [valuesOf]

theorem valuesOf_ne_nil_iff {key : String} {pairs : List (String × String)} :
    valuesOf key pairs ≠ [] ↔ key ∈ pairs.map Prod.fst := by
  simp [valuesOf, List.filter_eq_nil_iff]

/-- The last value, if it is usable. -/
def lastUsable (values : List String) : Option String :=
  values.getLast?.bind checked

@[simp] theorem lastUsable_concat (values : List String) (value : String) :
    lastUsable (values ++ [value]) = checked value := by
  simp [lastUsable]

/-- The parameters whose keys have the given values. -/
def ofValues (values : String → List String) : Params where
  client := lastUsable (values "client")
  classes := (values "class").filterMap checked
  node := lastUsable (values "node")
  arch := lastUsable (values "arch")
  distro := lastUsable (values "distro")
  plugin := lastUsable (values "plugin")
  script := (values "script").getLast?.map stripped
  info := !(values "info").isEmpty
  version := (values "v").getLast?.map stripped

/-- A pair adds its value to those of its key. -/
theorem apply_ofValues (values : String → List String) (pair : String × String) :
    (ofValues values).apply pair = ofValues fun key => values key ++ valuesOf key [pair] := by
  obtain ⟨key, value⟩ := pair
  have hchecked : (checked value).toList = [value].filterMap checked := by
    cases h : checked value <;> simp [h]
  unfold apply
  dsimp only
  split <;> simp_all [ofValues, valuesOf]

theorem ofPairs_eq_ofValues (pairs : List (String × String)) :
    ofPairs pairs = ofValues (valuesOf · pairs) := by
  induction pairs using List.reverseRecOn with
  | nil => rfl
  | append_singleton pairs pair ih =>
      have hstep : ofPairs (pairs ++ [pair]) = (ofPairs pairs).apply pair := by
        rw [ofPairs, List.foldl_append]
        rfl
      rw [hstep, ih, apply_ofValues]
      simp only [valuesOf_append]

/-! ## Classes, node and info page -/

/-- The classes that a query gives. -/
def givenClasses (query : String) : List String :=
  (valuesOf "class" (Form.decode query)).filter (IsUsable ·)

/-- The node that a query gives. -/
def givenNode (query : String) : Option String :=
  (valuesOf "node" (Form.decode query)).getLast?.filter (IsUsable ·)

theorem classes_parse (query : String) : (parse query).classes = givenClasses query := by
  rw [parse, ofPairs_eq_ofValues]
  exact filterMap_checked _

theorem node_parse (query : String) : (parse query).node = givenNode query := by
  rw [parse, ofPairs_eq_ofValues]
  exact bind_checked _

theorem info_parse (query : String) :
    (parse query).info = true ↔ "info" ∈ (Form.decode query).map Prod.fst := by
  rw [parse, ofPairs_eq_ofValues, ← valuesOf_ne_nil_iff]
  simp [ofValues]

end Preseed.Params
