import Preseed.Settings.Layer

/-! # Settings laid over one another

Every entry of a layer is laid over one entry of the whole, that of its name in small letters or the one
that its path begins at. An entry that no other one of its layer is laid over stands as it is given, but for
the tables in it. -/

namespace Preseed.RawSetting

/-! ## Entries -/

theorem lookup_cons_eq_ite {α : Type} (key name : String) (v : α) (rest : List (String × α)) :
    ((key, v) :: rest).lookup name = if name = key then some v else rest.lookup name := by
  by_cases h : name = key
  · rw [h, List.lookup_cons_self, if_pos rfl]
  · rw [List.lookup_cons, beq_eq_false_iff_ne.mpr h, if_neg h]

theorem lookup_putEntry (key name : String) (v : RawSetting) (entries : List (String × RawSetting)) :
    (putEntry key v entries).lookup name = if name = key then some v else entries.lookup name := by
  induction entries with
  | nil => exact lookup_cons_eq_ite key name v []
  | cons e entries ih =>
      obtain ⟨k, old⟩ := e
      by_cases hk : k = key
      · rw [putEntry, if_pos hk, lookup_cons_eq_ite, lookup_cons_eq_ite, hk]
        split <;> rfl
      · rw [putEntry, if_neg hk, lookup_cons_eq_ite, ih, lookup_cons_eq_ite]
        by_cases h : name = k
        · rw [if_pos h, if_neg (h ▸ hk), if_pos h]
        · rw [if_neg h, if_neg h]

theorem get?_put (whole : RawSetting) (key name : String) (v : RawSetting) :
    (whole.put key v).get? name = if name = key then some v else whole.get? name := by
  cases whole with
  | table entries => exact lookup_putEntry key name v entries
  | _ => exact lookup_putEntry key name v []

theorem exists_put (whole : RawSetting) (key : String) (v : RawSetting) :
    ∃ entries, whole.put key v = table entries := by
  cases whole with
  | _ => exact ⟨_, rfl⟩

/-! ## One setting over another -/

/-- A setting over what stands there: the entries of a table are laid over it. -/
def laid (v : RawSetting) (below : Option RawSetting) : RawSetting :=
  match v with
  | table entries => overlayAll entries (below.getD (table []))
  | v => v

theorem overlay_eq_put (name : String) (v below : RawSetting) :
    overlay name v below = below.put (lowerName name) (v.laid (below.get? (lowerName name))) := by
  cases v <;> simp [overlay, laid]

theorem overlayAll_eq_foldl (entries : List (String × RawSetting)) (below : RawSetting) :
    overlayAll entries below = entries.foldl (fun whole e => overlay e.1 e.2 whole) below := by
  induction entries generalizing below with
  | nil => rw [overlayAll, List.foldl_nil]
  | cons e entries ih => rw [overlayAll, ih, List.foldl_cons]

/-- The entry of the whole that an entry of a layer is laid over, where its name may be a path. -/
def topName (key : String) : String :=
  match path key with
  | [] => key
  | [name] => lowerName name
  | name :: _ => name

theorem get?_overlayAt_of_ne {key name : String} (h : topName key ≠ name) (v below : RawSetting) :
    (overlayAt (path key) v below).get? name = below.get? name := by
  unfold topName at h
  split at h
  · rename_i hpath
    rw [hpath, overlayAt]
  · rename_i hpath
    rw [hpath, overlayAt, overlay_eq_put, get?_put, if_neg (Ne.symm h)]
  · rename_i hlong hpath
    rw [hpath, overlayAt.eq_3 _ _ _ _ hlong, get?_put, if_neg (Ne.symm h)]

theorem exists_overlayAt (names : List String) (v : RawSetting) (entries : List (String × RawSetting)) :
    ∃ entries', overlayAt names v (table entries) = table entries' := by
  match names with
  | [] => exact ⟨entries, rfl⟩
  | [name] =>
      rw [overlayAt, overlay_eq_put]
      exact exists_put _ _ _
  | name :: other :: names => exact exists_put _ _ _

theorem exists_foldl {lay : RawSetting → String × RawSetting → RawSetting}
    (hlay : ∀ entries e, ∃ entries', lay (table entries) e = table entries')
    (layer entries : List (String × RawSetting)) :
    ∃ entries', layer.foldl lay (table entries) = table entries' := by
  induction layer generalizing entries with
  | nil => exact ⟨entries, rfl⟩
  | cons e layer ih =>
      obtain ⟨entries', h⟩ := hlay entries e
      rw [List.foldl_cons, h]
      exact ih entries'

/-! ## Entries one after another -/

section Fold

variable {lay : RawSetting → String × RawSetting → RawSetting} (entryOf : String → String) {name : String}

theorem get?_foldl_of_ne
    (hother : ∀ whole e, entryOf e.1 ≠ name → (lay whole e).get? name = whole.get? name)
    {entries : List (String × RawSetting)} (h : ∀ e ∈ entries, entryOf e.1 ≠ name) (whole : RawSetting) :
    (entries.foldl lay whole).get? name = whole.get? name := by
  induction entries generalizing whole with
  | nil => rfl
  | cons e entries ih =>
      obtain ⟨he, h⟩ := List.forall_mem_cons.mp h
      rw [List.foldl_cons, ih h, hother whole e he]

/-- Where entries change only the entry of the whole that they are laid over, the one with a name stands
there alone if no other one is laid over it. -/
theorem get?_foldl (hother : ∀ whole e, entryOf e.1 ≠ name → (lay whole e).get? name = whole.get? name)
    (hself : ∀ whole v, (lay whole (name, v)).get? name = some (v.laid (whole.get? name)))
    {entries : List (String × RawSetting)} (hfold : ∀ e ∈ entries, entryOf e.1 = name → e.1 = name)
    (honce : entries.Pairwise fun e e' => e.1 = name → e'.1 ≠ name) {whole : RawSetting}
    (hnone : whole.get? name = none) :
    (entries.foldl lay whole).get? name = (entries.lookup name).map (laid · none) := by
  induction entries generalizing whole with
  | nil => exact hnone
  | cons e entries ih =>
      obtain ⟨key, v⟩ := e
      obtain ⟨hkey, hfold⟩ := List.forall_mem_cons.mp hfold
      obtain ⟨hfirst, honce⟩ := List.pairwise_cons.mp honce
      rw [List.foldl_cons, lookup_cons_eq_ite]
      by_cases heq : key = name
      · -- Once it stands there, no other entry is laid over it.
        subst heq
        have hrest : ∀ e ∈ entries, entryOf e.1 ≠ key := fun e he hentry =>
          hfirst e he rfl (hfold e he hentry)
        rw [get?_foldl_of_ne entryOf hother hrest, hself, hnone, if_pos rfl, Option.map_some]
      · have hentry : entryOf key ≠ name := fun h => heq (hkey h)
        rw [if_neg (Ne.symm heq)]
        exact ih hfold honce ((hother whole (key, v) hentry).trans hnone)

end Fold

/-- Below another entry a table stands by its names in small letters. -/
theorem get?_laid_table {entries : List (String × RawSetting)} {name : String}
    (hname : lowerName name = name) (hfold : ∀ e ∈ entries, lowerName e.1 = name → e.1 = name)
    (honce : entries.Pairwise fun e e' => e.1 = name → e'.1 ≠ name) :
    ((table entries).laid none).get? name = (entries.lookup name).map (laid · none) := by
  rw [laid, overlayAll_eq_foldl]
  refine get?_foldl lowerName (fun whole e h => ?_) (fun whole v => ?_) hfold honce rfl
  · rw [overlay_eq_put, get?_put, if_neg (Ne.symm h)]
  · rw [overlay_eq_put, get?_put, hname, if_pos rfl]

theorem exists_laid_table (entries : List (String × RawSetting)) :
    ∃ entries', (table entries).laid none = table entries' := by
  rw [laid, overlayAll_eq_foldl]
  exact exists_foldl (fun _ e => overlay_eq_put e.1 e.2 _ ▸ exists_put _ _ _) entries []

end Preseed.RawSetting

namespace Preseed.Layer

open RawSetting

theorem merge_singleton (layer : Layer) :
    merge [layer] = layer.foldl (fun whole e => overlayAt (path e.1) e.2 whole) (table []) := by
  rw [merge, List.flatten_singleton]

/-- A layer alone stands by the names that its entries are laid over. -/
theorem get?_merge_singleton {layer : Layer} {name : String} (hpath : path name = [name])
    (hname : lowerName name = name) (hfold : ∀ e ∈ layer, topName e.1 = name → e.1 = name)
    (honce : layer.Pairwise fun e e' => e.1 = name → e'.1 ≠ name) :
    (merge [layer]).get? name = (layer.lookup name).map (laid · none) := by
  rw [merge_singleton]
  refine get?_foldl topName (fun whole e h => get?_overlayAt_of_ne h e.2 whole)
    (fun whole v => ?_) hfold honce rfl
  rw [hpath, overlayAt, overlay_eq_put, get?_put, hname, if_pos rfl]

theorem exists_merge_singleton (layer : Layer) : ∃ entries, merge [layer] = table entries := by
  rw [merge_singleton]
  exact exists_foldl (fun entries e => exists_overlayAt (path e.1) e.2 entries) layer []

end Preseed.Layer
