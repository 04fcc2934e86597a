import Preseed.Proofs.Client.Query
import Preseed.Proofs.Text.Split

/-! # Parameters by the values of their keys

What a query asks for is told by the values that it gives for each known key, in their order. Where these
values stand among the pieces of the query does not count, and neither do pieces of other keys. -/

namespace Preseed

/-! ## Pieces of a query -/

namespace Form

def keyOf (piece : Bytes) : String :=
  (decodePiece piece).1

/-- The query of some pieces. -/
def join (ps : List Bytes) : Bytes :=
  [0x26].intercalate ps

/-- The same pieces, where those of one key keep their order. -/
def Reordered (ps qs : List Bytes) : Prop :=
  ps.Perm qs ∧ ∀ key, ps.filter (keyOf · == key) = qs.filter (keyOf · == key)

/-- What is left of the pieces `qs` when some that have none of the keys are deleted. -/
def Trimmed (keys : List String) (ps qs : List Bytes) : Prop :=
  ps.Sublist qs ∧ ps.filter (keyOf · ∈ keys) = qs.filter (keyOf · ∈ keys)

theorem reordered_iff {ps qs : List Bytes} :
    Reordered ps qs ↔
      ps.Perm qs ∧ ∀ q ∈ qs, ps.filter (keyOf · == keyOf q) = qs.filter (keyOf · == keyOf q) := by
  refine ⟨fun h => ⟨h.1, fun q _ => h.2 (keyOf q)⟩, fun h => ⟨h.1, fun key => ?_⟩⟩
  by_cases hkey : ∃ q ∈ qs, keyOf q = key
  · obtain ⟨q, hq, rfl⟩ := hkey
    exact h.2 q hq
  · have hnone : ∀ q ∈ qs, ¬(keyOf q == key) = true := fun q hq hkeyOf =>
      hkey ⟨q, hq, eq_of_beq hkeyOf⟩
    rw [List.filter_eq_nil_iff.mpr hnone,
      List.filter_eq_nil_iff.mpr fun p hp => hnone p (h.1.mem_iff.mp hp)]

instance (ps qs : List Bytes) : Decidable (Reordered ps qs) :=
  decidable_of_iff _ reordered_iff.symm

instance (keys : List String) (ps qs : List Bytes) : Decidable (Trimmed keys ps qs) :=
  inferInstanceAs (Decidable (_ ∧ _))

theorem Trimmed.filter_eq {keys : List String} {ps qs : List Bytes} (h : Trimmed keys ps qs)
    {key : String} (hkey : key ∈ keys) :
    ps.filter (keyOf · == key) = qs.filter (keyOf · == key) := by
  have hknown : ∀ p : Bytes, (keyOf p == key && decide (keyOf p ∈ keys)) = (keyOf p == key) := by
    intro p
    by_cases hp : keyOf p = key <;> simp [hp, hkey]
  have hfilter := congrArg (List.filter (keyOf · == key)) h.2
  simpa only [List.filter_filter, hknown] using hfilter

theorem decodeBytes_join {ps : List Bytes} (h : ∀ p ∈ ps, 0x26 ∉ p) :
    decodeBytes (join ps) = (ps.filter (!·.isEmpty)).map decodePiece := by
  by_cases hps : ps = []
  · subst hps
    rfl
  · rw [decodeBytes, join, Split.pieces_intercalate hps h]

end Form

namespace Params

/-- The keys that mean something. -/
def keys : List String :=
  ["client", "class", "node", "arch", "distro", "plugin", "script", "info", "v"]

theorem ofValues_congr {values values' : String → List String}
    (h : ∀ key ∈ keys, values key = values' key) : ofValues values = ofValues values' := by
  simp only [keys, List.forall_mem_cons] at h
  simp [ofValues, h]

/-! ## Bytes -/

/-- The parameters of the bytes of a query. -/
def ofBytes (bytes : Bytes) : Params :=
  ofPairs (Form.decodeBytes bytes)

theorem ofBytes_eq_of_valuesOf {bytes bytes' : Bytes}
    (h : ∀ key ∈ keys,
      valuesOf key (Form.decodeBytes bytes') = valuesOf key (Form.decodeBytes bytes)) :
    ofBytes bytes' = ofBytes bytes := by
  rw [ofBytes, ofBytes, ofPairs_eq_ofValues, ofPairs_eq_ofValues]
  exact ofValues_congr h

/-- The values of a key stand in the pieces of that key. -/
theorem valuesOf_pieces (key : String) (ps : List Bytes) :
    valuesOf key ((ps.filter (!·.isEmpty)).map Form.decodePiece) =
      ((ps.filter (Form.keyOf · == key)).filter (!·.isEmpty)).map (Form.decodePiece · |>.2) := by
  rw [valuesOf, List.filter_map, List.map_map, List.filter_filter, List.filter_filter]
  simp only [Function.comp_def, Form.keyOf, Bool.and_comm]

/-- Only the pieces of known keys count, and of these only their order under each key. -/
theorem ofBytes_join {ps : List Bytes} {bytes : Bytes} (hsub : ps ⊆ Split.pieces 0x26 bytes)
    (h : ∀ key ∈ keys, ps.filter (Form.keyOf · == key) =
      (Split.pieces 0x26 bytes).filter (Form.keyOf · == key)) :
    ofBytes (Form.join ps) = ofBytes bytes := by
  have hpieces : ∀ p ∈ ps, (0x26 : UInt8) ∉ p := fun p hp => Split.not_mem_of_mem_pieces (hsub hp)
  refine ofBytes_eq_of_valuesOf fun key hkey => ?_
  rw [Form.decodeBytes_join hpieces, valuesOf_pieces, h key hkey, ← valuesOf_pieces]
  rfl

theorem ofBytes_of_reordered {ps : List Bytes} {bytes : Bytes}
    (h : Form.Reordered ps (Split.pieces 0x26 bytes)) : ofBytes (Form.join ps) = ofBytes bytes :=
  ofBytes_join h.1.subset fun key _ => h.2 key

theorem ofBytes_of_trimmed {ps : List Bytes} {bytes : Bytes}
    (h : Form.Trimmed keys ps (Split.pieces 0x26 bytes)) :
    ofBytes (Form.join ps) = ofBytes bytes :=
  ofBytes_join h.1.subset fun _ hkey => h.filter_eq hkey

/-- The bytes of a query ask for safe values only. Two queries ask for the same if they give the same
values in the same order for every known key. So the order of the pieces of different keys does not
count, and pieces of other keys may be deleted. -/
theorem parse_by_values :
    (∀ query, parse query = ofBytes (Utf8.ofString query)) ∧
      ∀ bytes : Bytes,
        (ofBytes bytes).IsSafe ∧
        ofBytes bytes = ofValues (valuesOf · (Form.decodeBytes bytes)) ∧
        (∀ bytes', (∀ key ∈ keys,
            valuesOf key (Form.decodeBytes bytes') = valuesOf key (Form.decodeBytes bytes)) →
          ofBytes bytes' = ofBytes bytes ∧ (ofBytes bytes').mode = (ofBytes bytes).mode) ∧
        ∀ ps, Form.Reordered ps (Split.pieces 0x26 bytes) ∨
            Form.Trimmed keys ps (Split.pieces 0x26 bytes) →
          ofBytes (Form.join ps) = ofBytes bytes ∧
            (ofBytes (Form.join ps)).mode = (ofBytes bytes).mode := by
  refine ⟨fun query => rfl, fun bytes => ⟨isSafe_foldl isSafe_default _, ofPairs_eq_ofValues _,
    fun bytes' h => ?_, fun ps h => ?_⟩⟩
  · have hsame := ofBytes_eq_of_valuesOf h
    exact ⟨hsame, congrArg mode hsame⟩
  · have hsame : ofBytes (Form.join ps) = ofBytes bytes := by
      rcases h with h | h
      · exact ofBytes_of_reordered h
      · exact ofBytes_of_trimmed h
    exact ⟨hsame, congrArg mode hsame⟩

/-- The second client name is unsafe, and the key `x` means nothing. -/
theorem parse_by_values_of_hostile :
    let bytes := Utf8.ofString "client=a&x=%0A&class=b&&script=late%0A&client=%24"
    let reordered := Split.pieces 0x26
      (Utf8.ofString "class=b&script=late%0A&client=a&&client=%24&x=%0A")
    let trimmed := Split.pieces 0x26 (Utf8.ofString "client=a&class=b&script=late%0A&client=%24")
    Form.Reordered reordered (Split.pieces 0x26 bytes) ∧
      Form.Trimmed keys trimmed (Split.pieces 0x26 bytes) ∧
      (∀ key ∈ keys, valuesOf key (Form.decodeBytes (Form.join trimmed)) =
        valuesOf key (Form.decodeBytes bytes)) ∧
      ofBytes (Form.join reordered) = ofBytes bytes ∧
      ofBytes (Form.join trimmed) = ofBytes bytes ∧
      ofBytes bytes = { classes := ["b"], script := some "late" } := by
  intro bytes reordered trimmed
  have hreordered : Form.Reordered reordered (Split.pieces 0x26 bytes) := by decide +kernel
  have htrimmed : Form.Trimmed keys trimmed (Split.pieces 0x26 bytes) := by decide +kernel
  have hvalues : ∀ key ∈ keys, valuesOf key (Form.decodeBytes (Form.join trimmed)) =
      valuesOf key (Form.decodeBytes bytes) := by decide +kernel
  obtain ⟨-, -, hsame, hpieces⟩ := parse_by_values.2 bytes
  exact ⟨hreordered, htrimmed, hvalues, (hpieces reordered (.inl hreordered)).1,
    (hsame (Form.join trimmed) hvalues).1, by decide +kernel⟩

end Params

end Preseed
