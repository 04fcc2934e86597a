import Preseed.Proofs.Client.Values
import Preseed.Proofs.Text.Utf8

/-! # Values that are dropped

An empty or unsafe value adds nothing to what a query asks for. A class given so is as if absent; under the
other keys such a value also takes away the one given before. -/

namespace Preseed

/-! ## Queries put together -/

namespace Form

theorem decode_append (query more : String) :
    decode (query ++ "&" ++ more) = decode query ++ decode more := by
  have hbytes : Utf8.ofString (query ++ "&" ++ more) =
      Utf8.ofString query ++ 0x26 :: Utf8.ofString more := by
    rw [Utf8.ofString_append, Utf8.ofString_append, List.append_assoc]
    rfl
  rw [decode, hbytes, decodeBytes, Split.pieces_append_cons, List.filter_append, List.map_append]
  rfl

/-- One pair is read from a key, a sign of equality and the value. -/
theorem decode_pair {key value : String} (hkey : '&' ∉ key.toList) (hequals : '=' ∉ key.toList)
    (hvalue : '&' ∉ value.toList) :
    decode (key ++ "=" ++ value) =
      [(decodeText (Utf8.ofString key), decodeText (Utf8.ofString value))] := by
  have hbytes : Utf8.ofString (key ++ "=" ++ value) =
      Utf8.ofString key ++ 0x3D :: Utf8.ofString value := by
    rw [Utf8.ofString_append, Utf8.ofString_append, List.append_assoc]
    rfl
  have hampersand : (0x26 : UInt8) ∉ Utf8.ofString key ++ 0x3D :: Utf8.ofString value := by
    rw [List.mem_append, List.mem_cons]
    rintro (h | h | h)
    · exact hkey ((Utf8.mem_encode_iff (c := '&') (by decide) _).mp h)
    · exact absurd h (by decide)
    · exact hvalue ((Utf8.mem_encode_iff (c := '&') (by decide) _).mp h)
  have hcut : Split.cut (0x3D : UInt8) (Utf8.ofString key ++ 0x3D :: Utf8.ofString value) =
      (Utf8.ofString key, Utf8.ofString value) :=
    Split.cut_append _ fun h => hequals ((Utf8.mem_encode_iff (c := '=') (by decide) _).mp h)
  rw [decode, hbytes, decodeBytes, Split.pieces_eq_splitOn, List.splitOn_eq_singleton hampersand]
  simp [decodePiece, hcut]

end Form

namespace Params

/-- The keys whose values are checked. -/
def checkedKeys : List String :=
  ["client", "class", "node", "arch", "distro", "plugin"]

theorem decode_checked {key : String} (hkey : key ∈ checkedKeys) {value : String}
    (hvalue : '&' ∉ value.toList) :
    Form.decode (key ++ "=" ++ value) = [(key, Form.decodeText (Utf8.ofString value))] := by
  have hplain : ∀ key ∈ checkedKeys, '&' ∉ key.toList ∧ '=' ∉ key.toList ∧
      Form.decodeText (Utf8.ofString key) = key := by decide +kernel
  obtain ⟨hampersand, hequals, htext⟩ := hplain key hkey
  rw [Form.decode_pair hampersand hequals hvalue, htext]

/-! ## One more value -/

theorem lastUsable_append (values more : List String) :
    lastUsable (values ++ more) = if more = [] then lastUsable values else lastUsable more := by
  cases more using List.reverseRecOn with
  | nil => simp
  | append_singleton more last =>
      rw [← List.append_assoc, lastUsable_concat, lastUsable_concat, if_neg (by simp)]

/-- Behind a dropped value the values before it do not count. -/
theorem lastUsable_dropped {value : String} (h : ¬IsUsable value) (values more : List String) :
    lastUsable (values ++ value :: more) = lastUsable more := by
  rw [lastUsable_append, if_neg (List.cons_ne_nil value more), ← List.singleton_append,
    lastUsable_append]
  split
  · rename_i hmore
    subst hmore
    exact checked_of_not_isUsable h
  · rfl

theorem lastUsable_insert_iff {value : String} (h : ¬IsUsable value) (values more : List String) :
    lastUsable (values ++ value :: more) = lastUsable (values ++ more) ↔
      more ≠ [] ∨ lastUsable values = none := by
  rw [lastUsable_dropped h, lastUsable_append]
  by_cases hmore : more = []
  · subst hmore
    simp [lastUsable, eq_comm]
  · simp [hmore]

theorem ofPairs_insert_iff {key value : String} (hkey : key ∈ checkedKeys) (h : ¬IsUsable value)
    (pairs more : List (String × String)) :
    ofPairs (pairs ++ (key, value) :: more) = ofPairs (pairs ++ more) ↔
      key = "class" ∨ key ∈ more.map Prod.fst ∨ lastUsable (valuesOf key pairs) = none := by
  rw [ofPairs_eq_ofValues, ofPairs_eq_ofValues, ← valuesOf_ne_nil_iff, ← lastUsable_insert_iff h]
  simp only [valuesOf_append, valuesOf_cons]
  simp only [checkedKeys, List.mem_cons, List.not_mem_nil, or_false] at hkey
  rcases hkey with rfl | rfl | rfl | rfl | rfl | rfl <;> simp [ofValues, checked_of_not_isUsable h]

/-- A dropped value leaves nothing of the earlier pairs of its key. -/
theorem ofPairs_insert {key value : String} (hkey : key ∈ checkedKeys) (hclass : key ≠ "class")
    (h : ¬IsUsable value) (pairs more : List (String × String)) :
    ofPairs (pairs ++ (key, value) :: more) = ofPairs (pairs.filter (·.1 != key) ++ more) := by
  have hother : ∀ other, other ≠ key →
      valuesOf other (pairs.filter (·.1 != key)) = valuesOf other pairs := by
    intro other hne
    have hfilter : ∀ pair : String × String, (pair.1 == other && pair.1 != key) =
        (pair.1 == other) := by
      intro pair
      by_cases hpair : pair.1 = other <;> simp [hpair, hne]
    simp only [valuesOf, List.filter_filter, hfilter]
  have hnone : valuesOf key (pairs.filter (·.1 != key)) = [] := by
    simp [valuesOf, List.filter_filter, List.filter_eq_nil_iff]
  rw [ofPairs_eq_ofValues, ofPairs_eq_ofValues]
  simp only [valuesOf_append, valuesOf_cons]
  simp only [checkedKeys, List.mem_cons, List.not_mem_nil, or_false] at hkey
  rcases hkey with rfl | rfl | rfl | rfl | rfl | rfl
  · simp [ofValues, lastUsable_dropped h, hnone, hother]
  · exact absurd rfl hclass
  all_goals simp [ofValues, lastUsable_dropped h, hnone, hother]

/-! ## Queries -/

/-- A value is dropped when it is empty or has an unsafe character. -/
theorem not_isUsable_decodeText {value : String}
    (h : value = "" ∨ isSafe (Form.decodeText (Utf8.ofString value)) = false) :
    ¬IsUsable (Form.decodeText (Utf8.ofString value)) := by
  rintro ⟨hempty, hsafe⟩
  rcases h with rfl | h
  · exact absurd hempty (by decide +kernel)
  · rw [h] at hsafe
    cases hsafe

theorem parse_insert {key : String} (hkey : key ∈ checkedKeys) {value : String}
    (hvalue : '&' ∉ value.toList) (before behind : String) :
    parse (before ++ "&" ++ (key ++ "=" ++ value) ++ "&" ++ behind) =
      ofPairs (Form.decode before ++
        (key, Form.decodeText (Utf8.ofString value)) :: Form.decode behind) := by
  rw [parse, Form.decode_append, Form.decode_append, decode_checked hkey hvalue,
    List.append_assoc, List.singleton_append]

/-- A dropped value of a class changes nothing. One of another key changes nothing exactly when its key
follows again, or had no usable value before; otherwise the earlier value is lost. -/
theorem parse_dropped_iff {key : String} (hkey : key ∈ checkedKeys) {value : String}
    (hvalue : '&' ∉ value.toList)
    (h : value = "" ∨ isSafe (Form.decodeText (Utf8.ofString value)) = false)
    (before behind : String) :
    (parse (before ++ "&" ++ (key ++ "=" ++ value) ++ "&" ++ behind) =
        parse (before ++ "&" ++ behind) ↔
      key = "class" ∨ key ∈ (Form.decode behind).map Prod.fst ∨
        lastUsable (valuesOf key (Form.decode before)) = none) ∧
      (key ≠ "class" →
        parse (before ++ "&" ++ (key ++ "=" ++ value) ++ "&" ++ behind) =
          ofPairs ((Form.decode before).filter (·.1 != key) ++ Form.decode behind)) := by
  have hbad := not_isUsable_decodeText h
  rw [parse_insert hkey hvalue]
  constructor
  · rw [parse, Form.decode_append]
    exact ofPairs_insert_iff hkey hbad _ _
  · intro hclass
    exact ofPairs_insert hkey hclass hbad _ _

theorem parse_dropped_iff_of_repeated :
    "client" ∈ checkedKeys ∧ '&' ∉ "%24(id)".toList ∧
      isSafe (Form.decodeText (Utf8.ofString "%24(id)")) = false ∧
      parse ("client=host1" ++ "&" ++ ("client" ++ "=" ++ "%24(id)") ++ "&" ++ "client=host2") =
        parse ("client=host1" ++ "&" ++ "client=host2") := by
  have hkey : "client" ∈ checkedKeys := by decide
  have hvalue : '&' ∉ "%24(id)".toList := by decide
  have hunsafe : isSafe (Form.decodeText (Utf8.ofString "%24(id)")) = false := by decide +kernel
  refine ⟨hkey, hvalue, hunsafe, ?_⟩
  rw [(parse_dropped_iff hkey hvalue (.inr hunsafe) "client=host1" "client=host2").1]
  decide +kernel

/-- A dropped value erases the client name that was given before. -/
theorem parse_not_as_if_absent :
    ¬∀ key ∈ checkedKeys, ∀ value before behind : String, '&' ∉ value.toList →
      value = "" ∨ isSafe (Form.decodeText (Utf8.ofString value)) = false →
      parse (before ++ "&" ++ (key ++ "=" ++ value) ++ "&" ++ behind) =
        parse (before ++ "&" ++ behind) := by
  intro h
  have hsame := h "client" (by decide) "%24(id)" "client=host1" "arch=amd64" (by decide)
    (.inr (by decide +kernel))
  revert hsame
  decide +kernel

end Params

end Preseed
