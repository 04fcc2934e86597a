import Preseed.Client.Link
import Preseed.Proofs.Net.Form

/-! # The text of script links

The URL of a script is printable when the endpoint's URL is, whatever is known of the client, and so is
the shell line around it. -/

namespace Preseed

/-- A character of ASCII that is no control character. -/
def isPrintableChar (c : Char) : Bool :=
  0x20 ≤ c.toNat && c.toNat < 0x7F

def isPrintable (s : String) : Bool :=
  s.toList.all isPrintableChar

theorem isPrintable_iff (s : String) :
    isPrintable s = true ↔ ∀ c ∈ s.toList, isPrintableChar c = true :=
  List.all_eq_true

theorem isPrintable_append (s t : String) :
    isPrintable (s ++ t) = (isPrintable s && isPrintable t) := by
  rw [isPrintable, String.toList_append, List.all_append, isPrintable, isPrintable]

namespace Url

theorem trimPath_subset (path : UrlPath) :
    (trimPath path).toString.toList ⊆ path.toString.toList := by
  cases path with
  | segments names => exact List.Subset.refl _
  | opaqueText text =>
      intro c hc
      simp only [trimPath, UrlPath.toString, String.toList_ofList, List.mem_reverse] at hc ⊢
      exact List.mem_reverse.mp ((List.dropWhile_sublist _).subset hc)

/-- Neither query nor fragment nor the blanks that end a path matter between scheme and path. -/
theorem authority_withoutQuery_withPairs (u : Url) (pairs : List (String × String)) :
    (u.withoutQuery.withPairs pairs).authority = u.authority := by
  cases hpath : u.path with
  | segments names => simp [authority, withoutQuery, withPairs, credentials, trimPath, hpath]
  | opaqueText text => simp [authority, withoutQuery, withPairs, credentials, trimPath, hpath]

theorem mem_toString_withPairs {u : Url} {pairs : List (String × String)} {c : Char}
    (hc : c ∈ (u.withoutQuery.withPairs pairs).toString.toList) :
    c ∈ u.toString.toList ∨ c = '?' ∨ c ∈ Form.encode pairs := by
  rw [Url.toString, authority_withoutQuery_withPairs] at hc
  rw [Url.toString]
  simp only [withPairs, withoutQuery, String.toList_append, String.toList_ofList,
    List.mem_append] at hc ⊢
  rcases hc with ((((hc | hc) | hc) | hc) | hc | hc) | hc
  · exact .inl (.inl (.inl (.inl (.inl (.inl hc)))))
  · exact .inl (.inl (.inl (.inl (.inl (.inr hc)))))
  · exact .inl (.inl (.inl (.inl (.inr hc))))
  · exact .inl (.inl (.inl (.inr (trimPath_subset u.path hc))))
  · exact .inr (.inl (List.mem_singleton.mp hc))
  · exact .inr (.inr hc)
  · exact absurd hc (by simp)

theorem isPrintable_withPairs {u : Url} (h : isPrintable u.toString = true)
    (pairs : List (String × String)) :
    isPrintable (u.withoutQuery.withPairs pairs).toString = true := by
  rw [isPrintable_iff]
  intro c hc
  rcases mem_toString_withPairs hc with hc | rfl | hc
  · exact (isPrintable_iff _).mp h c hc
  · decide
  · obtain ⟨hlow, hhigh⟩ := Form.encode_printable pairs c hc
    simp only [isPrintableChar, Bool.and_eq_true, decide_eq_true_eq]
    exact ⟨Nat.le_of_lt hlow, hhigh⟩

end Url

namespace Shell

theorem isPrintable_quote {s : String} (h : isPrintable s = true) :
    isPrintable (quote s) = true := by
  rw [isPrintable_iff] at h ⊢
  intro c hc
  rw [quote, String.toList_ofList, quoteChars] at hc
  split at hc
  · exact h c hc
  · rw [List.mem_cons, List.mem_append, List.mem_singleton] at hc
    rcases hc with rfl | hc | rfl
    · decide
    · obtain ⟨d, hd, hc⟩ := List.mem_flatMap.mp hc
      unfold escapeQuote at hc
      split at hc
      · have hescape : ['\'', '\\', '\'', '\''].all isPrintableChar = true := by decide
        exact List.all_eq_true.mp hescape c hc
      · obtain rfl := List.mem_singleton.mp hc
        exact h c hd
    · decide

end Shell

namespace ScriptLink

theorem isPrintable_fileName (phase : Phase) : isPrintable (fileName phase) = true := by
  cases phase <;> decide

theorem isPrintable_lineStart (phase : Phase) : isPrintable (lineStart phase) = true := by
  have hfile := isPrintable_fileName phase
  unfold lineStart
  simp only [isPrintable_append, hfile]
  decide

theorem isPrintable_lineEnd (phase : Phase) : isPrintable (lineEnd phase) = true := by
  have hfile := isPrintable_fileName phase
  unfold lineEnd
  simp only [isPrintable_append, hfile]
  decide

/-- The shell line of a link is printable. -/
theorem isPrintable_commandLine {base : Url} (h : isPrintable base.toString = true) (phase : Phase)
    (client : Client) (plugin : Option String) :
    isPrintable ((ofUrl base).commandLine phase client plugin) = true := by
  have hurl : isPrintable ((ofUrl base).url phase client plugin).toString = true :=
    Url.isPrintable_withPairs h _
  rw [commandLine, isPrintable_append, isPrintable_append, isPrintable_lineStart,
    isPrintable_lineEnd, Shell.isPrintable_quote hurl]
  rfl

end ScriptLink

end Preseed
