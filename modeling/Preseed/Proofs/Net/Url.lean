import Preseed.Net.Url.Parser
import Preseed.Proofs.Text.Split
import Preseed.Proofs.Text.Utf8

/-! # URLs of the web as they are read

What the parts of a text behind `http:` make of the URL that the text is read as: where the user, the host and
the path end, and what dots leave of the path. -/

namespace Preseed.Url

/-! ## Parts -/

theorem encoded_eq_empty_iff {set : Char → Bool} {cs : List Char} : encoded set cs = "" ↔ cs = [] := by
  have hchar : ∀ c, Percent.encodeChar set c ≠ [] := by
    intro c
    unfold Percent.encodeChar
    split
    · exact List.cons_ne_nil _ _
    · have hlength := Utf8.length_encode_le [c]
      rw [Utf8.encode_cons, Utf8.encode_nil, List.append_nil, List.length_singleton] at hlength
      obtain ⟨b, bytes, heq⟩ := List.exists_cons_of_length_pos hlength
      rw [heq]
      exact List.cons_ne_nil _ _
  rw [encoded, String.ofList_eq_empty_iff, Percent.encode]
  cases cs with
  | nil => simp
  | cons c cs => simp [hchar c]

theorem cut_of_notMem {sep : Char} {cs : List Char} (h : sep ∉ cs) : cut sep cs = (cs, none) := by
  rw [cut, Split.cut?_eq_none h]

theorem cut_append {sep : Char} {before : List Char} (h : sep ∉ before) (after : List Char) :
    cut sep (before ++ sep :: after) = (before, some after) := by
  rw [cut, Split.cut?_append after h]

theorem cut_snd_eq_none_iff {sep : Char} {cs : List Char} : (cut sep cs).2 = none ↔ sep ∉ cs := by
  refine ⟨fun h hmem => ?_, fun h => by rw [cut_of_notMem h]⟩
  obtain ⟨before, after, rfl, hbefore⟩ := List.eq_append_cons_of_mem hmem
  rw [cut_append hbefore] at h
  cases h

/-! ## Paths -/

/-- The names that are left, the last first, when one goes along segments. -/
def along (above : List String) : List String → List String
  | [] => above
  | segment :: rest =>
    if isDoubleDot segment then along above.tail rest
    else if isDot segment then along above rest
    else along (segment :: above) rest

theorem resolve_cons (above : List String) (segment : String) (rest : List String) :
    resolve false above (segment :: rest) =
      if isDoubleDot segment then
        resolve false (if rest.isEmpty then "" :: above.tail else above.tail) rest
      else if isDot segment then resolve false (if rest.isEmpty then "" :: above else above) rest
      else resolve false (segment :: above) rest := by
  rw [resolve.eq_def]
  dsimp only
  split
  · cases above with
    | nil => rfl
    | cons name above => cases above <;> rfl
  · split
    · rfl
    · split <;> rfl

/-- Before a name that is no dot, what is left of the way is what `along` keeps of it. -/
theorem resolve_concat (above segments : List String) {last : String} (hdot : isDot last = false)
    (hdouble : isDoubleDot last = false) :
    resolve false above (segments ++ [last]) = (along above segments).reverse ++ [last] := by
  induction segments generalizing above with
  | nil =>
      rw [List.nil_append, resolve_cons, hdot, hdouble]
      simp [resolve, along]
  | cons segment rest ih =>
      -- a dot leaves an empty segment only at the end, and here the last name is behind it
      have hrest : (rest ++ [last]).isEmpty = false := by simp
      rw [List.cons_append, resolve_cons, hrest, along]
      simp only [Bool.false_eq_true, if_false, ih]
      split
      · rfl
      · split <;> rfl

theorem pieces_ne_nil (special : Bool) (cs : List Char) : pieces special cs ≠ [] := by
  induction cs with
  | nil => exact List.cons_ne_nil _ _
  | cons c cs ih =>
      obtain ⟨piece, more, heq⟩ := List.exists_cons_of_ne_nil ih
      rw [pieces, heq]
      split <;> exact List.cons_ne_nil _ _

theorem pieces_of_notMem {special : Bool} {cs : List Char} (h : ∀ c ∈ cs, isSlash special c = false) :
    pieces special cs = [cs] := by
  induction cs with
  | nil => rfl
  | cons c cs ih =>
      rw [List.forall_mem_cons] at h
      rw [pieces, h.1, ih h.2]
      rfl

theorem pieces_append {special : Bool} {slash : Char} (h : isSlash special slash = true)
    (cs more : List Char) :
    pieces special (cs ++ slash :: more) = pieces special cs ++ pieces special more := by
  induction cs with
  | nil => simp [pieces, h]
  | cons c cs ih =>
      obtain ⟨piece, rest, heq⟩ := List.exists_cons_of_ne_nil (pieces_ne_nil special cs)
      rw [List.cons_append, pieces, pieces, ih, heq]
      split <;> rfl

/-- The segments of the path that follows a host, the last of them apart. -/
def way : List Char → List String
  | [] => []
  | _ :: rest => (pieces true rest).map (encoded inPath)

/-- What is left of a way is kept, and the name at its end stays behind it. -/
theorem pathOf_way (port : Nat) {detour name : List Char}
    (hdetour : ∀ c ∈ detour.head?, isSlash true c = true)
    (hname : ∀ c ∈ name, isSlash true c = false) (hdot : isDot (encoded inPath name) = false)
    (hdouble : isDoubleDot (encoded inPath name) = false) :
    pathOf (.web port) (detour ++ '/' :: name) =
      .segments ((along [] (way detour)).reverse ++ [encoded inPath name]) := by
  rw [← resolve_concat [] (way detour) hdot hdouble]
  cases detour with
  | nil =>
      rw [List.nil_append, pathOf]
      simp [segments, SchemeKind.isSpecial, isSlash, pieces_of_notMem hname, way]
  | cons slash rest =>
      have hslash : isSlash true slash = true := hdetour slash rfl
      have happend : pieces true (rest ++ '/' :: name) = pieces true rest ++ pieces true name :=
        pieces_append rfl rest name
      rw [List.cons_append, pathOf]
      simp [segments, SchemeKind.isSpecial, hslash, happend, pieces_of_notMem hname, way]

theorem toString_segments_concat (above : List String) (name : String) :
    (UrlPath.segments (above ++ [name])).toString = "/" ++ name ↔ above = [] := by
  have htext : (UrlPath.segments (above ++ [name])).toString =
      String.join (above.map ("/" ++ ·)) ++ ("/" ++ name) := by
    simp [UrlPath.toString, String.join_eq_foldl]
  rw [htext, ← String.toList_inj, String.toList_append, List.append_left_eq_self, String.toList_join]
  cases above <;> simp

/-! ## Authorities -/

theorem cutUser_of_notMem {cs : List Char} (h : '@' ∉ cs) : cutUser cs = none := by
  rw [cutUser, cut_of_notMem (by simpa using h)]

theorem cutUser_append (user : List Char) {site : List Char} (h : '@' ∉ site) :
    cutUser (user ++ '@' :: site) = some (user, site) := by
  have hreverse : (user ++ '@' :: site).reverse = site.reverse ++ '@' :: user.reverse := by simp
  rw [cutUser, hreverse, cut_append (by simpa using h)]
  simp

/-- An authority has no user, or one before its last `@`. -/
theorem eq_user_of_mem {cs : List Char} (h : '@' ∈ cs) :
    ∃ user site, cs = user ++ '@' :: site ∧ '@' ∉ site := by
  obtain ⟨after, before, heq, hafter⟩ := List.eq_append_cons_of_mem (List.mem_reverse.mpr h)
  refine ⟨before.reverse, after.reverse, ?_, by simpa using hafter⟩
  rw [← List.reverse_reverse cs, heq]
  simp

/-- A host that is read is not empty, so that a user or a port may stand beside it. -/
theorem isEmpty_of_webHost {cs : List Char} {host : Host} (h : webHost cs = .ok host) :
    host.isEmpty = false := by
  unfold webHost bracketed? at h
  split at h
  · rename_i found hfound
    split at hfound
    · obtain rfl := Option.some.inj hfound
      split at h
      · split at h
        · cases h
          rfl
        · cases h
      · cases h
    · cases hfound
  · split at h
    · cases h
    · cases h
    · rename_i domain hne _
      split at h
      · split at h
        · cases h
          rfl
        · cases h
      · cases h
        simpa [Host.isEmpty] using hne

/-- What the text behind a user says: a host and, behind a colon, a port. The scheme's own port is none. -/
def site? (port : Nat) (site : List Char) : Except UrlError (Host × Option Nat) :=
  if (cutHost false site).1.isEmpty then .error .emptyHost
  else
    match webHost (cutHost false site).1 with
    | .error e => .error e
    | .ok host =>
      match (cutHost false site).2 with
      | [] => .ok (host, none)
      | _ :: digits =>
        match readPort (.web port) digits with
        | .error e => .error e
        | .ok (number, _) => .ok (host, number)

theorem cutHost_append (inside : Bool) (cs : List Char) :
    (cutHost inside cs).1 ++ (cutHost inside cs).2 = cs := by
  induction cs generalizing inside with
  | nil => rfl
  | cons c cs ih =>
      rw [cutHost]
      split
      · rfl
      · simp [ih]

theorem cutHost_snd (inside : Bool) (cs : List Char) :
    (cutHost inside cs).2 = [] ∨ ∃ digits, (cutHost inside cs).2 = ':' :: digits := by
  induction cs generalizing inside with
  | nil => exact .inl rfl
  | cons c cs ih =>
      rw [cutHost]
      split
      · rename_i hcolon
        rw [Bool.and_eq_true, beq_iff_eq] at hcolon
        exact .inr ⟨cs, by rw [hcolon.1]⟩
      · exact ih _

/-- Nothing is left behind a port if no backslash is there. -/
theorem readPort_rest {port : Nat} {digits rest : List Char} {number : Option Nat}
    (h : readPort (.web port) digits = .ok (number, rest)) (hslash : '\\' ∉ digits) : rest = [] := by
  have hrest : digits.dropWhile Ascii.isDigit = [] ∨
      (digits.dropWhile Ascii.isDigit).head?.any (· != '\\') = true := by
    cases hdrop : digits.dropWhile Ascii.isDigit with
    | nil => exact .inl rfl
    | cons c rest =>
        have hmem : c ∈ digits := (List.dropWhile_suffix _).subset (hdrop ▸ List.mem_cons_self)
        refine .inr ?_
        simp only [List.head?_cons, Option.any_some, bne_iff_ne]
        rintro rfl
        exact hslash hmem
  unfold readPort at h
  dsimp only at h
  split at h
  · cases h
  · split at h
    · cases h
    · split at h
      · cases h
      · rename_i hhead
        have hnil : digits.dropWhile Ascii.isDigit = [] := hrest.resolve_right hhead
        split at h
        · rw [← (Prod.mk.inj (Except.ok.inj h)).2, hnil]
        · rw [← (Prod.mk.inj (Except.ok.inj h)).2, hnil]

/-- An authority of the web is its user and its site, and leaves nothing over. -/
theorem authority?_web {port : Nat} {cs : List Char} (h : ∀ c ∈ cs, isSlash true c = false)
    (isLast : Bool) :
    authority? (.web port) isLast cs =
      (site? port ((cutUser cs).getD ([], cs)).2).map fun s =>
        { username := encoded inUserinfo (cut ':' ((cutUser cs).getD ([], cs)).1).1
          password := encoded inUserinfo ((cut ':' ((cutUser cs).getD ([], cs)).1).2.getD [])
          host := s.1, port := s.2, rest := [] } := by
  have hsite : ∀ c ∈ ((cutUser cs).getD ([], cs)).2, c ∈ cs := by
    by_cases hat : '@' ∈ cs
    · obtain ⟨user, site, rfl, hsite⟩ := eq_user_of_mem hat
      rw [cutUser_append user hsite]
      simp +contextual
    · simp [cutUser_of_notMem hat]
  unfold authority? site?
  simp only [bind, Except.bind, pure, Except.pure, throw, throwThe, MonadExceptOf.throw]
  generalize (cutUser cs).getD ([], cs) = parts at hsite ⊢
  obtain ⟨user, site⟩ := parts
  dsimp only at hsite ⊢
  have happend := cutHost_append false site
  have hcolon := cutHost_snd false site
  generalize cutHost false site = parts at happend hcolon ⊢
  obtain ⟨text, after⟩ := parts
  dsimp only at happend hcolon ⊢
  -- a lone `@` is refused on its own, but with no text for a host it would be refused in any case
  by_cases hempty : text.isEmpty = true
  · simp only [SchemeKind.isSpecial, hempty, if_true, Bool.and_self, ite_self]
    rfl
  · have hguard : (cs.head? == some '@' && user.isEmpty && site.isEmpty && !isLast) = false := by
      have hne : site ≠ [] := by
        rintro rfl
        simp_all
      simp [hne]
    simp only [SchemeKind.isSpecial, hempty, hguard, if_true, Bool.and_false, Bool.false_eq_true, if_false]
    cases hhost : webHost text with
    | error e => rfl
    | ok host =>
        simp only [isEmpty_of_webHost hhost, Bool.false_and, Bool.false_eq_true, if_false]
        rcases hcolon with rfl | ⟨digits, rfl⟩
        · rfl
        · have hslash : '\\' ∉ digits := by
            intro hmem
            have hin : '\\' ∈ cs := hsite _ (happend ▸ by simp [hmem])
            simpa [isSlash] using h _ hin
          cases hport : readPort (.web port) digits with
          | error e => simp only [hport, Except.map]
          | ok read =>
              obtain ⟨number, rest⟩ := read
              obtain rfl := readPort_rest hport hslash
              simp only [hport, Except.map]

theorem withAuthority_web (scheme : String) (port : Nat) (isLast : Bool) {text tail : List Char}
    (htext : ∀ c ∈ text, isSlash true c = false) (htail : ∀ c ∈ tail.head?, isSlash true c = true) :
    withAuthority scheme (.web port) isLast (text ++ tail) =
      (site? port ((cutUser text).getD ([], text)).2).map fun s =>
        { scheme
          username := encoded inUserinfo (cut ':' ((cutUser text).getD ([], text)).1).1
          password := encoded inUserinfo ((cut ':' ((cutUser text).getD ([], text)).1).2.getD [])
          host := some s.1, port := s.2, path := pathOf (.web port) tail } := by
  have htake : (text ++ tail).takeWhile (!isSlash true ·) = text := by
    rw [List.takeWhile_append_of_pos (by simpa using htext)]
    cases tail with
    | nil => simp
    | cons slash rest => simp [htail slash rfl]
  have hdrop : (text ++ tail).dropWhile (!isSlash true ·) = tail := by
    rw [List.dropWhile_append_of_pos (by simpa using htext)]
    cases tail with
    | nil => rfl
    | cons slash rest => simp [htail slash rfl]
  unfold withAuthority
  simp only [SchemeKind.isSpecial, htake, hdrop, authority?_web htext, bind, Except.bind, pure, Except.pure]
  cases site? port ((cutUser text).getD ([], text)).2 <;> rfl

theorem of_withAuthority {scheme : String} {kind : SchemeKind} {isLast : Bool} {cs : List Char} {u : Url}
    (h : withAuthority scheme kind isLast cs = .ok u) :
    u.scheme = scheme ∧ u.query = none ∧ u.fragment = none := by
  unfold withAuthority at h
  simp only [bind, Except.bind, pure, Except.pure] at h
  split at h
  · cases h
  · obtain rfl := Except.ok.inj h
    exact ⟨rfl, rfl, rfl⟩

/-! ## Whole URLs -/

/-- Tabs and line breaks are no part of a URL. -/
def withoutBreaks (cs : List Char) : List Char :=
  cs.filter fun c => c != '\t' && c != '\n' && c != '\r'

/-- Behind `http:` come an authority and a path, whatever slashes are in front of them, and then a query and
a fragment. -/
theorem parse_http {text : List Char} (hlast : ∀ c ∈ text.getLast?, 0x20 < c.toNat) :
    parse ("http://" ++ String.ofList text) =
      let front := cut '#' (withoutBreaks text)
      let site := cut '?' front.1
      (withAuthority "http" (.web 80) (front.2.isNone && site.2.isNone)
        (site.1.dropWhile (isSlash true))).map fun u =>
          { u with query := site.2.map (encoded inWebQuery), fragment := front.2.map (encoded inFragment) } := by
  have hclean : clean ("http://" ++ String.ofList text).toList = "http://".toList ++ withoutBreaks text := by
    have hedges : (("http://".toList ++ text).reverse.dropWhile fun c => decide (c.toNat ≤ 0x20)) =
        ("http://".toList ++ text).reverse := by
      rw [List.reverse_append]
      rcases List.eq_nil_or_concat text with rfl | ⟨front, last, rfl⟩
      · decide
      · have hprinted : 0x20 < last.toNat := hlast last (by simp)
        simp [hprinted]
    have hfront : (("http://" ++ String.ofList text).toList.dropWhile fun c => decide (c.toNat ≤ 0x20)) =
        "http://".toList ++ text := by
      simp only [String.toList_append, String.toList_ofList]
      rfl
    rw [clean, hfront, hedges, List.reverse_reverse, List.filter_append]
    rfl
  have hscheme : scheme? ("http://".toList ++ withoutBreaks text) =
      some ("http", '/' :: '/' :: withoutBreaks text) := by
    have hcut : Split.cut? ':' ("http://".toList ++ withoutBreaks text) =
        some ("http".toList, '/' :: '/' :: withoutBreaks text) :=
      Split.cut?_eq_some_iff.mpr ⟨rfl, by decide⟩
    rw [scheme?, hcut]
    rfl
  have hcut : ∀ sep, sep ≠ '/' → ∀ cs,
      cut sep ('/' :: '/' :: cs) = ('/' :: '/' :: (cut sep cs).1, (cut sep cs).2) := by
    intro sep hsep cs
    simp only [cut, Split.cut?, Ne.symm hsep, if_false]
    cases Split.cut? sep cs <;> rfl
  rw [parse, hclean, hscheme]
  simp only [hcut '#' (by decide), hcut '?' (by decide)]
  have hweb : ∀ isLast rest, hierarchy "http" isLast ('/' :: '/' :: rest) =
      withAuthority "http" (.web 80) isLast (rest.dropWhile (isSlash true)) := fun _ _ => rfl
  simp only [hweb]
  rfl

end Preseed.Url
