import Mathlib.Data.List.TakeWhile
import Preseed.Http.Basic
import Preseed.Proofs.Net.Url
import Preseed.Proofs.Record.Fields

/-! # Hosts that installers are called back at

A `Host` header is pasted in front of the request's path, and the two are read again as one URL. What stands
in the header decides whether the path is still the path then. -/

namespace Preseed.Http

open Url

/-- A URL that calls a path back by HTTP, with no user, query or fragment. -/
structure CallsBack (path : String) (u : Url) : Prop where
  scheme_eq : u.scheme = "http"
  path_eq : u.path.toString = path
  username_eq : u.username = ""
  password_eq : u.password = ""
  query_eq : u.query = none
  fragment_eq : u.fragment = none

/-! ## Hosts that name a site -/

/-- A site has no character that ends an authority or a user. -/
structure IsSite (site : List Char) : Prop where
  ne_nil : site ≠ []
  no_slash : ∀ c ∈ site, isSlash true c = false
  no_user : '@' ∉ site
  no_query : '?' ∉ site
  no_fragment : '#' ∉ site

/-- A way behind a site that ends where it began, as `/install/..` does. -/
structure LeadsBack (detour : List Char) : Prop where
  begins : ∀ c ∈ detour.head?, isSlash true c = true
  returns : along [] (way detour) = []
  no_query : '?' ∉ detour
  no_fragment : '#' ∉ detour

/-- What a host may have around the site that it names: tabs and line breaks, slashes in front, a user
without name and password, and a way that leads back. -/
def Names (host site : List Char) : Prop :=
  IsSite site ∧ ∃ slashes user detour,
    withoutBreaks host = slashes ++ (user ++ site) ++ detour ∧
    (∀ c ∈ slashes, isSlash true c = true) ∧ user ∈ [[], ['@'], [':', '@']] ∧ LeadsBack detour

/-- A site on its own names itself. -/
theorem IsSite.names {site : List Char} (hsite : IsSite site) (hbreaks : withoutBreaks site = site) :
    Names site site :=
  ⟨hsite, [], [], [], by rw [hbreaks]; simp, by simp, by simp, ⟨by simp, rfl, by simp, by simp⟩⟩

/-! ## Names at the end of a path -/

/-- A name that a path has as it stands. -/
structure IsName (name : List Char) : Prop where
  printed : ∀ c ∈ name, 0x20 < c.toNat
  no_slash : ∀ c ∈ name, isSlash true c = false
  no_query : '?' ∉ name
  no_fragment : '#' ∉ name
  encoded_eq : encoded inPath name = String.ofList name
  not_dot : isDot (String.ofList name) = false
  not_double : isDoubleDot (String.ofList name) = false

theorem exists_name_of_route {path : String} (h : Route.ofPath? path = some .preseed) :
    ∃ name, path = "/" ++ String.ofList name ∧ IsName name := by
  have hpath : path ∈ ["/", "/preseed", "/preseed.cfg"] := by
    unfold Route.ofPath? at h
    split at h
    · assumption
    · split at h <;> cases h
  have hname : ∀ name ∈ ["", "preseed", "preseed.cfg"], IsName name.toList := by
    intro name hname
    simp only [List.mem_cons, List.not_mem_nil, or_false] at hname
    rcases hname with rfl | rfl | rfl <;>
      exact ⟨by simp, by simp [isSlash], by decide, by decide, by decide, by decide, by decide⟩
  simp only [List.mem_cons, List.not_mem_nil, or_false] at hpath
  rcases hpath with rfl | rfl | rfl
  · exact ⟨"".toList, rfl, hname "" (by simp)⟩
  · exact ⟨"preseed".toList, rfl, hname "preseed" (by simp)⟩
  · exact ⟨"preseed.cfg".toList, rfl, hname "preseed.cfg" (by simp)⟩

/-! ## Hosts in front of a path -/

section
variable {host site name : List Char}

theorem IsName.withoutBreaks_append (hname : IsName name) (host : List Char) :
    withoutBreaks (host ++ '/' :: name) = withoutBreaks host ++ '/' :: name := by
  have hkept : ∀ c ∈ '/' :: name, (c != '\t' && c != '\n' && c != '\r') = true := by
    intro c hc
    have hprinted : 0x20 < c.toNat := by
      rcases List.mem_cons.mp hc with rfl | hc
      · decide
      · exact hname.printed c hc
    simp only [Bool.and_eq_true, bne_iff_ne]
    refine ⟨⟨?_, ?_⟩, ?_⟩ <;> (rintro rfl; revert hprinted; decide)
  rw [withoutBreaks, List.filter_append, List.filter_eq_self.mpr hkept]
  rfl

/-- What is pasted is cut at the first `#` and the first `?` and then at slashes. -/
theorem IsName.parse_pasted (hname : IsName name) (host : List Char) :
    Url.parse ("http://" ++ String.ofList (host ++ '/' :: name)) =
      let front := cut '#' (withoutBreaks host ++ '/' :: name)
      let site := cut '?' front.1
      (withAuthority "http" (.web 80) (front.2.isNone && site.2.isNone)
        (site.1.dropWhile (isSlash true))).map fun u =>
          { u with query := site.2.map (encoded inWebQuery), fragment := front.2.map (encoded inFragment) } := by
  have hlast : ∀ c ∈ (host ++ '/' :: name).getLast?, 0x20 < c.toNat := by
    intro c hc
    rw [List.getLast?_append, List.getLast?_cons, Option.some_or, ← List.getLast?_cons] at hc
    rcases List.mem_cons.mp (List.mem_of_getLast? hc) with rfl | hc
    · decide
    · exact hname.printed c hc
  rw [parse_http hlast, hname.withoutBreaks_append]

theorem IsName.scheme_of_parse (hname : IsName name) {u : Url}
    (h : Url.parse ("http://" ++ String.ofList (host ++ '/' :: name)) = .ok u) : u.scheme = "http" := by
  rw [hname.parse_pasted] at h
  obtain ⟨v, hread, rfl⟩ := exists_of_map_eq_ok h
  exact (of_withAuthority hread).1

theorem IsName.withAuthority_of_parse (hname : IsName name) {u : Url}
    (h : Url.parse ("http://" ++ String.ofList (host ++ '/' :: name)) = .ok u)
    (hquery : u.query = none) (hfragment : u.fragment = none) :
    '?' ∉ withoutBreaks host ∧ '#' ∉ withoutBreaks host ∧
      withAuthority "http" (.web 80) true
        ((withoutBreaks host ++ '/' :: name).dropWhile (isSlash true)) = .ok u := by
  rw [hname.parse_pasted] at h
  obtain ⟨v, hread, rfl⟩ := exists_of_map_eq_ok h
  clear h
  dsimp only at hread hquery hfragment ⊢
  have hnoFragment : '#' ∉ withoutBreaks host ++ '/' :: name :=
    cut_snd_eq_none_iff.mp (Option.map_eq_none_iff.mp hfragment)
  simp only [cut_of_notMem hnoFragment] at hread hquery ⊢
  have hnoQuery : '?' ∉ withoutBreaks host ++ '/' :: name :=
    cut_snd_eq_none_iff.mp (Option.map_eq_none_iff.mp hquery)
  simp only [cut_of_notMem hnoQuery] at hread ⊢
  obtain ⟨-, hv, hv'⟩ := of_withAuthority hread
  refine ⟨fun hmem => hnoQuery (List.mem_append_left _ hmem),
    fun hmem => hnoFragment (List.mem_append_left _ hmem), hread.trans ?_⟩
  cases v
  cases hv
  cases hv'
  rfl

/-- The slashes in front of an authority, the authority and the way behind it. -/
structure Parts (cs slashes text detour : List Char) : Prop where
  eq_append : cs = slashes ++ text ++ detour
  slashes_slash : ∀ c ∈ slashes, isSlash true c = true
  text_ne_nil : text ≠ []
  text_no_slash : ∀ c ∈ text, isSlash true c = false
  detour_begins : ∀ c ∈ detour.head?, isSlash true c = true

/-- A text is slashes only, or has an authority behind them. -/
theorem slashes_or_parts (cs : List Char) :
    (∀ c ∈ cs, isSlash true c = true) ∨ ∃ slashes text detour, Parts cs slashes text detour := by
  cases hrest : cs.dropWhile (isSlash true) with
  | nil => exact .inl (List.dropWhile_eq_nil_iff.mp hrest)
  | cons c rest =>
      have hc : isSlash true c = false := by
        have hhead := List.head?_dropWhile_not (isSlash true) cs
        rw [hrest] at hhead
        simpa using hhead
      have htext : (c :: rest).takeWhile (!isSlash true ·) ≠ [] := by
        rw [List.takeWhile_cons_of_pos (by simp [hc])]
        exact List.cons_ne_nil _ _
      refine .inr ⟨cs.takeWhile (isSlash true), (c :: rest).takeWhile (!isSlash true ·),
        (c :: rest).dropWhile (!isSlash true ·), ?_, ?_, htext, ?_, ?_⟩
      · rw [List.append_assoc, List.takeWhile_append_dropWhile, ← hrest, List.takeWhile_append_dropWhile]
      · exact fun _ => List.mem_takeWhile_imp
      · intro d hd
        simpa using List.mem_takeWhile_imp hd
      · intro d hd
        have hhead := List.head?_dropWhile_not (!isSlash true ·) (c :: rest)
        rw [Option.mem_def.mp hd] at hhead
        simpa using hhead

theorem IsName.withAuthority_of_parts (hname : IsName name) {cs slashes text detour : List Char}
    (hparts : Parts cs slashes text detour) (isLast : Bool) :
    withAuthority "http" (.web 80) isLast ((cs ++ '/' :: name).dropWhile (isSlash true)) =
      (site? 80 ((cutUser text).getD ([], text)).2).map fun s =>
        { scheme := "http"
          username := encoded inUserinfo (cut ':' ((cutUser text).getD ([], text)).1).1
          password := encoded inUserinfo ((cut ':' ((cutUser text).getD ([], text)).1).2.getD [])
          host := some s.1, port := s.2
          path := .segments ((along [] (way detour)).reverse ++ [String.ofList name]) } := by
  have hfirst : (text ++ (detour ++ '/' :: name)).dropWhile (isSlash true) =
      text ++ (detour ++ '/' :: name) := by
    obtain ⟨c, rest, rfl⟩ := List.exists_cons_of_ne_nil hparts.text_ne_nil
    have hc : isSlash true c = false := hparts.text_no_slash c List.mem_cons_self
    rw [List.cons_append, List.dropWhile_cons_of_neg (by simp [hc])]
  have hwhole : cs ++ '/' :: name = slashes ++ (text ++ (detour ++ '/' :: name)) := by
    simp [hparts.eq_append]
  have htail : ∀ c ∈ (detour ++ '/' :: name).head?, isSlash true c = true := by
    intro c hc
    rw [List.head?_append] at hc
    cases hhead : detour.head? with
    | none =>
        obtain rfl : c = '/' := by simpa [hhead, eq_comm] using hc
        rfl
    | some slash =>
        obtain rfl : c = slash := by simpa [hhead, eq_comm] using hc
        exact hparts.detour_begins c hhead
  rw [hwhole, List.dropWhile_append_of_pos hparts.slashes_slash, hfirst,
    withAuthority_web _ _ _ hparts.text_no_slash htail, pathOf_way 80 hparts.detour_begins
      hname.no_slash (by rw [hname.encoded_eq, hname.not_dot]) (by rw [hname.encoded_eq, hname.not_double]),
    hname.encoded_eq]

/-- Behind nothing but slashes the name is taken for the host. -/
theorem IsName.toString_ne_of_slashes (hname : IsName name) {cs : List Char}
    (hcs : ∀ c ∈ cs, isSlash true c = true) {isLast : Bool} {u : Url}
    (h : withAuthority "http" (.web 80) isLast ((cs ++ '/' :: name).dropWhile (isSlash true)) = .ok u) :
    u.path.toString ≠ "/" ++ String.ofList name := by
  have hdrop : (cs ++ '/' :: name).dropWhile (isSlash true) = name ++ [] := by
    have hfirst : name.dropWhile (isSlash true) = name := by
      cases name with
      | nil => rfl
      | cons c rest =>
          have hc : isSlash true c = false := hname.no_slash c List.mem_cons_self
          rw [List.dropWhile_cons_of_neg (by simp [hc])]
    rw [List.dropWhile_append_of_pos hcs, List.dropWhile_cons_of_pos rfl, hfirst, List.append_nil]
  rw [hdrop, withAuthority_web _ _ _ hname.no_slash (by simp)] at h
  intro hpath
  cases hsite : site? 80 ((cutUser name).getD ([], name)).2 with
  | error e =>
      rw [hsite] at h
      cases h
  | ok s =>
      rw [hsite] at h
      obtain rfl := Except.ok.inj h
      -- the path is a lone slash, so the name is empty and no host is read from it
      obtain rfl : name = [] := by
        have hempty : "/" = "/" ++ String.ofList name := hpath
        simpa [← String.toList_inj] using hempty
      cases hsite

/-- A user without name and password says nothing. -/
theorem IsSite.cutUser_append (hsite : IsSite site) {user : List Char}
    (huser : user ∈ [[], ['@'], [':', '@']]) :
    let parts := (cutUser (user ++ site)).getD ([], user ++ site)
    parts.2 = site ∧ (cut ':' parts.1).1 = [] ∧ (cut ':' parts.1).2.getD [] = [] := by
  simp only [List.mem_cons, List.not_mem_nil, or_false] at huser
  rcases huser with rfl | rfl | rfl
  · rw [List.nil_append, cutUser_of_notMem hsite.no_user]
    exact ⟨rfl, rfl, rfl⟩
  · have hcut : cutUser (['@'] ++ site) = some ([], site) := Url.cutUser_append [] hsite.no_user
    rw [hcut]
    exact ⟨rfl, rfl, rfl⟩
  · have hcut : cutUser ([':', '@'] ++ site) = some ([':'], site) :=
      Url.cutUser_append [':'] hsite.no_user
    rw [hcut]
    exact ⟨rfl, rfl, rfl⟩

/-- Only users of that kind say nothing. -/
theorem eq_append_of_encoded_eq_empty {text : List Char}
    (hname : encoded inUserinfo (cut ':' ((cutUser text).getD ([], text)).1).1 = "")
    (hpassword : encoded inUserinfo ((cut ':' ((cutUser text).getD ([], text)).1).2.getD []) = "") :
    ∃ user ∈ [[], ['@'], [':', '@']], ∃ site,
      text = user ++ site ∧ '@' ∉ site ∧ ((cutUser text).getD ([], text)).2 = site := by
  by_cases hat : '@' ∈ text
  · obtain ⟨user, site, rfl, hsite⟩ := eq_user_of_mem hat
    rw [Url.cutUser_append user hsite, Option.getD_some] at hname hpassword ⊢
    rw [encoded_eq_empty_iff] at hname hpassword
    dsimp only at hname hpassword
    by_cases hcolon : ':' ∈ user
    · obtain ⟨before, after, rfl, hbefore⟩ := List.eq_append_cons_of_mem hcolon
      rw [Url.cut_append hbefore] at hname hpassword
      obtain rfl : before = [] := hname
      obtain rfl : after = [] := hpassword
      exact ⟨[':', '@'], by simp, site, rfl, hsite, rfl⟩
    · rw [cut_of_notMem hcolon] at hname
      obtain rfl : user = [] := hname
      exact ⟨['@'], by simp, site, rfl, hsite, rfl⟩
  · rw [cutUser_of_notMem hat]
    exact ⟨[], by simp, text, rfl, hat, rfl⟩

/-- A host that names a site is read as that site, and the path stays as it is. -/
theorem IsName.parse_of_names (hname : IsName name) (h : Names host site) :
    Url.parse ("http://" ++ String.ofList (host ++ '/' :: name)) =
      (site? 80 site).map fun s =>
        { scheme := "http", host := some s.1, port := s.2, path := .segments [String.ofList name] } := by
  obtain ⟨hsite, slashes, user, detour, heq, hslashes, huser, hdetour⟩ := h
  have huserChars : ∀ c ∈ user, isSlash true c = false ∧ c ≠ '?' ∧ c ≠ '#' := by
    simp only [List.mem_cons, List.not_mem_nil, or_false] at huser
    rcases huser with rfl | rfl | rfl <;> simp [isSlash]
  have htext : ∀ c ∈ user ++ site, isSlash true c = false := by
    intro c hc
    rcases List.mem_append.mp hc with hc | hc
    · exact (huserChars c hc).1
    · exact hsite.no_slash c hc
  have hfree : ∀ sep, isSlash true sep = false → sep ∉ user → sep ∉ site → sep ∉ detour → sep ∉ name →
      sep ∉ withoutBreaks host ++ '/' :: name := by
    intro sep hsep huser hsite hdetour hname
    have hslash : sep ≠ '/' := by
      rintro rfl
      cases hsep
    have hfront : sep ∉ slashes := by
      intro hmem
      rw [hslashes sep hmem] at hsep
      cases hsep
    simp [heq, hfront, huser, hsite, hdetour, hname, hslash]
  have hfragment : '#' ∉ withoutBreaks host ++ '/' :: name :=
    hfree '#' rfl (fun hmem => (huserChars _ hmem).2.2 rfl) hsite.no_fragment hdetour.no_fragment
      hname.no_fragment
  have hquery : '?' ∉ withoutBreaks host ++ '/' :: name :=
    hfree '?' rfl (fun hmem => (huserChars _ hmem).2.1 rfl) hsite.no_query hdetour.no_query hname.no_query
  have hparts : Parts (withoutBreaks host) slashes (user ++ site) detour :=
    ⟨heq, hslashes, List.append_ne_nil_of_right_ne_nil user hsite.ne_nil, htext, hdetour.begins⟩
  obtain ⟨haddress, hempty, hpassword⟩ := hsite.cutUser_append huser
  rw [hname.parse_pasted]
  simp only [cut_of_notMem hfragment, cut_of_notMem hquery]
  rw [hname.withAuthority_of_parts hparts, haddress, hempty, hpassword, hdetour.returns]
  cases site? 80 site <;> rfl

/-- Only a host that names a site leaves the path as it is. -/
theorem IsName.names_of_callsBack (hname : IsName name) {u : Url}
    (h : Url.parse ("http://" ++ String.ofList (host ++ '/' :: name)) = .ok u)
    (hback : CallsBack ("/" ++ String.ofList name) u) : ∃ site, Names host site := by
  obtain ⟨hquery, hfragment, hread⟩ := hname.withAuthority_of_parse h hback.query_eq hback.fragment_eq
  -- with slashes only the name would be the host, and with an authority its parts make a site
  rcases slashes_or_parts (withoutBreaks host) with hslashes | ⟨slashes, text, detour, hparts⟩
  · exact absurd hback.path_eq (hname.toString_ne_of_slashes hslashes hread)
  · rw [hname.withAuthority_of_parts hparts] at hread
    cases hsite : site? 80 ((cutUser text).getD ([], text)).2 with
    | error e =>
        rw [hsite] at hread
        cases hread
    | ok s =>
        rw [hsite] at hread
        obtain rfl := Except.ok.inj hread
        obtain ⟨user, huser, site, rfl, hat, haddress⟩ :=
          eq_append_of_encoded_eq_empty hback.username_eq hback.password_eq
        have hreturns : along [] (way detour) = [] := by
          simpa using (toString_segments_concat _ _).mp hback.path_eq
        have hsiteNe : site ≠ [] := by
          rintro rfl
          rw [haddress] at hsite
          cases hsite
        have hmem : ∀ c ∈ user ++ site ++ detour, c ∈ withoutBreaks host := by
          intro c hc
          rw [hparts.eq_append, List.append_assoc]
          exact List.mem_append_right slashes hc
        refine ⟨site, ⟨hsiteNe, ?_, hat, ?_, ?_⟩, slashes, user, detour, hparts.eq_append,
          hparts.slashes_slash, huser, hparts.detour_begins, hreturns, ?_, ?_⟩
        · exact fun c hc => hparts.text_no_slash c (List.mem_append_right user hc)
        · exact fun hc => hquery (hmem _ (by simp [hc]))
        · exact fun hc => hfragment (hmem _ (by simp [hc]))
        · exact fun hc => hquery (hmem _ (by simp [hc]))
        · exact fun hc => hfragment (hmem _ (by simp [hc]))

theorem IsName.callsBack_of_site (hname : IsName name) (h : Names host site) {s : Host × Option Nat}
    (hs : site? 80 site = .ok s) :
    ∃ u, Url.parse ("http://" ++ String.ofList (host ++ '/' :: name)) = .ok u ∧
      CallsBack ("/" ++ String.ofList name) u ∧ u.host = some s.1 ∧ u.port = s.2 := by
  rw [hname.parse_of_names h, hs]
  refine ⟨_, rfl, ⟨rfl, ?_, rfl, rfl, rfl, rfl⟩, rfl, rfl⟩
  exact (toString_segments_concat [] _).mpr rfl

theorem IsName.callsBack_iff (hname : IsName name) {u : Url}
    (h : Url.parse ("http://" ++ String.ofList (host ++ '/' :: name)) = .ok u) :
    CallsBack ("/" ++ String.ofList name) u ↔ ∃ site, Names host site := by
  refine ⟨hname.names_of_callsBack h, ?_⟩
  rintro ⟨site, hnames⟩
  have hread := hname.parse_of_names hnames
  rw [h] at hread
  obtain ⟨s, hs, -⟩ := exists_of_map_eq_ok hread.symm
  obtain ⟨v, hv, hback, -⟩ := hname.callsBack_of_site hnames hs
  rw [h] at hv
  exact Except.ok.inj hv ▸ hback

end

/-! ## Calling back -/

theorem text?_of_first? {headers : Headers} {name text : String}
    (h : headers.first? name = some (Utf8.ofString text))
    (hvisible : (Utf8.ofString text).all Headers.isVisible = true) : headers.text? name = some text := by
  rw [Headers.text?, h]
  simp only [hvisible, if_true, Utf8.toStringLossy_ofString]

theorem baseUrl_of_text {headers : Headers} {host : String} (h : headers.text? "host" = some host)
    (path : String) :
    baseUrl none headers path = (Url.parse ("http://" ++ host ++ path)).mapError
      fun e => .badRequest ("invalid Host header: " ++ e.message) := by
  rw [baseUrl, h]
  dsimp only
  cases Url.parse ("http://" ++ host ++ path) <;> rfl

/-- No URL configured, a path that preseeds are asked for is called back as it is exactly where the host
names a site, which is then called at its own host and port. A missing host and one that cannot be read are
answered with what is wrong. -/
theorem callsBack_iff_names {path : String} (hroute : Route.ofPath? path = some .preseed)
    (headers : Headers) :
    (headers.text? "host" = none →
      baseUrl none headers path = .error (.badRequest "missing Host header")) ∧
    ∀ host, headers.text? "host" = some host →
      (∀ e, baseUrl none headers path = .error e →
        ∃ cause : UrlError, e = .badRequest ("invalid Host header: " ++ cause.message)) ∧
      (∀ u, baseUrl none headers path = .ok u →
        u.scheme = "http" ∧ (CallsBack path u ↔ ∃ site, Names host.toList site)) ∧
      ∀ site, Names host.toList site →
        (∀ s, site? 80 site = .ok s → ∃ u, baseUrl none headers path = .ok u ∧
          CallsBack path u ∧ u.host = some s.1 ∧ u.port = s.2) ∧
        ∀ e, site? 80 site = .error e →
          baseUrl none headers path = .error (.badRequest ("invalid Host header: " ++ e.message)) := by
  obtain ⟨name, rfl, hname⟩ := exists_name_of_route hroute
  refine ⟨fun hhost => by rw [baseUrl, hhost], fun host hhost => ?_⟩
  have hpasted : "http://" ++ host ++ ("/" ++ String.ofList name) =
      "http://" ++ String.ofList (host.toList ++ '/' :: name) := by
    simp [← String.toList_inj]
  rw [baseUrl_of_text hhost, hpasted]
  refine ⟨?_, ?_, fun site hnames => ⟨?_, ?_⟩⟩
  · intro e he
    cases hparse : Url.parse ("http://" ++ String.ofList (host.toList ++ '/' :: name)) with
    | error cause =>
        rw [hparse] at he
        exact ⟨cause, (Except.error.inj he).symm⟩
    | ok u =>
        rw [hparse] at he
        cases he
  · intro u hu
    cases hparse : Url.parse ("http://" ++ String.ofList (host.toList ++ '/' :: name)) with
    | error cause =>
        rw [hparse] at hu
        cases hu
    | ok v =>
        rw [hparse] at hu
        obtain rfl := Except.ok.inj hu
        exact ⟨hname.scheme_of_parse hparse, hname.callsBack_iff hparse⟩
  · intro s hs
    obtain ⟨u, hparse, hu⟩ := hname.callsBack_of_site hnames hs
    rw [hparse]
    exact ⟨u, rfl, hu⟩
  · intro e he
    rw [hname.parse_of_names hnames, he]
    rfl

theorem callsBack_iff_names_of_address :
    Route.ofPath? "/preseed" = some .preseed ∧
      ∃ u, baseUrl none [("host", [Utf8.ofString "[2001:db8::1]:8080"])] "/preseed" = .ok u ∧
        CallsBack "/preseed" u ∧
        u.host = some (.v6 ⟨[0x2001, 0xdb8, 0, 0, 0, 0, 0, 1], rfl⟩) ∧ u.port = some 8080 := by
  have hroute : Route.ofPath? "/preseed" = some .preseed := by decide
  have hsite : IsSite "[2001:db8::1]:8080".toList :=
    ⟨by decide, by simp [isSlash], by decide, by decide, by decide⟩
  have hnames : Names "[2001:db8::1]:8080".toList "[2001:db8::1]:8080".toList := hsite.names (by decide)
  have hread : site? 80 "[2001:db8::1]:8080".toList =
      .ok (.v6 ⟨[0x2001, 0xdb8, 0, 0, 0, 0, 0, 1], rfl⟩, some 8080) := by decide
  have hhost : Headers.text? [("host", [Utf8.ofString "[2001:db8::1]:8080"])] "host" =
      some "[2001:db8::1]:8080" := text?_of_first? rfl (by decide)
  exact ⟨hroute, (((callsBack_iff_names hroute _).2 _ hhost).2.2 _ hnames).1 _ hread⟩

/-- A path in the host goes in front of the one that was asked for. -/
theorem not_callsBack_of_way :
    ∃ u, baseUrl none [("host", [Utf8.ofString "[2001:db8::1]/install"])] "/preseed" = .ok u ∧
      ¬ CallsBack "/preseed" u := by
  have hhost : Headers.text? [("host", [Utf8.ofString "[2001:db8::1]/install"])] "host" =
      some "[2001:db8::1]/install" := text?_of_first? rfl (by decide)
  have hparse : Url.parse ("http://" ++ "[2001:db8::1]/install" ++ "/preseed") =
      .ok { scheme := "http", host := some (.v6 ⟨[0x2001, 0xdb8, 0, 0, 0, 0, 0, 1], rfl⟩)
            path := .segments ["install", "preseed"] } := by decide
  rw [baseUrl_of_text hhost, hparse]
  exact ⟨_, rfl, fun hback => absurd hback.path_eq (by decide)⟩

end Preseed.Http
