import Preseed.Proofs.Client.Link
import Preseed.Proofs.Client.Query

/-! # The query of script links

Decoding the query of a link gives back the pairs that it was made from, and all else of the link's URL is
the endpoint's. Of each fact of the client that the pairs hold, a request with this query keeps the value if
it is usable, whatever the others are. -/

namespace Preseed

/-! ## Reading the pairs -/

namespace Params

/-- The effect of a value that is given for a key or not, when `put` is what a checked value does. -/
theorem foldl_apply_toList (key : String) (put : Params → Option String → Params)
    (hput : ∀ params value, params.apply (key, value) = put params (checked value))
    {params : Params} (hnone : put params none = params) (value : Option String) :
    (value.toList.map fun v => (key, v)).foldl apply params =
      put params (value.filter (IsUsable ·)) := by
  rw [← bind_checked]
  cases value with
  | none => exact hnone.symm
  | some v => exact hput params v

/-- An empty value is not usable, so that leaving it out changes nothing. -/
theorem filter_isEmpty_filter (value : Option String) :
    (value.filter (!·.isEmpty)).filter (IsUsable ·) = value.filter (IsUsable ·) := by
  rw [Option.filter_filter]
  refine congrArg value.filter (funext fun v => ?_)
  by_cases h : v.isEmpty = true
  · simp [IsUsable, h]
  · simp [IsUsable, h]

theorem ofPairs_pairs_eq (phase : Phase) (client : Client) (plugin : Option String) :
    ofPairs (ScriptLink.pairs phase client plugin) =
      { node := client.node.filter (IsUsable ·)
        arch := client.architecture.filter (IsUsable ·)
        distro := (some client.distro).filter (IsUsable ·)
        plugin := plugin.filter (IsUsable ·)
        script := some phase.toString
        version := some "0" } := by
  have hhead : [("v", "0"), ("script", phase.toString)].foldl apply {} =
      { script := some phase.toString, version := some "0" } := by
    cases phase <;> decide
  unfold ofPairs ScriptLink.pairs ScriptLink.pairOf
  simp only [List.foldl_append]
  rw [hhead,
    foldl_apply_toList "arch" (fun p v => { p with arch := v }) (fun _ _ => rfl) rfl,
    foldl_apply_toList "distro" (fun p v => { p with distro := v }) (fun _ _ => rfl) rfl,
    foldl_apply_toList "plugin" (fun p v => { p with plugin := v }) (fun _ _ => rfl) rfl,
    foldl_apply_toList "node" (fun p v => { p with node := v }) (fun _ _ => rfl) rfl,
    filter_isEmpty_filter, filter_isEmpty_filter]

end Params

/-! ## The URL around the query -/

namespace Url

/-- The path is made of segments, as that of every URL with a host. -/
def IsHierarchical (u : Url) : Prop :=
  ∃ names, u.path = .segments names

/-- The URL up to its query. -/
def bare (u : Url) : Url :=
  { u with query := none, fragment := none }

theorem withoutQuery_eq_bare {u : Url} (h : u.IsHierarchical) : u.withoutQuery = u.bare := by
  obtain ⟨names, hpath⟩ := h
  simp only [withoutQuery, bare, hpath, trimPath]

theorem toString_withPairs_bare (u : Url) (pairs : List (String × String)) :
    (u.bare.withPairs pairs).toString =
      u.bare.toString ++ "?" ++ String.ofList (Form.encode pairs) := by
  have hauthority : (u.bare.withPairs pairs).authority = u.bare.authority := rfl
  simp only [Url.toString, hauthority]
  simp [bare, withPairs, String.append_assoc]

end Url

namespace ScriptLink

theorem pairOf_none (key : String) : pairOf key none = [] := rfl

theorem pairOf_some (key value : String) :
    pairOf key (some value) = if value = "" then [] else [(key, value)] := by
  by_cases h : value = "" <;> simp [pairOf, Option.filter, h]

/-- The query of a link is decoded as the tag and the phase, and then what is known of the client, each text
as it is; all else of the URL is the endpoint's. A request with this query asks for the phase's script and
gives neither a name nor classes, and keeps of each other fact the value that is usable. -/
theorem query_url_reads_back {base : Url} (hbase : base.IsHierarchical) (phase : Phase)
    (client : Client) (plugin : Option String) :
    let u := (ofUrl base).url phase client plugin
    ∃ query, u.query = some query ∧
      Form.decode query =
        [("v", "0"), ("script", phase.toString)] ++
          (match client.architecture with
            | some arch => [("arch", arch)]
            | none => []) ++
          (if client.distro = "" then [] else [("distro", client.distro)]) ++
          (match plugin with
            | some name => if name = "" then [] else [("plugin", name)]
            | none => []) ++
          (match client.node with
            | some node => [("node", node)]
            | none => []) ∧
      { u with query := none } = base.bare ∧
      u.toString = base.bare.toString ++ "?" ++ query ∧
      (let params := Params.parse query
       params.mode = .script phase ∧ params.client = none ∧ params.classes = [] ∧
        params.info = false ∧
        params.arch = client.architecture.filter (Params.IsUsable ·) ∧
        params.distro = (some client.distro).filter (Params.IsUsable ·) ∧
        params.plugin = plugin.filter (Params.IsUsable ·) ∧
        params.node = client.node.filter (Params.IsUsable ·)) := by
  intro u
  have hu : u = base.bare.withPairs (pairs phase client plugin) := by
    rw [← Url.withoutQuery_eq_bare hbase]
    rfl
  refine ⟨_, congrArg Url.query hu, ?_, ?_, ?_, ?_⟩
  · rw [Form.decode_encode, pairs]
    cases client.architecture <;> cases client.node <;> cases plugin
    all_goals simp [pairOf_none, pairOf_some]
  · rw [hu]
    rfl
  · rw [hu, Url.toString_withPairs_bare]
  · rw [Params.parse, Form.decode_encode, Params.ofPairs_pairs_eq]
    refine ⟨?_, rfl, rfl, rfl, rfl, rfl, rfl, rfl⟩
    cases phase <;> rfl

/-- An endpoint with a query and a fragment, and facts that look like a query themselves. -/
theorem query_url_reads_back_of_hostile :
    let base : Url :=
      { scheme := "http", host := some (.name "install.lab.example"), path := .segments ["pre'seed"]
        query := some "stale=1", fragment := some "top" }
    let client : Client :=
      { ((Client.builder (.v4 ⟨10, 0, 0, 5⟩)).build) with
        architecture := some "", distro := "bookworm", node := some "a&script=late+%41\n" }
    let u := (ofUrl base).url .early client (some "Näme")
    base.IsHierarchical ∧
      ∃ query, u.query = some query ∧
        Form.decode query = [("v", "0"), ("script", "early"), ("arch", ""), ("distro", "bookworm"),
          ("plugin", "Näme"), ("node", "a&script=late+%41\n")] ∧
        u.toString = "http://install.lab.example/pre'seed?" ++ query ∧
        (Params.parse query).mode = .script .early ∧ (Params.parse query).arch = none ∧
        (Params.parse query).distro = some "bookworm" ∧ (Params.parse query).node = none := by
  intro base client u
  have hbase : base.IsHierarchical := ⟨_, rfl⟩
  obtain ⟨query, hquery, hpairs, -, htext, hmode, -, -, -, harch, hdistro, -, hnode⟩ :=
    query_url_reads_back hbase .early client (some "Näme")
  refine ⟨hbase, query, hquery, hpairs.trans (by decide), htext.trans ?_, hmode,
    harch.trans (by decide), hdistro.trans (by decide), hnode.trans (by decide)⟩
  exact congrArg (· ++ query) (by decide)

end ScriptLink

end Preseed
