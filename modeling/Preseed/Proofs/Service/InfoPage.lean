import Preseed.Proofs.Text.Html
import Preseed.Service.InfoPage

/-! # What a reader sees on the info page

Whatever the texts of a request and of the plugin directory hold, the page is read as its tables: no text
makes a tag, and every cell reads as the text that it was given. -/

namespace Preseed

open Html (Piece Reads)

namespace InfoTable

/-! ## Tables -/

def rowPieces (row : String × String) : List Piece :=
  [⟨"tr", ""⟩, ⟨"th", row.1⟩, ⟨"/th", ""⟩, ⟨"td", row.2⟩, ⟨"/td", ""⟩, ⟨"/tr", "\n"⟩]

/-- A table on the page: its title, and for each row the key and the value. -/
def pieces (t : InfoTable) : List Piece :=
  [⟨"h2", t.title⟩, ⟨"/h2", "\n"⟩, ⟨"table", "\n"⟩] ++ t.rows.flatMap rowPieces ++
    [⟨"/table", "\n"⟩]

def rowMarkup : List String := ["tr", "th", "/th", "td", "/td", "/tr"]

/-- The markup of a table with so many rows. -/
def markup (rows : ℕ) : List String :=
  ["h2", "/h2", "table"] ++ (List.replicate rows rowMarkup).flatten ++ ["/table"]

theorem map_markup_pieces (t : InfoTable) : t.pieces.map (·.markup) = markup t.rows.length := by
  have hrows : ∀ rows : List (String × String),
      (rows.flatMap rowPieces).map (·.markup) = (List.replicate rows.length rowMarkup).flatten := by
    intro rows
    induction rows with
    | nil => rfl
    | cons row rows ih =>
      rw [List.flatMap_cons, List.map_append, ih, List.length_cons, List.replicate_succ,
        List.flatten_cons]
      rfl
  simp only [pieces, markup, List.map_append, hrows, List.map_cons, List.map_nil]

theorem toList_renderRow (row : String × String) :
    (renderRow row).toList = (rowPieces row).flatMap Piece.source := by
  simp [renderRow, rowPieces, Piece.source, Html.escape, Html.escapeChar]

theorem toList_render (t : InfoTable) : t.render.toList = t.pieces.flatMap Piece.source := by
  have hrows : (String.join (t.rows.map renderRow)).toList =
      (t.rows.flatMap rowPieces).flatMap Piece.source := by
    simp only [String.toList_join, List.flatMap_map, toList_renderRow, List.flatMap_assoc]
  simp [render, pieces, hrows, Piece.source, Html.escape, Html.escapeChar]

theorem isPlain_of_mem_markup {rows : ℕ} {m : String} (h : m ∈ markup rows) : Html.IsPlain m := by
  have hplain : ∀ m ∈ ["h2", "/h2", "table"] ++ rowMarkup ++ ["/table"], Html.IsPlain m := by
    decide +kernel
  refine hplain m ?_
  simp only [markup, List.mem_append, List.mem_flatten] at h ⊢
  obtain (h | ⟨row, hrow, h⟩) | h := h
  · exact .inl (.inl h)
  · obtain rfl := List.eq_of_mem_replicate hrow
    exact .inl (.inr h)
  · exact .inr h

theorem reads_render (t : InfoTable) : Reads t.render.toList t.pieces := by
  rw [toList_render]
  refine Html.reads_source fun p hp => ?_
  have hmarkup : p.markup ∈ t.pieces.map (·.markup) := List.mem_map_of_mem hp
  rw [map_markup_pieces] at hmarkup
  exact isPlain_of_mem_markup hmarkup

end InfoTable

namespace InfoPage

/-! ## The page -/

/-- What stands before the tables. -/
def openingPieces : List Piece :=
  [⟨"!DOCTYPE html", "\n"⟩, ⟨"html", ""⟩, ⟨"head", ""⟩, ⟨"title", "netpreseed info"⟩,
    ⟨"/title", ""⟩, ⟨"/head", ""⟩, ⟨"body", "\n"⟩,
    ⟨"h1", Program.name ++ " " ++ Program.version⟩, ⟨"/h1", "\n"⟩]

def closingPieces : List Piece :=
  [⟨"/body", ""⟩, ⟨"/html", "\n"⟩]

/-- The page as it is meant to be read. -/
def pieces (page : InfoPage) : List Piece :=
  openingPieces ++ page.tables.flatMap InfoTable.pieces ++ closingPieces

/-- The markup of a page that shows so many plugins and headers. -/
def markup (plugins headers : ℕ) : List String :=
  ["!DOCTYPE html", "html", "head", "title", "/title", "/head", "body", "h1", "/h1"] ++
    [10, 8, plugins, 1, headers].flatMap InfoTable.markup ++ ["/body", "/html"]

/-- The title is read by a rule of its own, which the reader has left at the end of the opening. -/
theorem reads_opening : Reads opening.toList openingPieces := by decide +kernel

theorem reads_closing : Reads closing.toList closingPieces := by decide +kernel

theorem reads_render (page : InfoPage) : Reads page.render.toList page.pieces := by
  have htables : ∀ ts : List InfoTable,
      Reads (String.join (ts.map InfoTable.render)).toList (ts.flatMap InfoTable.pieces) := by
    intro ts
    induction ts with
    | nil => rfl
    | cons t ts ih =>
      rw [List.map_cons, String.join_cons, String.toList_append, List.flatMap_cons]
      exact t.reads_render.append ih
  rw [render, String.toList_append, String.toList_append]
  exact (reads_opening.append (htables page.tables)).append reads_closing

theorem map_markup_pieces (page : InfoPage) :
    page.pieces.map (·.markup) = markup page.plugins.length page.headers.length := by
  have htables : (page.tables.flatMap InfoTable.pieces).map (·.markup) =
      (page.tables.map (·.rows.length)).flatMap InfoTable.markup := by
    simp only [List.map_flatMap, InfoTable.map_markup_pieces, List.flatMap_map]
  rw [pieces, List.map_append, List.map_append, htables]
  simp [markup, tables, clientTable, paramsTable, openingPieces, closingPieces]

/-- A reader sees five tables and in their cells every key and value as it is: what is known of the client,
what the request asks for, the plugins, their kinds, and the headers. The markup tells no more than how many
plugins and headers there are, so it is the same on any two pages that agree in these numbers. -/
theorem read_render (page : InfoPage) :
    let c := page.client
    let p := page.params
    let tables : List InfoTable :=
      [⟨"Client",
          [("IP address", c.ip.toString), ("Reverse name", c.reverseName), ("Name", c.name),
            ("Hostname", c.derivedHostname), ("Domain", c.domain.getD ""),
            ("Hardware address", c.hardwareAddress), ("Architecture", c.architecture.getD ""),
            ("Distribution", c.distro), ("Node", c.node.getD ""),
            ("Classes (before directory)", ", ".intercalate c.classes)]⟩,
        ⟨"Parameters",
          [("client", p.client.getD ""), ("class", ", ".intercalate p.classes), ("node", p.node.getD ""),
            ("arch", p.arch.getD ""), ("distro", p.distro.getD ""), ("plugin", p.plugin.getD ""),
            ("script", p.script.getD ""), ("v", p.version.getD "")]⟩,
        ⟨"Plugin definitions", page.plugins.map fun d => (d.name, d.path)⟩,
        ⟨"Plugin kinds", [("Registered", ", ".intercalate page.kinds)]⟩,
        ⟨"Request headers", page.headers⟩]
    Html.read page.render =
      ("", openingPieces ++ tables.flatMap InfoTable.pieces ++ closingPieces) ∧
    (Html.read page.render).2.map (·.markup) = markup page.plugins.length page.headers.length := by
  intro c p tables
  have hread : Html.read page.render = ("", page.pieces) := page.reads_render.read_eq
  refine ⟨hread, ?_⟩
  rw [hread]
  exact page.map_markup_pieces

/-- A page whose texts look like markup and like references. -/
theorem read_render_of_hostile :
    let page : InfoPage :=
      { client :=
          { ip := .v4 ⟨10, 0, 0, 5⟩, reverseName := "<b>.lab&amp;.org", name := "host7>"
            derivedHostname := "<b>", hardwareAddress := "\"", classes := ["default", "a>b"]
            architecture := some "&", distro := "'", node := none }
        params := { client := some "</td>", classes := ["<script>", "'\""] }
        plugins := [⟨"Alpha", "plugins/<!-- a.yaml"⟩], kinds := ["Directives", "Netcfg"]
        headers := [("x-test", "</table>&lt;")] }
    let pieces := (Html.read page.render).2
    pieces.map (·.markup) = markup 1 1 ∧
      (pieces.filter (·.markup == "td")).map (·.text) =
        ["10.0.0.5", "<b>.lab&amp;.org", "host7>", "<b>", "lab&amp;.org", "\"", "&", "'", "",
          "default, a>b", "</td>", "<script>, '\"", "", "", "", "", "", "", "plugins/<!-- a.yaml",
          "Directives, Netcfg", "</table>&lt;"] := by
  intro page pieces
  obtain ⟨hread, hmarkup⟩ := read_render page
  refine ⟨hmarkup, ?_⟩
  change ((Html.read page.render).2.filter (·.markup == "td")).map (·.text) = _
  rw [hread]
  decide +kernel

end InfoPage

end Preseed
