import Preseed.Client.Basic
import Preseed.Plugin.Definition
import Preseed.Program
import Preseed.Text.Html

/-!
# The info page

A page that shows what the service knows about a caller before it asks the directory: tables of keys and
values.
-/

namespace Preseed

/-- A titled table whose rows have a key and a value. -/
structure InfoTable where
  title : String
  rows : List (String × String)
  deriving DecidableEq, Repr

structure InfoPage where
  client : Client
  params : Params
  plugins : List Descriptor
  kinds : List String
  headers : List (String × String)

namespace InfoTable

def renderRow (row : String × String) : String :=
  "<tr><th>" ++ Html.escape row.1 ++ "</th><td>" ++ Html.escape row.2 ++ "</td></tr>\n"

def render (t : InfoTable) : String :=
  "<h2>" ++ Html.escape t.title ++ "</h2>\n<table>\n" ++ String.join (t.rows.map renderRow) ++
    "</table>\n"

end InfoTable

namespace InfoPage

/-- Several texts in one cell. -/
def enumerate (texts : List String) : String :=
  ", ".intercalate texts

def clientTable (c : Client) : InfoTable where
  title := "Client"
  rows :=
    [("IP address", c.ip.toString),
      ("Reverse name", c.reverseName),
      ("Name", c.name),
      ("Hostname", c.derivedHostname),
      ("Domain", c.domain.getD ""),
      ("Hardware address", c.hardwareAddress),
      ("Architecture", c.architecture.getD ""),
      ("Distribution", c.distro),
      ("Node", c.node.getD ""),
      ("Classes (before directory)", enumerate c.classes)]

def paramsTable (p : Params) : InfoTable where
  title := "Parameters"
  rows :=
    [("client", p.client.getD ""),
      ("class", enumerate p.classes),
      ("node", p.node.getD ""),
      ("arch", p.arch.getD ""),
      ("distro", p.distro.getD ""),
      ("plugin", p.plugin.getD ""),
      ("script", p.script.getD ""),
      ("v", p.version.getD "")]

/-- The tables of the page, in order. -/
def tables (page : InfoPage) : List InfoTable :=
  [clientTable page.client,
    paramsTable page.params,
    { title := "Plugin definitions", rows := page.plugins.map fun d => (d.name, d.path) },
    { title := "Plugin kinds", rows := [("Registered", enumerate page.kinds)] },
    { title := "Request headers", rows := page.headers }]

def opening : String :=
  "<!DOCTYPE html>\n<html><head><title>netpreseed info</title></head><body>\n<h1>" ++
    Html.escape (Program.name ++ " " ++ Program.version) ++ "</h1>\n"

def closing : String := "</body></html>\n"

def render (page : InfoPage) : String :=
  opening ++ String.join (page.tables.map InfoTable.render) ++ closing

end InfoPage

end Preseed
