import Preseed.Cli.Help
import Preseed.Cli.Options
import Preseed.Cli.Render
import Preseed.Client.Basic
import Preseed.Client.Link
import Preseed.Client.Params
import Preseed.Directory.Basic
import Preseed.Directory.Classes
import Preseed.Directory.Entry
import Preseed.Directory.Filter
import Preseed.Directory.Ldap
import Preseed.Files.Basic
import Preseed.Http.Basic
import Preseed.Http.Headers
import Preseed.Http.Target
import Preseed.Ini
import Preseed.Json.Basic
import Preseed.Json.Token
import Preseed.Lifecycle
import Preseed.Main
import Preseed.Net.Address
import Preseed.Net.Domain
import Preseed.Net.Domain.Direction
import Preseed.Net.Domain.Joining
import Preseed.Net.Domain.Mapping
import Preseed.Net.Domain.Punycode
import Preseed.Net.Form
import Preseed.Net.Hardware
import Preseed.Net.Percent
import Preseed.Net.Url.Basic
import Preseed.Net.Url.Parser
import Preseed.Number.Double
import Preseed.Output.Basic
import Preseed.Output.Directive
import Preseed.Plugin.Basic
import Preseed.Plugin.Definition
import Preseed.Plugin.Directives
import Preseed.Plugin.LdapDirectives
import Preseed.Plugin.Load
import Preseed.Plugin.Netcfg
import Preseed.Plugin.Registry
import Preseed.Program
import Preseed.Proofs.Cli.Rehearsal
import Preseed.Proofs.Client.CommandLine
import Preseed.Proofs.Client.Dropped
import Preseed.Proofs.Client.Expansion
import Preseed.Proofs.Client.Link
import Preseed.Proofs.Client.LinkQuery
import Preseed.Proofs.Client.Query
import Preseed.Proofs.Client.Safety
import Preseed.Proofs.Client.Steps
import Preseed.Proofs.Client.Tokens
import Preseed.Proofs.Client.Values
import Preseed.Proofs.Directory.Components
import Preseed.Proofs.Directory.Grammar
import Preseed.Proofs.Directory.Lookup
import Preseed.Proofs.Directory.Matching
import Preseed.Proofs.Directory.Reading
import Preseed.Proofs.Directory.Scopes
import Preseed.Proofs.Directory.Values
import Preseed.Proofs.Files.Listing
import Preseed.Proofs.Http.Host
import Preseed.Proofs.Lifecycle.Calls
import Preseed.Proofs.Lifecycle.Closing
import Preseed.Proofs.Lifecycle.Confinement
import Preseed.Proofs.Lifecycle.Frame
import Preseed.Proofs.Lifecycle.Layout
import Preseed.Proofs.Lifecycle.Reuse
import Preseed.Proofs.Lifecycle.Steps
import Preseed.Proofs.Net.Address
import Preseed.Proofs.Net.AddressText
import Preseed.Proofs.Net.Form
import Preseed.Proofs.Net.Hardware
import Preseed.Proofs.Net.HardwareSearch
import Preseed.Proofs.Net.HardwareTable
import Preseed.Proofs.Net.Url
import Preseed.Proofs.Output.Directive
import Preseed.Proofs.Output.Rendering
import Preseed.Proofs.Plugin.Discovery
import Preseed.Proofs.Plugin.HostName
import Preseed.Proofs.Plugin.Kinds
import Preseed.Proofs.Plugin.Liveness
import Preseed.Proofs.Plugin.Loading
import Preseed.Proofs.Plugin.Lookups
import Preseed.Proofs.Plugin.Registrations
import Preseed.Proofs.Plugin.Repetition
import Preseed.Proofs.Plugin.Restriction
import Preseed.Proofs.Plugin.Sections
import Preseed.Proofs.Record.Fields
import Preseed.Proofs.Record.Views
import Preseed.Proofs.Service.Callback
import Preseed.Proofs.Service.Classes
import Preseed.Proofs.Service.Failure
import Preseed.Proofs.Service.Info
import Preseed.Proofs.Service.InfoPage
import Preseed.Proofs.Service.Neighbours
import Preseed.Proofs.Service.Sessions
import Preseed.Proofs.Settings.Loading
import Preseed.Proofs.Settings.Meaning
import Preseed.Proofs.Settings.Nodes
import Preseed.Proofs.Settings.Numbers
import Preseed.Proofs.Settings.Overlay
import Preseed.Proofs.Settings.Scalars
import Preseed.Proofs.Settings.Sections
import Preseed.Proofs.Shell.Quoting
import Preseed.Proofs.Shell.Token
import Preseed.Proofs.Text.Ascii
import Preseed.Proofs.Text.Edits
import Preseed.Proofs.Text.Html
import Preseed.Proofs.Text.Lines
import Preseed.Proofs.Text.OneLine
import Preseed.Proofs.Text.Split
import Preseed.Proofs.Text.Utf8
import Preseed.Record.Problem
import Preseed.Record.Source
import Preseed.Service.Basic
import Preseed.Service.Error
import Preseed.Service.InfoPage
import Preseed.Service.Resolver
import Preseed.Settings.Basic
import Preseed.Settings.Format
import Preseed.Settings.Layer
import Preseed.Settings.Load
import Preseed.Settings.Raw
import Preseed.Settings.Read
import Preseed.Text.Ascii
import Preseed.Text.Blank
import Preseed.Text.Canonical
import Preseed.Text.Canonical.Table
import Preseed.Text.Html
import Preseed.Text.Lines
import Preseed.Text.Quoted
import Preseed.Text.Ranges
import Preseed.Text.Replacement
import Preseed.Text.Shell
import Preseed.Text.Split
import Preseed.Text.Table
import Preseed.Text.Uppercase
import Preseed.Text.Utf8
import Preseed.Text.Word
import Preseed.Toml.Basic
import Preseed.Toml.Moment
import Preseed.Toml.Text
import Preseed.Yaml.Cursor
import Preseed.Yaml.Field
import Preseed.Yaml.Node
import Preseed.Yaml.Plain
import Preseed.Yaml.Scalar
import Preseed.Yaml.Token
import Preseed.Yaml.Value
