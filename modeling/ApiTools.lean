import ApiTools.Report
import ApiTools.Json.Reader
import ApiTools.Table
import ApiTools.Tool.Compile
import ApiTools.Integration.Basic
import ApiTools.Registry
import ApiTools.Proxy.Settings
import ApiTools.Proxy.Action
import ApiTools.Proxy.Downstream
import ApiTools.Proxy.Execution
import ApiTools.Specification.Text
import ApiTools.Session
import ApiTools.CommandLine.Run
import ApiTools.Library
import ApiTools.Standard
import ApiTools.Main
import ApiTools.Proofs.Value.Entries
import ApiTools.Proofs.Table.LastDefinition
import ApiTools.Proofs.Registry.Merging
import ApiTools.Proofs.Tool.Pairs
import ApiTools.Proofs.Specification.FileName
import ApiTools.Proofs.Specification.Assembly
import ApiTools.Proofs.Specification.Schedule
import ApiTools.Proofs.Specification.Isolation
import ApiTools.Proofs.Integration.Ownership
import ApiTools.Proofs.Integration.Routing
import ApiTools.Proofs.Schema.Validity
import ApiTools.Proofs.Schema.Conversion
import ApiTools.Proofs.Specification.Concurrency
import ApiTools.Proofs.Number.Pattern
import ApiTools.Proofs.Parameter.Merging
import ApiTools.Proofs.Tool.Operations
import ApiTools.Proofs.Tool.Interface
import ApiTools.Proofs.Tool.Naming
import ApiTools.Proofs.Path.Cutting
import ApiTools.Proofs.Path.Occurrence
import ApiTools.Proofs.Proxy.Path
import ApiTools.Proofs.Http.FormReading
import ApiTools.Proofs.Proxy.Query
import ApiTools.Proofs.Proxy.Relevance
import ApiTools.Proofs.Proxy.Lookup
import ApiTools.Proofs.Session.Publication
import ApiTools.Proofs.Parameter.Undeclared
import ApiTools.Proofs.Tool.Notices
import ApiTools.Proofs.Tool.PathNames
import ApiTools.Proofs.Tool.PathText
import ApiTools.Proofs.Http.Server
import ApiTools.Proofs.Proxy.Confinement
import ApiTools.Proofs.Specification.Accounting
import ApiTools.Proofs.Json.Reading
import ApiTools.Proofs.Schema.Plain
import ApiTools.Proofs.Specification.Plain
import ApiTools.Proofs.Yaml.Keyed
import ApiTools.Proofs.Specification.References
import ApiTools.Proofs.Specification.Placing
import ApiTools.Proofs.Specification.InPlaces
import ApiTools.Proofs.Files
import ApiTools.Proofs.Specification.Termination
import ApiTools.Proofs.Specification.Dereferencing
import ApiTools.Proofs.Schema.Structure
import ApiTools.Proofs.Schema.Idempotence
import ApiTools.Proofs.Tool.Requirements
import ApiTools.Proofs.Json.Writing
import ApiTools.Proofs.Proxy.Content
import ApiTools.Proofs.Proxy.Exchange
import ApiTools.Proofs.Yaml.Refusals
import ApiTools.Proofs.Specification.Reading
import ApiTools.Proofs.Fault
import ApiTools.Proofs.Files.Enumeration
import ApiTools.Proofs.Specification.Discovery
import ApiTools.Proofs.Text.Replacing
import ApiTools.Proofs.Tool.ServerUrl
import ApiTools.Proofs.Proxy.Building
import ApiTools.Proofs.CommandLine.Tools
import ApiTools.Proofs.CommandLine.Invoke
import ApiTools.Proofs.Parameter.LastDeclaration
