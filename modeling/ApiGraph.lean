import ApiGraph.Artifact
import ApiGraph.Binary64
import ApiGraph.Binary64.Shortest
import ApiGraph.Catalog
import ApiGraph.CommandLine.Arguments
import ApiGraph.CommandLine.Disk
import ApiGraph.CommandLine.FilePath
import ApiGraph.CommandLine.FileTree
import ApiGraph.CommandLine.Run
import ApiGraph.CommandLine.Surroundings
import ApiGraph.Compilation.Context
import ApiGraph.Compilation.Entity
import ApiGraph.Compilation.Schema
import ApiGraph.Compilation.Step
import ApiGraph.Compilation.Walk
import ApiGraph.Configuration
import ApiGraph.Delivery.FanIn
import ApiGraph.Delivery.FanOut
import ApiGraph.Delivery.Queue
import ApiGraph.Delivery.Session
import ApiGraph.Document
import ApiGraph.Document.Outline
import ApiGraph.Document.Reading
import ApiGraph.Document.Search
import ApiGraph.Document.Writing
import ApiGraph.Graph
import ApiGraph.Json
import ApiGraph.Json.Decoder
import ApiGraph.Json.Fault
import ApiGraph.Json.Printer
import ApiGraph.Json.Source
import ApiGraph.Json.Token
import ApiGraph.Library
import ApiGraph.Linking
import ApiGraph.Linking.Pattern
import ApiGraph.Location
import ApiGraph.Location.Path
import ApiGraph.Main
import ApiGraph.Options
import ApiGraph.Problem
import ApiGraph.Project
import ApiGraph.Protocol.Builder
import ApiGraph.Protocol.Format
import ApiGraph.Protocol.Rehearsal
import ApiGraph.Protocol.Standard
import ApiGraph.Report
import ApiGraph.Selection
import ApiGraph.Store
import ApiGraph.Table
import ApiGraph.Text.Character
import ApiGraph.Text.CharacterTables
import ApiGraph.Text.Identifier
import ApiGraph.Text.Numbering
import ApiGraph.Text.Quoted
import ApiGraph.Text.Similarity
import ApiGraph.Text.Split
import ApiGraph.Toml
import ApiGraph.Toml.Quoted
import ApiGraph.Toml.Reader
import ApiGraph.Toml.Scalar
import ApiGraph.WorkGroup
import ApiGraph.WorkGroup.Schedule
import ApiGraph.Proofs.FirstOccurrence
import ApiGraph.Proofs.Catalog.Numbering
import ApiGraph.Proofs.Linking.Chains
import ApiGraph.Proofs.Linking.Following
import ApiGraph.Proofs.Linking.WellFormed
import ApiGraph.Proofs.Linking.Cycles
import ApiGraph.Proofs.Linking.CycleReports
import ApiGraph.Proofs.Linking.Faults
import ApiGraph.Proofs.Linking.Outcome
import ApiGraph.Proofs.Compilation.Edges
import ApiGraph.Proofs.Compilation.Execution
import ApiGraph.Proofs.Compilation.Gains
import ApiGraph.Proofs.Compilation.Entities
import ApiGraph.Proofs.Compilation.Stores
import ApiGraph.Proofs.Compilation.Linked
import ApiGraph.Proofs.Compilation.Assembled
import ApiGraph.Proofs.Compilation.Renumbering
import ApiGraph.Proofs.Linking.Writing
import ApiGraph.Proofs.Project.Sources
import ApiGraph.Proofs.Project.Discovery
import ApiGraph.Proofs.Graph.Linked
import ApiGraph.Proofs.Graph.Overrides
import ApiGraph.Proofs.Project.Graphs
import ApiGraph.Proofs.Compilation.Targets
import ApiGraph.Proofs.Project.Structure
import ApiGraph.Proofs.Document.Pointers
import ApiGraph.Proofs.Json.Decoding
import ApiGraph.Proofs.Json.Restoring
import ApiGraph.Proofs.Json.Codecs
import ApiGraph.Proofs.Json.Places
import ApiGraph.Proofs.Json.Folding
import ApiGraph.Proofs.Json.Literals
import ApiGraph.Proofs.Json.Numbers
import ApiGraph.Proofs.Json.Scanning
import ApiGraph.Proofs.Json.Trees
import ApiGraph.Proofs.Json.Parsing
import ApiGraph.Proofs.Json.Lexing
import ApiGraph.Proofs.Json.Cutting
import ApiGraph.Proofs.Json.Records
import ApiGraph.Proofs.Document.Decoding
import ApiGraph.Proofs.Document.Forms
import ApiGraph.Proofs.Document.Codecs
import ApiGraph.Proofs.Document.Alternatives
import ApiGraph.Proofs.Compilation.Locations
import ApiGraph.Proofs.Linking.Relinking
import ApiGraph.Proofs.Graph.Protocols
import ApiGraph.Proofs.Protocol.Builders
import ApiGraph.Proofs.Compilation.Derivation
import ApiGraph.Proofs.Compilation.Visibility
import ApiGraph.Proofs.Project.Origins
import ApiGraph.Proofs.Project.Variants
import ApiGraph.Proofs.Project.VisibleServers
import ApiGraph.Proofs.Linking.Evaluation
import ApiGraph.Proofs.Linking.Reordering
import ApiGraph.Proofs.Location.Paths
import ApiGraph.Proofs.Project.RootUrls
import ApiGraph.Proofs.Compilation.Comparison
import ApiGraph.Proofs.Compilation.AllowList
import ApiGraph.Proofs.Document.Sections
import ApiGraph.Proofs.Compilation.UnknownProtocols
import ApiGraph.Proofs.Graph.Diagnostics
import ApiGraph.Proofs.Project.UnknownProtocols
import ApiGraph.Proofs.Delivery.Traffic
import ApiGraph.Proofs.Delivery.Deliveries
import ApiGraph.Proofs.Delivery.Inflow
import ApiGraph.Proofs.Delivery.Merging
import ApiGraph.Proofs.WorkGroup.Histories
import ApiGraph.Proofs.WorkGroup.Incidents
import ApiGraph.Proofs.WorkGroup.Breakdowns
import ApiGraph.Proofs.Location.Pointers
import ApiGraph.Proofs.Location.Spellings
import ApiGraph.Proofs.Compilation.Faults
import ApiGraph.Proofs.Compilation.FirstFault
import ApiGraph.Proofs.Compilation.MalformedBindings
import ApiGraph.Proofs.Project.FirstFault
import ApiGraph.Proofs.Protocol.KnownFields
import ApiGraph.Proofs.Document.Tags
import ApiGraph.Proofs.Document.Positions
import ApiGraph.Proofs.Compilation.Selectability
import ApiGraph.Proofs.Project.Reports
import ApiGraph.Proofs.Project.Kinds
import ApiGraph.Proofs.Text.Edits
import ApiGraph.Proofs.Text.Suggestions
import ApiGraph.Proofs.Project.Suggestions
import ApiGraph.Proofs.Document.Searching
import ApiGraph.Proofs.Document.Structs
import ApiGraph.Proofs.Document.Extensions
