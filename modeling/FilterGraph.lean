import FilterGraph.Address
import FilterGraph.Address.Network
import FilterGraph.Artifact
import FilterGraph.Binary64
import FilterGraph.Binary64.Shortest
import FilterGraph.Binary64.Text
import FilterGraph.Builtin
import FilterGraph.Bundle
import FilterGraph.Calendar
import FilterGraph.Coloring
import FilterGraph.CommandLine.Arguments
import FilterGraph.CommandLine.Command
import FilterGraph.DocumentFile
import FilterGraph.Event
import FilterGraph.Explanation
import FilterGraph.Export
import FilterGraph.ExportError
import FilterGraph.ExtensionError
import FilterGraph.Fault
import FilterGraph.FileTree
import FilterGraph.Finding
import FilterGraph.Graph
import FilterGraph.Graph.Document
import FilterGraph.Graph.Edit
import FilterGraph.Graph.File
import FilterGraph.Issue
import FilterGraph.Json.Failure
import FilterGraph.Json.Printer
import FilterGraph.Json.Reader
import FilterGraph.Loader
import FilterGraph.Main
import FilterGraph.Manifest
import FilterGraph.Manifest.NodeType
import FilterGraph.Manifest.Reader
import FilterGraph.NodeType
import FilterGraph.Normalization
import FilterGraph.Order
import FilterGraph.PacketPath
import FilterGraph.Param
import FilterGraph.Path
import FilterGraph.Port
import FilterGraph.Registry
import FilterGraph.Rule
import FilterGraph.Script
import FilterGraph.Settings
import FilterGraph.Settings.File
import FilterGraph.Sha256
import FilterGraph.Shell.Word
import FilterGraph.Snapshot
import FilterGraph.Snapshot.Text
import FilterGraph.StaticType
import FilterGraph.StaticType.Reader
import FilterGraph.Template
import FilterGraph.Text.Blank
import FilterGraph.Text.DecimalDigit
import FilterGraph.Text.LowerCase
import FilterGraph.Text.Printable
import FilterGraph.Text.Quoted
import FilterGraph.Text.Utf8
import FilterGraph.Unwritable
import FilterGraph.Value
import FilterGraph.Value.MemberTable
import FilterGraph.Value.Plain
import FilterGraph.Value.Text
import FilterGraph.WholeNumber
import FilterGraph.Yaml.Construction
import FilterGraph.Yaml.Cursor
import FilterGraph.Yaml.Failure
import FilterGraph.Yaml.Kind
import FilterGraph.Yaml.Node
import FilterGraph.Yaml.Printer
import FilterGraph.Yaml.Reader
import FilterGraph.Yaml.Scalar
import FilterGraph.Yaml.ScalarText
import FilterGraph.Yaml.Sheet
import FilterGraph.Yaml.TimeText
import FilterGraph.Yaml.Token
import FilterGraph.Proofs.Graph.Editing
import FilterGraph.Proofs.Graph.Invariant
import FilterGraph.Proofs.Graph.Opening
import FilterGraph.Proofs.Graph.Path
import FilterGraph.Proofs.Graph.Authored
import FilterGraph.Proofs.Graph.Ports
import FilterGraph.Proofs.Normalization.Reachability
import FilterGraph.Proofs.Normalization.CycleSearch
import FilterGraph.Proofs.Normalization.Result
import FilterGraph.Proofs.Export.Plan
import FilterGraph.Proofs.Export.Order
import FilterGraph.Proofs.Packet.Execution
import FilterGraph.Proofs.Packet.Walk
import FilterGraph.Proofs.Export.Listing
import FilterGraph.Proofs.Export.ManifestListing
import FilterGraph.Proofs.Export.Script
import FilterGraph.Proofs.Export.Chains
import FilterGraph.Proofs.Export.Routing
import FilterGraph.Proofs.Entries
import FilterGraph.Proofs.Export.Marks
import FilterGraph.Proofs.Packet.Paths
import FilterGraph.Proofs.Alike.Graph
import FilterGraph.Proofs.Alike.Normalization
import FilterGraph.Proofs.Alike.Coloring
import FilterGraph.Proofs.Alike.Export
import FilterGraph.Proofs.Graph.Extensions
import FilterGraph.Proofs.Snapshot.Json
import FilterGraph.Proofs.Snapshot.Reading
import FilterGraph.Proofs.Snapshot.Reopening
import FilterGraph.Proofs.Snapshot.Acceptance
import FilterGraph.Proofs.Graph.Refusal
import FilterGraph.Proofs.Coloring.PortStep
import FilterGraph.Proofs.Coloring.Spreading
import FilterGraph.Proofs.Coloring.Labelling
import FilterGraph.Proofs.Registry.Integrity
import FilterGraph.Proofs.Graph.Naming
import FilterGraph.Proofs.Snapshot.Saving
import FilterGraph.Proofs.Json.Compact
import FilterGraph.Proofs.Manifest.Reordering
import FilterGraph.Proofs.Manifest.Emission
import FilterGraph.Proofs.Registry.Reload
import FilterGraph.Proofs.Text.Paths
import FilterGraph.Proofs.Files.Tree
import FilterGraph.Proofs.Files.Way
import FilterGraph.Proofs.Files.Filling
import FilterGraph.Proofs.Export.Contents
import FilterGraph.Proofs.Export.Staging
import FilterGraph.Proofs.Export.Writing
import FilterGraph.Proofs.Export.Compiled
import FilterGraph.Proofs.Export.Reporting
import FilterGraph.Proofs.Export.Atomic
import FilterGraph.Proofs.Export.LeastOrder
import FilterGraph.Proofs.Normalization.Necessity
import FilterGraph.Proofs.Normalization.Recursion
import FilterGraph.Proofs.Coloring.Meeting
import FilterGraph.Proofs.Coloring.Direction
import FilterGraph.Proofs.Export.Blame
import FilterGraph.Proofs.Export.NodeLines
import FilterGraph.Proofs.Export.ChainLines
import FilterGraph.Proofs.Export.ChainUse
import FilterGraph.Proofs.Graph.Numbering
import FilterGraph.Proofs.Address.Range
import FilterGraph.Proofs.Export.Addresses
import FilterGraph.Proofs.Export.Header
import FilterGraph.Proofs.Text.Items
import FilterGraph.Proofs.Export.Ports
import FilterGraph.Proofs.Export.ListLoading
import FilterGraph.Proofs.Manifest.Substitution
import FilterGraph.Proofs.Registry.Manifests
import FilterGraph.Proofs.Graph.Dragging
import FilterGraph.Proofs.Export.Predicates
import FilterGraph.Proofs.Manifest.Placeholders
import FilterGraph.Proofs.Manifest.Shadowing
import FilterGraph.Proofs.Export.Placement
import FilterGraph.Proofs.Shell.Words
import FilterGraph.Proofs.Export.DataFiles
import FilterGraph.Proofs.Graph.Adjacency
import FilterGraph.Proofs.Loader.Names
import FilterGraph.Proofs.Loader.Lookup
