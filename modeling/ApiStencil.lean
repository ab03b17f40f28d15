import ApiStencil.Api.Basic
import ApiStencil.Api.Dump
import ApiStencil.Api.Expansion
import ApiStencil.Command.Arguments
import ApiStencil.Command.Config
import ApiStencil.Command.Generate
import ApiStencil.Command.Inspect
import ApiStencil.Command.LogFilter
import ApiStencil.Command.Output
import ApiStencil.Command.Run
import ApiStencil.Decimal.Double
import ApiStencil.Decimal.Shortest
import ApiStencil.Decoding.Node
import ApiStencil.Decoding.Reader
import ApiStencil.Dict
import ApiStencil.Disk.Access
import ApiStencil.Disk.Path
import ApiStencil.Disk.Tree
import ApiStencil.Document.Basic
import ApiStencil.Document.Shape
import ApiStencil.Endpoint.Basic
import ApiStencil.Endpoint.Expansion
import ApiStencil.EnumDescription
import ApiStencil.Fault
import ApiStencil.Fault.Read
import ApiStencil.Json.Basic
import ApiStencil.Json.Printer
import ApiStencil.Json.Reader
import ApiStencil.Json.Scalar
import ApiStencil.Main
import ApiStencil.Model.Basic
import ApiStencil.Model.Combine
import ApiStencil.Model.Expansion
import ApiStencil.Naming
import ApiStencil.Plan.Basic
import ApiStencil.Plan.Generation
import ApiStencil.Plan.Layout
import ApiStencil.Proofs.Api.Expansion
import ApiStencil.Proofs.Api.GroupNames
import ApiStencil.Proofs.Api.Order
import ApiStencil.Proofs.Api.Outline
import ApiStencil.Proofs.Api.References
import ApiStencil.Proofs.Api.Servers
import ApiStencil.Proofs.Command.Configuration
import ApiStencil.Proofs.Command.Failure
import ApiStencil.Proofs.Command.Frame
import ApiStencil.Proofs.Command.Inspection
import ApiStencil.Proofs.Command.Output
import ApiStencil.Proofs.Command.OutputTree
import ApiStencil.Proofs.Command.Reading
import ApiStencil.Proofs.Command.Regeneration
import ApiStencil.Proofs.Command.Stored
import ApiStencil.Proofs.Decoding.Mapping
import ApiStencil.Proofs.Decoding.Record
import ApiStencil.Proofs.Dict
import ApiStencil.Proofs.Disk.Aim
import ApiStencil.Proofs.Disk.Change
import ApiStencil.Proofs.Disk.Directories
import ApiStencil.Proofs.Disk.Effect
import ApiStencil.Proofs.Disk.Growth
import ApiStencil.Proofs.Disk.Path
import ApiStencil.Proofs.Disk.Rewritten
import ApiStencil.Proofs.Disk.SameTree
import ApiStencil.Proofs.Disk.Walk
import ApiStencil.Proofs.Document.PathItem
import ApiStencil.Proofs.Endpoint.ArgumentNames
import ApiStencil.Proofs.Endpoint.Arguments
import ApiStencil.Proofs.Endpoint.Expansion
import ApiStencil.Proofs.Endpoint.Faults
import ApiStencil.Proofs.Endpoint.Groups
import ApiStencil.Proofs.Endpoint.Interpolation
import ApiStencil.Proofs.Endpoint.Overrides
import ApiStencil.Proofs.Endpoint.Relevance
import ApiStencil.Proofs.Endpoint.Spelling
import ApiStencil.Proofs.Endpoint.Typed
import ApiStencil.Proofs.EnumDescription
import ApiStencil.Proofs.FirstFault
import ApiStencil.Proofs.Model.Cases
import ApiStencil.Proofs.Model.Combination
import ApiStencil.Proofs.Model.Combine
import ApiStencil.Proofs.Model.Composition
import ApiStencil.Proofs.Model.Copies
import ApiStencil.Proofs.Model.Documentation
import ApiStencil.Proofs.Model.Expansion
import ApiStencil.Proofs.Model.Faults
import ApiStencil.Proofs.Model.Names
import ApiStencil.Proofs.Model.Properties
import ApiStencil.Proofs.Model.Strictness
import ApiStencil.Proofs.Model.Typed
import ApiStencil.Proofs.Naming
import ApiStencil.Proofs.Plan.Collisions
import ApiStencil.Proofs.Plan.Contexts
import ApiStencil.Proofs.Plan.Files
import ApiStencil.Proofs.Plan.Outputs
import ApiStencil.Proofs.Plan.ProjectFiles
import ApiStencil.Proofs.Reference
import ApiStencil.Proofs.Reference.Triplets
import ApiStencil.Proofs.Sorting
import ApiStencil.Proofs.Text
import ApiStencil.Proofs.Text.Replacement
import ApiStencil.Proofs.Text.Splitting
import ApiStencil.Proofs.Text.Utf8
import ApiStencil.Proofs.Trace
import ApiStencil.Proofs.Typing.Domain
import ApiStencil.Proofs.Typing.Expansion
import ApiStencil.Reference
import ApiStencil.Template.Basic
import ApiStencil.Template.Bundle
import ApiStencil.Template.Engine
import ApiStencil.Template.Expression
import ApiStencil.Template.Parts
import ApiStencil.Template.Pieces
import ApiStencil.Template.Render
import ApiStencil.Template.Value
import ApiStencil.Text.Case
import ApiStencil.Text.CaseTable
import ApiStencil.Text.Hex
import ApiStencil.Text.PrintTable
import ApiStencil.Text.Quoted
import ApiStencil.Text.Split
import ApiStencil.Text.Utf8
import ApiStencil.Trace
import ApiStencil.Typing.Expansion
import ApiStencil.Typing.Shape
import ApiStencil.Typing.TypeRef
import ApiStencil.Typing.Vocabulary
import ApiStencil.Yaml.Block
import ApiStencil.Yaml.Chars
import ApiStencil.Yaml.Folding
import ApiStencil.Yaml.Plain
import ApiStencil.Yaml.Printer
import ApiStencil.Yaml.Quoted
import ApiStencil.Yaml.Reader
import ApiStencil.Yaml.Scalar
import ApiStencil.Yaml.Tag
import ApiStencil.Yaml.Token
import ApiStencil.Yaml.Tokens
import ApiStencil.Yaml.Tree
