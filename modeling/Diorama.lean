import Diorama.Assets.Asset
import Diorama.Assets.Registry
import Diorama.CommandLine.Arguments
import Diorama.CommandLine.Command
import Diorama.CommandLine.Files
import Diorama.CommandLine.Number
import Diorama.Decimal.Numeral
import Diorama.Decimal.Shortest
import Diorama.Dictionary
import Diorama.Geometry.Box
import Diorama.Geometry.Color
import Diorama.Geometry.Transform
import Diorama.Geometry.Vec3
import Diorama.Json.Basic
import Diorama.Json.Dialect
import Diorama.Json.Form
import Diorama.Json.Number
import Diorama.Json.Printer
import Diorama.Json.Reader
import Diorama.Json.Record
import Diorama.Json.Token
import Diorama.Main
import Diorama.Pipeline.Assembly
import Diorama.Pipeline.Config
import Diorama.Pipeline.Context
import Diorama.Pipeline.Contract
import Diorama.Pipeline.Design
import Diorama.Pipeline.Draft
import Diorama.Pipeline.FreshId
import Diorama.Pipeline.Generator
import Diorama.Pipeline.Loose
import Diorama.Pipeline.Review
import Diorama.Pipeline.Run
import Diorama.Pipeline.Stage
import Diorama.Pipeline.Template
import Diorama.Pipeline.Verdict
import Diorama.Scalar
import Diorama.Spatial.Collision
import Diorama.Spatial.Grid
import Diorama.Spatial.Placement
import Diorama.Spatial.Query
import Diorama.Spatial.Rings
import Diorama.Text.Blank
import Diorama.Text.Case
import Diorama.Text.CaseTable
import Diorama.Text.Printable
import Diorama.Text.Quoted
import Diorama.Validation.Default
import Diorama.Validation.Issue
import Diorama.Validation.Numeral
import Diorama.Validation.Rules.Hierarchy
import Diorama.Validation.Rules.Identity
import Diorama.Validation.Rules.Layout
import Diorama.Validation.Rules.Ranges
import Diorama.Validation.Rules.References
import Diorama.Validation.Validator
import Diorama.World.Basic
import Diorama.World.Entity
import Diorama.World.Environment
import Diorama.World.Hierarchy
import Diorama.World.Light
import Diorama.World.Material
import Diorama.World.Mechanism
import Diorama.World.Physics
import Diorama.Yaml.Dialect
import Diorama.Yaml.Reader
import Diorama.Proofs.Hierarchy.Ancestry
import Diorama.Proofs.Hierarchy.Entities
import Diorama.Proofs.Hierarchy.Consistency
import Diorama.Proofs.Hierarchy.CycleSearch
import Diorama.Proofs.NameSet
import Diorama.Proofs.Scalar.Order
import Diorama.Proofs.Validation.Clean
import Diorama.Proofs.Validation.Ranges
import Diorama.Proofs.Validation.Structure
import Diorama.Proofs.Validation.Soundness
import Diorama.Proofs.Pipeline.Stages
import Diorama.Proofs.Pipeline.Passes
import Diorama.Proofs.Pipeline.Approval
import Diorama.Proofs.Pipeline.Calls
import Diorama.Proofs.Pipeline.Comparison
import Diorama.Proofs.Pipeline.Notes
import Diorama.Proofs.Validation.Codes
import Diorama.Proofs.Drafts.Identifiers
import Diorama.Proofs.Drafts.Assembly
import Diorama.Proofs.Drafts.Worlds
import Diorama.Proofs.Dictionary
import Diorama.Proofs.Hierarchy.Adoption
import Diorama.Proofs.Hierarchy.Batches
import Diorama.Proofs.Json.LawfulForm
import Diorama.Proofs.Spatial.Collisions
import Diorama.Proofs.World.Forms
import Diorama.Proofs.World.ValueForm
import Diorama.Proofs.Assets.Index
import Diorama.Proofs.Assets.Registry
import Diorama.Proofs.Decimal.Digits
import Diorama.Proofs.Decimal.Shortest
import Diorama.Proofs.Decimal.Spelling
import Diorama.Proofs.Json.Nesting
import Diorama.Proofs.Json.ReadRecord
import Diorama.Proofs.Json.Readable
import Diorama.Proofs.Json.Retention
import Diorama.Proofs.Pipeline.Forms
import Diorama.Proofs.Pipeline.Payloads
import Diorama.Proofs.Pipeline.Retention
import Diorama.Proofs.Json.Reopening
import Diorama.Proofs.Json.ShallowForm
import Diorama.Proofs.World.Rereading
import Diorama.Proofs.World.TextForm
import Diorama.Proofs.Assets.Manifest
import Diorama.Proofs.Hierarchy.CycleChecks
import Diorama.Proofs.Json.SteadyForm
import Diorama.Proofs.Pipeline.History
import Diorama.Proofs.Scalar.Products
import Diorama.Proofs.Spatial.Placement
import Diorama.Proofs.Pipeline.SteadyForms
import Diorama.Proofs.Pipeline.TemplateAnswers
import Diorama.Proofs.Pipeline.TemplateSpots
import Diorama.Proofs.Pipeline.TemplateWorld
import Diorama.Proofs.Pipeline.TemplateRun
import Diorama.Proofs.Hierarchy.CycleIssues
import Diorama.Proofs.Scalar.Monotone
import Diorama.Proofs.Scalar.Operations
import Diorama.Proofs.Scalar.Level
import Diorama.Proofs.Scalar.Arithmetic
import Diorama.Proofs.Scalar.Floor
import Diorama.Proofs.Scalar.Squares
import Diorama.Proofs.Spatial.Distance
import Diorama.Proofs.Spatial.Grid
import Diorama.Proofs.Spatial.Radius
import Diorama.Proofs.Spatial.Reach
import Diorama.Proofs.Spatial.Greedy
import Diorama.Proofs.Hierarchy.Removals
import Diorama.Proofs.Hierarchy.Rebuilding
import Diorama.Proofs.Scalar.Extremes
import Diorama.Proofs.Spatial.Extent
import Diorama.Proofs.Text.Marks
import Diorama.Proofs.Json.Tokens
import Diorama.Proofs.Pipeline.Answers
import Diorama.Proofs.Json.Path
import Diorama.Proofs.World.Shape
import Diorama.Proofs.Json.Exchange
import Diorama.Proofs.World.Strictness
