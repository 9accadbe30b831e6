import SpecForge.Main
import SpecForge.Proofs.Text.Read
import SpecForge.Proofs.Name
import SpecForge.Proofs.Model.FreshName
import SpecForge.Proofs.Model.Reader
import SpecForge.Proofs.Model.Field
import SpecForge.Proofs.Model.Swift
import SpecForge.Proofs.Lines
import SpecForge.Proofs.Model.Kotlin
import SpecForge.Proofs.Model.TypeScript
import SpecForge.Proofs.Model.Schema
import SpecForge.Proofs.Plugin.Files
import SpecForge.Proofs.Project.Tree
import SpecForge.Proofs.Project.Writes
import SpecForge.Proofs.Command.Emission
import SpecForge.Proofs.Command.Plan
import SpecForge.Proofs.Project.Target
import SpecForge.Proofs.Project.Schemas
import SpecForge.Proofs.Command.Outputs
import SpecForge.Proofs.Command.KeptFiles
import SpecForge.Proofs.Command.ModelFiles
import SpecForge.Proofs.Api.Endpoints
import SpecForge.Proofs.Shape.Fits
import SpecForge.Proofs.Shape.Api
import SpecForge.Proofs.Shape.Schema
import SpecForge.Proofs.Shape.Tokens
import SpecForge.Proofs.Shape.Document
import SpecForge.Proofs.Command.Single
import SpecForge.Proofs.Command.Inside
import SpecForge.Proofs.Api.Reader
import SpecForge.Proofs.Api.Swift
import SpecForge.Proofs.Api.Kotlin
import SpecForge.Proofs.Api.TypeScript
import SpecForge.Proofs.Api.Client
import SpecForge.Proofs.TypeName
import SpecForge.Proofs.Api.Spot
import SpecForge.Proofs.Api.Printed
import SpecForge.Proofs.Api.References
import SpecForge.Proofs.Model.Lists
import SpecForge.Proofs.Model.Agreement
import SpecForge.Proofs.Outcome
import SpecForge.Proofs.Theme.Printable
import SpecForge.Proofs.Command.Refusal
import SpecForge.Proofs.Command.NewProject
import SpecForge.Proofs.Decimal.Range
import SpecForge.Proofs.Document.Plain
import SpecForge.Proofs.Generator.Plain
import SpecForge.Proofs.Generator.Files
import SpecForge.Proofs.Shape.Members
import SpecForge.Proofs.Document.Alike
import SpecForge.Proofs.Project.Present
import SpecForge.Proofs.Project.SavedConfig
import SpecForge.Proofs.Project.OtherText
import SpecForge.Proofs.Command.Order
import SpecForge.Proofs.Generator.FileName
import SpecForge.Proofs.Project.Platforms
import SpecForge.Proofs.Command.Platforms
import SpecForge.Proofs.Name.Respelling
import SpecForge.Proofs.Api.Names
import SpecForge.Proofs.Registry
import SpecForge.Proofs.Lines.Declaration
import SpecForge.Proofs.Api.ContentType
import SpecForge.Proofs.Name.Hyphens
import SpecForge.Proofs.Theme.Group
import SpecForge.Proofs.Theme.Reader
import SpecForge.Proofs.Theme.Swift
import SpecForge.Proofs.Theme.Kotlin
import SpecForge.Proofs.Theme.TypeScript
import SpecForge.Proofs.Theme.Names
import SpecForge.Proofs.Component.View
import SpecForge.Proofs.Component.Async
import SpecForge.Proofs.Plugin.Methods
import SpecForge.Proofs.Plugin.Wiring
import SpecForge.Proofs.Plugin.Conformance
import SpecForge.Proofs.Name.Identifier
import SpecForge.Proofs.Model.FieldNames
import SpecForge.Proofs.Theme.BareEntries
import SpecForge.Proofs.Theme.TypeScale
import SpecForge.Proofs.Theme.References
import SpecForge.Proofs.Text.Blank
import SpecForge.Proofs.Name.Gaps
import SpecForge.Proofs.Api.OperationIds
import SpecForge.Proofs.Text.KotlinLiteral
import SpecForge.Proofs.Generator.KotlinLiterals
import SpecForge.Proofs.Text.Literal
import SpecForge.Proofs.Api.EmbeddedText
import SpecForge.Proofs.Api.Headline
import SpecForge.Proofs.Lines.Comment
import SpecForge.Proofs.Component.Preview
import SpecForge.Proofs.Component.Calls
import SpecForge.Proofs.Component.OptionalDefault
import SpecForge.Proofs.Model.Defaults
import SpecForge.Proofs.Api.OptionalArguments
import SpecForge.Proofs.Api.OmissibleArguments
import SpecForge.Proofs.Api.PathSlots
import SpecForge.Proofs.Api.Imports
import SpecForge.Proofs.Generator.TypeNames
import SpecForge.Proofs.Decimal.Exact
import SpecForge.Proofs.Quantity
import SpecForge.Proofs.Text.LetterCase
import SpecForge.Proofs.Theme.Color
