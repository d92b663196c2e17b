import RestContract.Command.Arguments
import RestContract.Command.Help
import RestContract.Command.Invocation
import RestContract.Command.LogFilter
import RestContract.Command.Run
import RestContract.Compilation
import RestContract.CompileError
import RestContract.Data.Node
import RestContract.Data.SortedMap
import RestContract.Descriptor.Basic
import RestContract.Descriptor.Reading
import RestContract.Document.Basic
import RestContract.Document.Encoding
import RestContract.Document.Route
import RestContract.Endpoint
import RestContract.Files.Basic
import RestContract.Files.Path
import RestContract.Files.Tree
import RestContract.Json.Basic
import RestContract.Json.Decoding
import RestContract.Json.Printing
import RestContract.Json.Reading
import RestContract.Log
import RestContract.Main
import RestContract.Naming
import RestContract.Options
import RestContract.OptionsFile
import RestContract.Output
import RestContract.Proofs.Attachments
import RestContract.Proofs.BreadthFirstWalk
import RestContract.Proofs.CatalogHistory
import RestContract.Proofs.CatalogOrder
import RestContract.Proofs.Catalogs
import RestContract.Proofs.CollisionPolicies
import RestContract.Proofs.CompileErrors
import RestContract.Proofs.CompletionOrder
import RestContract.Proofs.ComponentClosure
import RestContract.Proofs.ComponentGrowth
import RestContract.Proofs.Congruences
import RestContract.Proofs.Constructions
import RestContract.Proofs.ContainerShapes
import RestContract.Proofs.DescendantWalk
import RestContract.Proofs.DescriptorGrammar
import RestContract.Proofs.DescriptorOffsets
import RestContract.Proofs.DescriptorRefusals
import RestContract.Proofs.DescriptorTexts
import RestContract.Proofs.DocumentReading
import RestContract.Proofs.DocumentRoutes
import RestContract.Proofs.Endpoints
import RestContract.Proofs.FailedResolutions
import RestContract.Proofs.FileTrees
import RestContract.Proofs.FirstMeetings
import RestContract.Proofs.GrowingRuns
import RestContract.Proofs.Growth
import RestContract.Proofs.InterfaceCongruences
import RestContract.Proofs.JsonRecords
import RestContract.Proofs.LeafComponents
import RestContract.Proofs.LeafDiscriminators
import RestContract.Proofs.Ledger
import RestContract.Proofs.LenientCompilation
import RestContract.Proofs.LogIndependence
import RestContract.Proofs.NearestFirst
import RestContract.Proofs.NestingLimit
import RestContract.Proofs.OperationIds
import RestContract.Proofs.ParameterPlacement
import RestContract.Proofs.PassAttachments
import RestContract.Proofs.Passes
import RestContract.Proofs.PolymorphicComponents
import RestContract.Proofs.ReachableComponents
import RestContract.Proofs.Registries
import RestContract.Proofs.RegistryClaims
import RestContract.Proofs.RepeatedResolutions
import RestContract.Proofs.RequestWrappers
import RestContract.Proofs.ResolutionLevels
import RestContract.Proofs.ResolutionPaths
import RestContract.Proofs.ResolvedShapes
import RestContract.Proofs.Resolvers
import RestContract.Proofs.SchemaReading
import RestContract.Proofs.SchemaReferences
import RestContract.Proofs.Serving
import RestContract.Proofs.Sessions
import RestContract.Proofs.SortedMaps
import RestContract.Proofs.SourceReading
import RestContract.Proofs.TracedGrowth
import RestContract.Proofs.TracedServing
import RestContract.Proofs.TypePositions
import RestContract.Proofs.UnusedTypes
import RestContract.Proofs.WrittenDocuments
import RestContract.Registry
import RestContract.Resolution.Attachment
import RestContract.Resolution.Container
import RestContract.Resolution.Descendants
import RestContract.Resolution.Pass
import RestContract.Resolution.Resolver
import RestContract.Resolution.Scalar
import RestContract.Schema.Basic
import RestContract.Schema.Encoding
import RestContract.Source.Basic
import RestContract.Source.Catalog
import RestContract.Source.File
import RestContract.Text.Alphanumeric
import RestContract.Text.CaseMapping
import RestContract.Text.Character
import RestContract.Text.LetterCase
import RestContract.Text.Quoted
import RestContract.Toml.Decoding
import RestContract.Toml.Reading
import RestContract.Toml.Text
import RestContract.Toml.Value
import RestContract.Yaml.Anchors
import RestContract.Yaml.BlockScalar
import RestContract.Yaml.Cursor
import RestContract.Yaml.Decoding
import RestContract.Yaml.FlowScalar
import RestContract.Yaml.Grammar
import RestContract.Yaml.Lexer
import RestContract.Yaml.Numeral
import RestContract.Yaml.Printing
import RestContract.Yaml.Syntax
import RestContract.Yaml.Tag
