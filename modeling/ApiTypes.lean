import ApiTypes.Text.Case
import ApiTypes.Text.Digit
import ApiTypes.Text.Printable
import ApiTypes.Text.Split
import ApiTypes.Json.Reader
import ApiTypes.Json.Writer
import ApiTypes.Json.Display
import ApiTypes.Failure
import ApiTypes.NameSet
import ApiTypes.Naming
import ApiTypes.Endpoint.Collision
import ApiTypes.Schema
import ApiTypes.Dependency
import ApiTypes.Dialect
import ApiTypes.UrlTree
import ApiTypes.UrlTemplate
import ApiTypes.Generation
import ApiTypes.ModulePath
import ApiTypes.Disk
import ApiTypes.Output
import ApiTypes.Source
import ApiTypes.Settings
import ApiTypes.CommandLine
import ApiTypes.Main
import ApiTypes.Proofs.EndpointNames
import ApiTypes.Proofs.UrlTree.Contents
import ApiTypes.Proofs.UrlTree.Build
import ApiTypes.Proofs.TypeText.Reader
import ApiTypes.Proofs.TypeText.Constants
import ApiTypes.Proofs.SchemaRules
import ApiTypes.Proofs.TypeText.Grouping
import ApiTypes.Proofs.TypeText.Precedence
import ApiTypes.Proofs.Declarations
import ApiTypes.Proofs.Generation
import ApiTypes.Proofs.NameText
import ApiTypes.Proofs.UrlTree.Losses
import ApiTypes.Proofs.Imports
import ApiTypes.Proofs.Operations
import ApiTypes.Proofs.TypeNames
import ApiTypes.Proofs.Written
import ApiTypes.Proofs.UrlTemplate
import ApiTypes.Proofs.SchemaTypes
import ApiTypes.Proofs.TextLiteral
import ApiTypes.Proofs.OlderDocuments
import ApiTypes.Proofs.BodyParameters
import ApiTypes.Proofs.OlderResponses
import ApiTypes.Proofs.KeySpaces
import ApiTypes.Proofs.Confined
import ApiTypes.Proofs.BareNames
import ApiTypes.Proofs.Aliases
import ApiTypes.Proofs.Agreement
import ApiTypes.Proofs.OtherSchemas
import ApiTypes.Proofs.ExportLines
import ApiTypes.Proofs.Reexports
import ApiTypes.Proofs.NamePolicy
import ApiTypes.Proofs.Reachable
import ApiTypes.Proofs.Reordered
import ApiTypes.Proofs.Circles
import ApiTypes.Proofs.UncontestedNames
import ApiTypes.Proofs.ShapedProperties
import ApiTypes.Proofs.WrittenText
import ApiTypes.Proofs.UrlTree.Faithful
import ApiTypes.Proofs.ParameterOrder
import ApiTypes.Proofs.ReferenceNames
import ApiTypes.Proofs.CollectedParameters
import ApiTypes.Proofs.Notes
import ApiTypes.Proofs.ImportPaths
import ApiTypes.Proofs.ShapeSearch
import ApiTypes.Proofs.CollapsedBranches
import ApiTypes.Proofs.EmittedParameters
import ApiTypes.Proofs.NumberedPlaces
import ApiTypes.Proofs.Loading
