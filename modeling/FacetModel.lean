import FacetModel.Assembly
import FacetModel.Builder
import FacetModel.Builder.Binding
import FacetModel.Builder.Registration
import FacetModel.Catalog
import FacetModel.Catalog.Declaration
import FacetModel.Catalog.Encoding
import FacetModel.Catalog.Text
import FacetModel.ChangeSet
import FacetModel.ChangeSet.Encoding
import FacetModel.CommandLine.Options
import FacetModel.CommandLine.Session
import FacetModel.Conventions
import FacetModel.DeclaredType
import FacetModel.DeclaredType.Expression
import FacetModel.Document
import FacetModel.Environment
import FacetModel.HandlerChain
import FacetModel.Json
import FacetModel.Json.Printer
import FacetModel.Json.Text
import FacetModel.Main
import FacetModel.Mapper
import FacetModel.Model
import FacetModel.Model.Encoding
import FacetModel.NameMap
import FacetModel.Number
import FacetModel.Number.Double
import FacetModel.Number.Numeral
import FacetModel.Number.Shortest
import FacetModel.Pipeline
import FacetModel.Pipeline.Context
import FacetModel.Pipeline.Handlers
import FacetModel.Pipeline.Host
import FacetModel.Pipeline.Reference
import FacetModel.Proofs.Assembly.Conventions
import FacetModel.Proofs.Assembly.References
import FacetModel.Proofs.Assembly.Run
import FacetModel.Proofs.Builder.Binding
import FacetModel.Proofs.Builder.Build
import FacetModel.Proofs.Builder.Soundness
import FacetModel.Proofs.Builder.Steps
import FacetModel.Proofs.Conventions
import FacetModel.Proofs.DeclaredType.Grammar
import FacetModel.Proofs.DeclaredType.Reading
import FacetModel.Proofs.Json.Equality
import FacetModel.Proofs.Model.References
import FacetModel.Proofs.Pipeline.Denial
import FacetModel.Proofs.Pipeline.Placeholders
import FacetModel.Proofs.Pipeline.Sourcing
import FacetModel.Proofs.Pipeline.Steps
import FacetModel.Proofs.Pipeline.Visit
import FacetModel.Proofs.Registry
import FacetModel.Proofs.Store.Atomicity
import FacetModel.Proofs.Store.Keys
import FacetModel.Proofs.Store.Submission
import FacetModel.Query
import FacetModel.Query.Encoding
import FacetModel.Registry
import FacetModel.Remaining
import FacetModel.Scan.Masking
import FacetModel.Scan.Operations
import FacetModel.Scan.Properties
import FacetModel.Settings
import FacetModel.Settings.Layers
import FacetModel.Store
import FacetModel.Store.Evaluation
import FacetModel.Text.Blank
import FacetModel.Text.Hidden
import FacetModel.Text.Letter
import FacetModel.Text.Quoted
import FacetModel.Text.Split
import FacetModel.Tree
import FacetModel.Tree.Reading
import FacetModel.Yaml.Cursor
import FacetModel.Yaml.Printer
import FacetModel.Yaml.Reader
import FacetModel.Yaml.Scalar
import FacetModel.Yaml.Words
import FacetModel.Proofs.DeclaredType.Canonical
import FacetModel.Proofs.Pipeline.Interference
import FacetModel.Proofs.Assembly.Cancellation
import FacetModel.Proofs.Pipeline.ElementTypes
import FacetModel.Proofs.Builder.Registration
import FacetModel.Proofs.Catalog.Registry
import FacetModel.Proofs.Assembly.Order
import FacetModel.Proofs.Assembly.Failure
import FacetModel.Proofs.Store.Queries
import FacetModel.Proofs.Builder.Namespaces
import FacetModel.Proofs.Assembly.Namespaces
import FacetModel.Proofs.Store.Reordering
import FacetModel.Proofs.Tree.Reading
import FacetModel.Proofs.Query.Encoding
import FacetModel.Proofs.Catalog.Encoding
import FacetModel.Proofs.Model.Encoding
import FacetModel.Proofs.Assembly.DeclaredTypes
import FacetModel.Proofs.Builder.Bases
import FacetModel.Proofs.Builder.Recursion
import FacetModel.Proofs.Builder.Requests
import FacetModel.Proofs.Builder.Crossings
import FacetModel.Proofs.Builder.Inheritance
import FacetModel.Proofs.Model.Lineage
import FacetModel.Proofs.Pipeline.Nesting
import FacetModel.Proofs.Builder.Hierarchy
import FacetModel.Proofs.Scan.Operations
import FacetModel.Proofs.Store.Projection
import FacetModel.Proofs.Settings.Layers
import FacetModel.Proofs.Builder.Keys
import FacetModel.Proofs.Store.Evaluation
import FacetModel.Proofs.Store.Addressing
import FacetModel.Proofs.Store.Delivery
import FacetModel.Proofs.Store.Undoing
import FacetModel.Proofs.Registry.HostChain
import FacetModel.Proofs.Scan.Properties
import FacetModel.Proofs.Scan.Attachment
import FacetModel.Proofs.Assembly.Facets
import FacetModel.Proofs.Builder.Ancestry
import FacetModel.Proofs.Builder.Descent
import FacetModel.Proofs.Builder.Properties
import FacetModel.Proofs.Builder.Lookups
import FacetModel.Proofs.Registry.Lookups
import FacetModel.Proofs.Assembly.Extension
import FacetModel.Proofs.Pipeline.HostValues
