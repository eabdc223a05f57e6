import ClientModel.Binary64.Decimal
import ClientModel.Document.Record
import ClientModel.Main
import ClientModel.Proofs.NamespaceTree
import ClientModel.Proofs.SchemaMeaning
import ClientModel.Proofs.SchemaPointers
import ClientModel.Schema.Record
import ClientModel.Types.Reading
import ClientModel.Proofs.JsonDocument
import ClientModel.Proofs.Operations
import ClientModel.Proofs.Overriding
import ClientModel.Proofs.Rejection
import ClientModel.Proofs.JsonText
import ClientModel.Proofs.Buildability
import ClientModel.Proofs.Headers
import ClientModel.Proofs.Requests
import ClientModel.Proofs.Remembering
import ClientModel.Proofs.Rendition
import ClientModel.Proofs.Additions
import ClientModel.Proofs.DeclaredSchemas
import ClientModel.Proofs.StructuralKeywords
import ClientModel.Proofs.DecodingOutcome
import ClientModel.Proofs.Reloading
import ClientModel.Proofs.Identifiers
import ClientModel.Proofs.ListedOperations
import ClientModel.Proofs.Generation
import ClientModel.Proofs.ReferenceChains
import ClientModel.Proofs.StandardPointers
import ClientModel.Proofs.SchemaReferences
import ClientModel.Proofs.Widening
import ClientModel.Proofs.BodyParameters
import ClientModel.Proofs.Grouping
import ClientModel.Proofs.MethodNames
import ClientModel.Proofs.Listings
import ClientModel.Proofs.Literals
import ClientModel.Proofs.FallbackIds
import ClientModel.Proofs.RequestHeaders
import ClientModel.Proofs.Filling
import ClientModel.Proofs.Constraints
import ClientModel.Proofs.TypeRecords
import ClientModel.Proofs.TypeGrammar
