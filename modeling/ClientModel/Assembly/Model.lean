/-
This file builds the model of a document: the declarations of its schemas, the tree of its calls,
and, where only some operations are wanted, nothing but the declarations that these reach.
-/

import ClientModel.Assembly.Calls
import ClientModel.Model.Reachability

namespace ClientModel.Assembly

/-! ### Declarations -/

/-- The pointer of a schema that is a reference. -/
def referencePointer? : SchemaNode → Option String
  | .reference _ pointer => some pointer
  | _ => none

/-- The pointers of the types that a schema extends: those of the members of an intersection,
where all of them are references. -/
def supertypePointers : SchemaNode → List String
  | .composition _ .allOf members _ => (members.mapM referencePointer?).getD []
  | _ => []

/-- Asks for the type identifiers behind pointers. -/
def askTargets : List String → Assembly (List String)
  | [] => pure []
  | pointer :: rest => do
    let name ← askType (targetOf pointer)
    let names ← askTargets rest
    pure (name :: names)

/-- The declaration of a named schema. -/
def declarationOf (name : String) (node : SchemaNode) : Assembly Declaration := do
  let identifier ← askType name
  let type ← resolve node
  let description ← ofExcept (describe node.notes none)
  let supertypes ← askTargets (supertypePointers node)
  pure ⟨name, identifier, type, description, supertypes⟩

/-- A declaration among others: in place of the one with the same identifier, else at the end. -/
def placeDeclaration (declaration : Declaration) : List Declaration → List Declaration
  | [] => [declaration]
  | other :: rest =>
    if other.identifier == declaration.identifier then declaration :: rest
    else other :: placeDeclaration declaration rest

/-- The note about a declaration that takes the place of an earlier one. -/
def declarationReplacement (declarations : List Declaration) (declaration : Declaration) :
    List Notice :=
  match declarations.find? (·.identifier == declaration.identifier) with
  | some earlier => [.schemaReplaced declaration.name earlier.name declaration.identifier]
  | none => []

/-- Adds the declarations of named schemas, one after another. -/
def placeDeclarations (declarations : List Declaration) :
    List (String × SchemaNode) → Assembly (List Declaration)
  | [] => pure declarations
  | (name, node) :: rest => do
    let declaration ← declarationOf name node
    leaveAll (declarationReplacement declarations declaration)
    placeDeclarations (placeDeclaration declaration declarations) rest

/-- The declarations of a document, in the order of its schemas. -/
def declarations (document : Document) : Assembly (List Declaration) :=
  placeDeclarations [] document.schemas

/-! ### Names without a declaration -/

/-- The names that are mentioned and not declared, in rising order, each once. -/
def undeclaredNames (declarations : List Declaration) (root : Namespace) : List String :=
  let mentioned := root.references ++ declarations.flatMap (·.type.references)
  let declared := declarations.map (·.identifier)
  ((mentioned.filter fun name => !declared.contains name).eraseDups).mergeSort (· ≤ ·)

/-! ### Models -/

/-- The declarations that are kept: all, or those that the wanted operations reach. -/
def keptDeclarations (declarations : List Declaration) (root : Namespace)
    (operationIds : Option (List String)) : List Declaration :=
  if operationIds.isSome then Reachability.reachable declarations root.references
  else declarations

/-- The model of a document with the wanted operations. -/
def modelOf (document : Document) (operationIds : Option (List String)) : Assembly Model := do
  let all ← declarations document
  let root ← namespaceRoot document operationIds
  let kept := keptDeclarations all root operationIds
  leaveAll ((undeclaredNames kept root).map .undeclared)
  leave (.assembled kept.length root.walk.length)
  pure ⟨document.info, kept, root⟩

end ClientModel.Assembly
