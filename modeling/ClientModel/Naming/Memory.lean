/-
This file remembers identifiers that were already made. A memory holds, for each transform, the
raw names it was asked for and what they became; asking again answers from there. The main
statement is that a memory whose entries are right answers every question as the transform
itself does, and stays right.
-/

import ClientModel.Naming.Identifier
import ClientModel.Ordered

namespace ClientModel.Naming

/-! ### Memories -/

/-- The identifiers made so far. -/
structure Memory where
  types : List (String × String) := []
  properties : List (String × String) := []
  methods : List (String × String) := []
  paths : List (String × CallPath) := []
  deriving Repr

namespace Memory

/-- The memory in which nothing was made yet. -/
def empty : Memory := {}

/-- The type identifier of a name. -/
def typeIdentifier (memory : Memory) (raw : String) : String × Memory :=
  match Ordered.get? raw memory.types with
  | some identifier => (identifier, memory)
  | none =>
    let identifier := Naming.typeIdentifier raw
    (identifier, { memory with types := memory.types ++ [(raw, identifier)] })

/-- The accessor of a property. -/
def propertyIdentifier (memory : Memory) (raw : String) : String × Memory :=
  match Ordered.get? raw memory.properties with
  | some identifier => (identifier, memory)
  | none =>
    let identifier := Naming.propertyIdentifier raw
    (identifier, { memory with properties := memory.properties ++ [(raw, identifier)] })

/-- The method identifier of a text. -/
def methodIdentifier (memory : Memory) (raw : String) : String × Memory :=
  match Ordered.get? raw memory.methods with
  | some identifier => (identifier, memory)
  | none =>
    let identifier := Naming.methodIdentifier raw
    (identifier, { memory with methods := memory.methods ++ [(raw, identifier)] })

/-- The path of an operation id. Its method name is asked for through the memory, so it is
remembered as well. -/
def callPath (memory : Memory) (operationId : String) : CallPath × Memory :=
  match Ordered.get? operationId memory.paths with
  | some path => (path, memory)
  | none =>
    let (segments, remainder) := splitCall operationId
    let (methodName, memory) := memory.methodIdentifier remainder
    let path : CallPath := ⟨segments, methodName⟩
    (path, { memory with paths := memory.paths ++ [(operationId, path)] })

/-- How many entries each part holds: types, properties, methods and paths. -/
def sizes (memory : Memory) : List Nat :=
  [memory.types.length, memory.properties.length, memory.methods.length, memory.paths.length]

/-! ### Right memories -/

/-- A memory in which every raw name stands with the identifier the transform gives it. -/
structure Right (memory : Memory) : Prop where
  types : ∀ entry ∈ memory.types, entry.2 = Naming.typeIdentifier entry.1
  properties : ∀ entry ∈ memory.properties, entry.2 = Naming.propertyIdentifier entry.1
  methods : ∀ entry ∈ memory.methods, entry.2 = Naming.methodIdentifier entry.1
  paths : ∀ entry ∈ memory.paths, entry.2 = Naming.callPath entry.1

/-- Nothing that was not made is wrong. -/
theorem right_empty : Right empty := by
  constructor <;> simp [empty]

/-- Entries of which each is right stay so when a right one is added. -/
theorem right_append {Made : Type} {entries : List (String × Made)} {transform : String → Made}
    (right : ∀ entry ∈ entries, entry.2 = transform entry.1) (raw : String) :
    ∀ entry ∈ entries ++ [(raw, transform raw)], entry.2 = transform entry.1 := by
  intro entry member
  rcases List.mem_append.1 member with old | new
  · exact right entry old
  · rw [List.mem_singleton.1 new]

/-- A right memory answers for types as the transform does. -/
theorem fst_typeIdentifier {memory : Memory} (right : Right memory) (raw : String) :
    (memory.typeIdentifier raw).1 = Naming.typeIdentifier raw := by
  unfold typeIdentifier
  split
  · next found => exact right.types _ (Ordered.mem_of_get? found)
  · rfl

/-- A right memory stays right when it is asked for a type. -/
theorem right_typeIdentifier {memory : Memory} (right : Right memory) (raw : String) :
    Right (memory.typeIdentifier raw).2 := by
  unfold typeIdentifier
  split
  · exact right
  · exact { right with types := right_append right.types raw }

/-- A right memory answers for properties as the transform does. -/
theorem fst_propertyIdentifier {memory : Memory} (right : Right memory) (raw : String) :
    (memory.propertyIdentifier raw).1 = Naming.propertyIdentifier raw := by
  unfold propertyIdentifier
  split
  · next found => exact right.properties _ (Ordered.mem_of_get? found)
  · rfl

/-- A right memory stays right when it is asked for a property. -/
theorem right_propertyIdentifier {memory : Memory} (right : Right memory) (raw : String) :
    Right (memory.propertyIdentifier raw).2 := by
  unfold propertyIdentifier
  split
  · exact right
  · exact { right with properties := right_append right.properties raw }

/-- A right memory answers for methods as the transform does. -/
theorem fst_methodIdentifier {memory : Memory} (right : Right memory) (raw : String) :
    (memory.methodIdentifier raw).1 = Naming.methodIdentifier raw := by
  unfold methodIdentifier
  split
  · next found => exact right.methods _ (Ordered.mem_of_get? found)
  · rfl

/-- A right memory stays right when it is asked for a method. -/
theorem right_methodIdentifier {memory : Memory} (right : Right memory) (raw : String) :
    Right (memory.methodIdentifier raw).2 := by
  unfold methodIdentifier
  split
  · exact right
  · exact { right with methods := right_append right.methods raw }

/-- A right memory answers for operation ids as the transform does. -/
theorem fst_callPath {memory : Memory} (right : Right memory) (operationId : String) :
    (memory.callPath operationId).1 = Naming.callPath operationId := by
  unfold callPath
  split
  · next found => exact right.paths _ (Ordered.mem_of_get? found)
  · simp only [fst_methodIdentifier right, Naming.callPath]

/-- A right memory stays right when it is asked for an operation id. -/
theorem right_callPath {memory : Memory} (right : Right memory) (operationId : String) :
    Right (memory.callPath operationId).2 := by
  unfold callPath
  split
  · exact right
  · have after := right_methodIdentifier right (splitCall operationId).2
    have path : (⟨(splitCall operationId).1, (memory.methodIdentifier
        (splitCall operationId).2).1⟩ : CallPath) = Naming.callPath operationId := by
      rw [fst_methodIdentifier right]
      rfl
    refine { after with paths := ?_ }
    simp only [path]
    exact right_append after.paths operationId

end Memory

end ClientModel.Naming
