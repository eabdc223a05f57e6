/-
This file says which declarations the schemas of a document become: one for each identifier, made of
the last schema with that identifier, in the place of the first. What a declaration extends is
looked up among the members of its schema, and its type is made by resolving them; the two agree.
The main statement puts this together for any assembler, whatever names it has remembered, and says
which notes about replaced schemas are left.
-/

import ClientModel.Proofs.Declarations
import ClientModel.Proofs.Notes
import ClientModel.Proofs.Success

namespace ClientModel

open Placement (IsLast)

/-! ### Names and intersections -/

/-- A type that is neither a name nor an intersection. -/
def TypeExpr.IsOwn : TypeExpr → Prop
  | .named _ | .intersection _ => False
  | .primitive _ | .literal _ | .array _ | .mapping _ | .object _ | .union _ | .nullable _
  | .unknown | .noContent => True

theorem isOwn_nullableIf (notes : Annotations) {type : TypeExpr} (own : type.IsOwn) :
    (nullableIf notes type).IsOwn := by
  unfold nullableIf
  split
  · trivial
  · exact own

theorem isOwn_primitiveType (tag : String) : (primitiveType tag).IsOwn := by
  unfold primitiveType
  split <;> trivial

/-- Only references resolve to names, and only schemas that have to satisfy all members to
intersections. -/
theorem resolve_cases {node : SchemaNode} {type : TypeExpr}
    (resolved : (resolve node).result = .ok type) :
    (∃ notes pointer, node = .reference notes pointer ∧
        type = .named (Naming.typeIdentifier (targetOf pointer))) ∨
      (∃ notes members discriminator types, node = .composition notes .allOf members discriminator ∧
        (resolveMembers members).result = .ok types ∧ type = .intersection types) ∨
      Assembly.referencePointer? node = none ∧ Assembly.supertypePointers node = [] ∧
        type.IsOwn := by
  match node with
  | .reference notes pointer =>
    cases resolved
    exact .inl ⟨notes, pointer, rfl, rfl⟩
  | .composition notes .allOf members discriminator =>
    simp only [resolve, Assembly.result_bind_eq_ok_iff, Assembly.result_pure,
      Except.ok.injEq] at resolved
    obtain ⟨types, made, rfl⟩ := resolved
    exact .inr (.inl ⟨notes, members, discriminator, types, rfl, made, rfl⟩)
  | .composition _ .anyOf members _ =>
    simp only [resolve, Assembly.result_bind_eq_ok_iff, Assembly.result_pure,
      Except.ok.injEq] at resolved
    obtain ⟨_, _, rfl⟩ := resolved
    exact .inr (.inr ⟨rfl, rfl, trivial⟩)
  | .composition _ .oneOf members discriminator =>
    refine .inr (.inr ⟨rfl, rfl, ?_⟩)
    unfold resolve at resolved
    cases usable : Discriminator.usable? discriminator with
    | none =>
      simp only [usable, Assembly.result_bind_eq_ok_iff, Assembly.result_pure,
        Except.ok.injEq] at resolved
      obtain ⟨_, _, rfl⟩ := resolved
      trivial
    | some found =>
      simp only [usable, Assembly.result_bind_eq_ok_iff, Assembly.result_pure,
        Except.ok.injEq] at resolved
      obtain ⟨_, _, _, _, rfl⟩ := resolved
      trivial
  | .typeList _ _ (some _) _ =>
    simp only [resolve, Assembly.result_bind_eq_ok_iff, Assembly.result_pure,
      Except.ok.injEq] at resolved
    obtain ⟨_, _, rfl⟩ := resolved
    exact .inr (.inr ⟨rfl, rfl, trivial⟩)
  | .typeList _ _ none _ | .constant _ _ =>
    cases resolved
    exact .inr (.inr ⟨rfl, rfl, trivial⟩)
  | .object notes (some _) _ _ | .object notes none _ (.schema _) | .array notes (some _) =>
    simp only [resolve, Assembly.result_bind_eq_ok_iff, Assembly.result_pure,
      Except.ok.injEq] at resolved
    obtain ⟨_, _, rfl⟩ := resolved
    exact .inr (.inr ⟨rfl, rfl, isOwn_nullableIf notes trivial⟩)
  | .object notes none _ .unspecified | .object notes none _ (.allowed _) | .array notes none
  | .enumeration notes _ _ | .unknown notes =>
    cases resolved
    exact .inr (.inr ⟨rfl, rfl, isOwn_nullableIf notes trivial⟩)
  | .primitive notes tag =>
    cases resolved
    exact .inr (.inr ⟨rfl, rfl, isOwn_nullableIf notes (isOwn_primitiveType tag)⟩)

namespace Assembly

/-- The members of a schema resolve to names if all of them are references, and then to the names
of their targets. -/
theorem resolveMembers_eq_names_iff {members : List SchemaNode} {types : List TypeExpr}
    (resolved : (resolveMembers members).result = .ok types) (names : List String) :
    types = names.map .named ↔ ∃ pointers, members.mapM referencePointer? = some pointers ∧
      names = pointers.map fun pointer => Naming.typeIdentifier (targetOf pointer) := by
  constructor
  · rintro rfl
    induction members generalizing names with
    | nil =>
      simp only [resolveMembers, result_pure, Except.ok.injEq] at resolved
      exact ⟨[], rfl, by simpa using resolved.symm⟩
    | cons member rest inductionHypothesis =>
      simp only [resolveMembers, result_bind_eq_ok_iff, result_pure, Except.ok.injEq] at resolved
      obtain ⟨type, first, others, further, same⟩ := resolved
      obtain ⟨name, rest', rfl, rfl, rfl⟩ := List.map_eq_cons_iff.1 same.symm
      obtain ⟨pointers, references, rfl⟩ := inductionHypothesis _ further
      rcases resolve_cases first with ⟨_, pointer, rfl, named⟩ | ⟨_, _, _, _, _, _, other⟩ |
        ⟨_, _, own⟩
      · refine ⟨pointer :: pointers, ?_, ?_⟩
        · rw [List.mapM_cons, references]
          rfl
        · rw [TypeExpr.named.inj named, List.map_cons]
      · cases other
      · exact absurd own id
  · rintro ⟨pointers, references, rfl⟩
    rw [resolveMembers_of_references references resolved, List.map_map]
    rfl

end Assembly

/-- A declaration that extends the types of which its own is an intersection, and nothing where its
own is not the intersection of some named types. -/
structure Declaration.ExtendsMembers (declaration : Declaration) : Prop where
  named : ∀ names, declaration.type = .intersection (names.map .named) →
    declaration.supertypes = names
  otherwise : (∀ names, names ≠ [] → declaration.type ≠ .intersection (names.map .named)) →
    declaration.supertypes = []

namespace Assembly

/-- What is looked up among the members of a schema agrees with what they resolve to. -/
theorem IsDeclarationOf.extendsMembers {name : String} {node : SchemaNode}
    {declaration : Declaration} (made : IsDeclarationOf name node declaration) :
    declaration.ExtendsMembers := by
  rcases resolve_cases made.type with ⟨_, _, rfl, type⟩ |
    ⟨_, members, _, types, rfl, resolved, type⟩ | ⟨_, none, own⟩
  · refine ⟨fun names same => ?_, fun _ => made.supertypes⟩
    rw [type] at same
    cases same
  · have supertypes := made.supertypes
    rw [supertypePointers] at supertypes
    refine ⟨fun names same => ?_, fun other => ?_⟩
    · rw [type, TypeExpr.intersection.injEq] at same
      obtain ⟨pointers, references, rfl⟩ := (resolveMembers_eq_names_iff resolved names).1 same
      rw [supertypes, references]
      rfl
    · cases references : members.mapM referencePointer? with
      | none =>
        rw [supertypes, references]
        rfl
      | some pointers =>
        rw [references] at supertypes
        by_contra some
        refine other _ some ?_
        rw [type, TypeExpr.intersection.injEq]
        exact (resolveMembers_eq_names_iff resolved _).2 ⟨pointers, references, supertypes⟩
  · have nothing : declaration.supertypes = [] := by rw [made.supertypes, none, List.map_nil]
    refine ⟨fun names same => ?_, fun _ => nothing⟩
    rw [same] at own
    exact absurd own id

/-! ### Notes about replaced schemas -/

theorem notesOnly_askTargets {kind : Notice → Prop} (pointers : List String) :
    NotesOnly kind (askTargets pointers) := by
  induction pointers with
  | nil => exact .pure _
  | cons pointer rest inductionHypothesis =>
    exact (NotesOnly.askType _).bind fun _ => inductionHypothesis.bind fun _ => .pure _

/-- Making a declaration leaves no note. -/
theorem notices_declarationOf (name : String) (node : SchemaNode) :
    (declarationOf name node).notices = [] := by
  have none : NotesOnly (fun _ => False) (declarationOf name node) :=
    (NotesOnly.askType _).bind fun _ => (notesOnly_resolve node).bind fun _ =>
      (NotesOnly.ofExcept _).bind fun _ => (notesOnly_askTargets _).bind fun _ => .pure _
  exact List.eq_nil_iff_forall_not_mem.2 none

/-- The notes that are left when declarations are placed after others. -/
def declarationReplacements (earlier : List Declaration) : List Declaration → List Notice
  | [] => []
  | declaration :: rest =>
    declarationReplacement (Placement.placeAll Declaration.identifier earlier) declaration ++
      declarationReplacements (earlier ++ [declaration]) rest

theorem notices_placeDeclarations {schemas : List (String × SchemaNode)}
    {declared : List Declaration}
    (made : List.Forall₂ (fun entry => IsDeclarationOf entry.1 entry.2) schemas declared)
    (earlier : List Declaration) :
    (placeDeclarations (Placement.placeAll Declaration.identifier earlier) schemas).notices =
      declarationReplacements earlier declared := by
  induction made generalizing earlier with
  | nil => rfl
  | @cons entry declaration schemas declared here others inductionHypothesis =>
    have placed := Placement.placeAll_append_singleton Declaration.identifier earlier declaration
    simp only [placeDeclarations, notices_bind, notices_declarationOf, notices_leaveAll,
      result_leaveAll, (result_declarationOf_iff _ _ _).2 here, placeDeclaration_eq,
      List.nil_append, ← placed, inductionHypothesis, declarationReplacements]

/-- A declaration leaves a note if an earlier one has its identifier, and the note names the last of
those. -/
theorem mem_declarationReplacement_iff (earlier : List Declaration) (declaration : Declaration)
    (notice : Notice) :
    notice ∈ declarationReplacement (Placement.placeAll Declaration.identifier earlier)
        declaration ↔
      ∃ previous, IsLast Declaration.identifier earlier previous ∧
        previous.identifier = declaration.identifier ∧
          notice = .schemaReplaced declaration.name previous.name declaration.identifier := by
  have found := Placement.find?_placeAll_eq_some_iff Declaration.identifier earlier
    declaration.identifier
  unfold declarationReplacement
  split
  · next previous here =>
    obtain ⟨last, same⟩ := (found previous).1 here
    rw [List.mem_singleton]
    constructor
    · exact fun noted => ⟨previous, last, same, noted⟩
    · rintro ⟨other, otherLast, otherSame, rfl⟩
      rw [Option.some.inj (here.symm.trans ((found other).2 ⟨otherLast, otherSame⟩))]
  · next missing =>
    refine iff_of_false List.not_mem_nil ?_
    rintro ⟨previous, last, same, _⟩
    cases missing.symm.trans ((found previous).2 ⟨last, same⟩)

/-- The notes name each declaration that replaces an earlier one, and the one that it replaces. -/
theorem mem_declarationReplacements_iff (earlier declared : List Declaration) (notice : Notice) :
    notice ∈ declarationReplacements earlier declared ↔
      ∃ before declaration after previous, declared = before ++ declaration :: after ∧
        IsLast Declaration.identifier (earlier ++ before) previous ∧
          previous.identifier = declaration.identifier ∧
            notice = .schemaReplaced declaration.name previous.name declaration.identifier := by
  induction declared generalizing earlier with
  | nil => simp [declarationReplacements]
  | cons first rest inductionHypothesis =>
    rw [declarationReplacements, List.mem_append, mem_declarationReplacement_iff,
      inductionHypothesis]
    constructor
    · rintro (⟨previous, last, same, rfl⟩ |
        ⟨before, declaration, after, previous, rfl, last, same, rfl⟩)
      · exact ⟨[], first, rest, previous, rfl, by rwa [List.append_nil], same, rfl⟩
      · rw [List.append_assoc] at last
        exact ⟨first :: before, declaration, after, previous, rfl, last, same, rfl⟩
    · rintro ⟨before, declaration, after, previous, split, last, same, rfl⟩
      cases before with
      | nil =>
        obtain ⟨rfl, rfl⟩ := List.cons.inj split
        rw [List.append_nil] at last
        exact .inl ⟨previous, last, same, rfl⟩
      | cons head before =>
        obtain ⟨rfl, rfl⟩ := List.cons.inj split
        rw [← List.singleton_append, ← List.append_assoc] at last
        exact .inr ⟨before, declaration, after, previous, rfl, last, same, rfl⟩

theorem length_declarationReplacement (earlier : List Declaration) (declaration : Declaration) :
    (declarationReplacement (Placement.placeAll Declaration.identifier earlier)
      declaration).length =
        if declaration.identifier ∈ earlier.map Declaration.identifier then 1 else 0 := by
  have found := Placement.find?_placeAll_eq_some_iff Declaration.identifier earlier
    declaration.identifier
  unfold declarationReplacement
  split
  · next previous here =>
    obtain ⟨last, same⟩ := (found previous).1 here
    rw [if_pos (same ▸ List.mem_map_of_mem last.mem)]
    rfl
  · next missing =>
    rw [if_neg]
    · rfl
    · intro old
      obtain ⟨previous, last⟩ := Placement.exists_isLast Declaration.identifier old
      cases missing.symm.trans ((found previous).2 last)

/-- The notes count the declarations that are missing. -/
theorem length_declarationReplacements (earlier declared : List Declaration) :
    (declarationReplacements earlier declared).length +
        ((earlier ++ declared).map Declaration.identifier).eraseDups.length =
      declared.length + (earlier.map Declaration.identifier).eraseDups.length := by
  -- Each further declaration either leaves a note or brings a new identifier.
  induction declared generalizing earlier with
  | nil => simp [declarationReplacements]
  | cons declaration rest inductionHypothesis =>
    have identifiers := Placement.length_eraseDups_append_singleton
      (earlier.map Declaration.identifier) declaration.identifier
    rw [← List.map_singleton, ← List.map_append] at identifiers
    have further := inductionHypothesis (earlier ++ [declaration])
    rw [List.append_assoc, List.singleton_append] at further
    rw [declarationReplacements, List.length_append, length_declarationReplacement,
      List.length_cons]
    omega

/-! ### All declarations -/

/-- The identifier of a named schema. -/
def identifierOf (entry : String × SchemaNode) : String := Naming.typeIdentifier entry.1

/-- What the declarations of named schemas are: one for each identifier, made of the last schema
that has it. -/
structure AreDeclarationsOf (schemas : List (String × SchemaNode)) (placed : List Declaration) :
    Prop where
  /-- Each identifier is there once, and they stand in the order in which they first appear. -/
  order : placed.map Declaration.identifier = (schemas.map identifierOf).eraseDups
  distinct : (placed.map Declaration.identifier).Nodup
  /-- The last schema of an identifier is declared, and nothing else is. -/
  made : ∀ declaration, declaration ∈ placed ↔ ∃ entry, IsLast identifierOf schemas entry ∧
    (declarationOf entry.1 entry.2).result = .ok declaration
  named : ∀ declaration ∈ placed,
    declaration.identifier = Naming.typeIdentifier declaration.name
  supertypes : ∀ declaration ∈ placed, declaration.ExtendsMembers

section

variable {schemas : List (String × SchemaNode)} {declared : List Declaration}

theorem identifier_of_isDeclarationOf (entry : String × SchemaNode) (declaration : Declaration)
    (made : IsDeclarationOf entry.1 entry.2 declaration) :
    declaration.identifier = identifierOf entry :=
  made.identifier

theorem eq_of_isDeclarationOf (entry : String × SchemaNode) (first second : Declaration)
    (made : IsDeclarationOf entry.1 entry.2 first)
    (madeAgain : IsDeclarationOf entry.1 entry.2 second) : first = second := by
  rw [← result_declarationOf_iff] at made madeAgain
  exact Except.ok.inj (made.symm.trans madeAgain)

variable (made : List.Forall₂ (fun entry => IsDeclarationOf entry.1 entry.2) schemas declared)

include made

/-- The last declaration of an identifier is made of the last schema that has it. -/
theorem isLast_declared_iff (declaration : Declaration) :
    IsLast Declaration.identifier declared declaration ↔
      ∃ entry, IsLast identifierOf schemas entry ∧ IsDeclarationOf entry.1 entry.2 declaration :=
  Placement.isLast_iff_of_forall₂ _ identifier_of_isDeclarationOf eq_of_isDeclarationOf made
    declaration

theorem areDeclarationsOf_placeAll :
    AreDeclarationsOf schemas (Placement.placeAll Declaration.identifier declared) := by
  have sources {declaration : Declaration}
      (member : declaration ∈ Placement.placeAll Declaration.identifier declared) :
      ∃ entry : String × SchemaNode, IsDeclarationOf entry.1 entry.2 declaration := by
    rw [Placement.mem_placeAll_iff, isLast_declared_iff made] at member
    obtain ⟨entry, _, here⟩ := member
    exact ⟨entry, here⟩
  constructor
  case order =>
    rw [Placement.map_key_placeAll,
      Placement.map_key_of_forall₂ _ identifier_of_isDeclarationOf made]
  case distinct => exact Placement.nodup_map_key_placeAll _ declared
  case made =>
    intro declaration
    simp only [Placement.mem_placeAll_iff, result_declarationOf_iff, isLast_declared_iff made]
  case named =>
    intro declaration member
    obtain ⟨entry, here⟩ := sources member
    rw [here.identifier, here.name]
  case supertypes =>
    intro declaration member
    obtain ⟨entry, here⟩ := sources member
    exact here.extendsMembers

/-- The notes are about the schemas whose identifier an earlier one has. -/
theorem mem_declarationReplacements_iff_schemas (notice : Notice) :
    notice ∈ declarationReplacements [] declared ↔
      ∃ before entry after previous, schemas = before ++ entry :: after ∧
        IsLast identifierOf before previous ∧ identifierOf previous = identifierOf entry ∧
          notice = .schemaReplaced entry.1 previous.1 (identifierOf entry) := by
  rw [mem_declarationReplacements_iff]
  constructor
  · rintro ⟨before, declaration, after, previous, rfl, last, same, rfl⟩
    obtain ⟨front, entry, back, rfl, madeFront, here, _⟩ :=
      Placement.exists_split_of_forall₂ made.flip
    obtain ⟨source, sourceLast, there⟩ := (isLast_declared_iff madeFront.flip previous).1 last
    refine ⟨front, entry, back, source, rfl, sourceLast, ?_, ?_⟩
    · exact there.identifier.symm.trans (same.trans here.identifier)
    · rw [here.name, there.name, here.identifier, identifierOf]
  · rintro ⟨before, entry, after, source, rfl, sourceLast, same, rfl⟩
    obtain ⟨front, declaration, back, rfl, madeFront, here, _⟩ :=
      Placement.exists_split_of_forall₂ made
    obtain ⟨previous, _, there⟩ := Placement.exists_mem_of_forall₂ madeFront sourceLast.mem
    have last := (isLast_declared_iff madeFront previous).2 ⟨source, sourceLast, there⟩
    refine ⟨front, declaration, back, previous, rfl, last, ?_, ?_⟩
    · exact there.identifier.trans (same.trans here.identifier.symm)
    · rw [here.name, there.name, here.identifier, identifierOf]

end

/-- The schemas of a document become declarations, whatever names the assembler has remembered. Each
note is about a schema whose identifier an earlier one has, and names the last of those; there are
as many as declarations are missing. -/
theorem run_declarations {document : Document} (json : document.isJson = true)
    {memory : Naming.Memory} (right : memory.Right) :
    ∃ placed, ((declarations document).run memory).result = .ok placed ∧
      let notices := ((declarations document).run memory).notices
      AreDeclarationsOf document.schemas placed ∧
        notices.length + placed.length = document.schemas.length ∧
        ∀ notice, notice ∈ notices ↔
          ∃ before entry after previous, document.schemas = before ++ entry :: after ∧
            IsLast identifierOf before previous ∧ identifierOf previous = identifierOf entry ∧
              notice = .schemaReplaced entry.1 previous.1 (identifierOf entry) := by
  obtain ⟨placed, built⟩ := succeeds_declarations json
  obtain ⟨declared, made, rfl⟩ := (result_declarations_iff document placed).1 built
  obtain ⟨sameResult, sameNotices, _⟩ := run_of_right (declarations document) right
  have notes : (declarations document).notices = declarationReplacements [] declared :=
    notices_placeDeclarations made []
  rw [sameResult, sameNotices, notes]
  refine ⟨_, built, areDeclarationsOf_placeAll made, ?_,
    mem_declarationReplacements_iff_schemas made⟩
  have count := length_declarationReplacements [] declared
  rw [List.nil_append, ← Placement.map_key_placeAll, List.length_map] at count
  rw [made.length_eq]
  exact count

/-- A document in which two schemas have the same identifier, and a third one extends it. -/
def renamedDocument : Document where
  version := "3.0.0"
  info := ⟨"Stores", "1", none⟩
  servers := []
  schemas := [
    ("user_name", .primitive {} "string"),
    ("member", .composition {} .allOf [.reference {} "#/components/schemas/user-name",
      .reference {} "#/components/schemas/Pet"] none),
    ("user-name", .composition {} .allOf [.reference {} "#/components/schemas/Pet",
      .unknown {}] none)]
  operations := []

theorem run_declarations_renamedDocument :
    renamedDocument.isJson = true ∧ Naming.Memory.empty.Right ∧
      ∃ placed, ((declarations renamedDocument).run .empty).result = .ok placed ∧
        AreDeclarationsOf renamedDocument.schemas placed ∧
          placed.map Declaration.identifier = ["UserName", "Member"] ∧
            .schemaReplaced "user-name" "user_name" "UserName" ∈
              ((declarations renamedDocument).run .empty).notices := by
  have json : renamedDocument.isJson = true := by decide
  obtain ⟨placed, built, declared, _, notes⟩ := run_declarations json Naming.Memory.right_empty
  refine ⟨json, Naming.Memory.right_empty, placed, built, declared, ?_, ?_⟩
  · rw [declared.order]
    decide
  · refine (notes _).2 ⟨renamedDocument.schemas.take 2, _, [], _, rfl,
      ⟨[], _, rfl, ?_⟩, ?_, rfl⟩
    · decide
    · decide

end Assembly

end ClientModel
