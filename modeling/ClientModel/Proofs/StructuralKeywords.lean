/-
This file says on which keywords of a schema its type depends. Two schemas agree if they have the
same values under the keywords that count for the type, in whatever order, and schemas that agree
where these hold schemas themselves; under every other keyword they may differ. The main statement
is that schemas over JSON values that agree have the same type but for the descriptions of fields,
and that references with the same text have the same type whatever else they say.
-/

import ClientModel.Proofs.Relocation

namespace ClientModel

open Relocation (partKeywords)

/-! ### Types without descriptions -/

namespace TypeExpr

mutual

/-- A type with no descriptions of its fields. -/
def undescribed : TypeExpr → TypeExpr
  | .array items => .array items.undescribed
  | .mapping values => .mapping values.undescribed
  | .nullable inner => .nullable inner.undescribed
  | .union members => .union (undescribedMembers members)
  | .intersection members => .intersection (undescribedMembers members)
  | .object fields => .object (undescribedFields fields)
  | .named name => .named name
  | .primitive kind => .primitive kind
  | .literal value => .literal value
  | .unknown => .unknown
  | .noContent => .noContent

/-- `undescribed` of all members. -/
def undescribedMembers : List TypeExpr → List TypeExpr
  | [] => []
  | member :: rest => member.undescribed :: undescribedMembers rest

/-- `undescribed` of the types of all fields, and no description of a field itself. -/
def undescribedFields : List (FieldLabel × TypeExpr) → List (FieldLabel × TypeExpr)
  | [] => []
  | (label, type) :: rest =>
    ({ label with description := none }, type.undescribed) :: undescribedFields rest

end

theorem undescribedMembers_eq_map (members : List TypeExpr) :
    undescribedMembers members = members.map undescribed := by
  induction members with
  | nil => rfl
  | cons member rest inductionHypothesis => rw [undescribedMembers, inductionHypothesis]; rfl

theorem undescribedFields_eq_map (fields : List (FieldLabel × TypeExpr)) :
    undescribedFields fields =
      fields.map fun field => ({ field.1 with description := none }, field.2.undescribed) := by
  induction fields with
  | nil => rfl
  | cons field rest inductionHypothesis => rw [undescribedFields, inductionHypothesis]; rfl

theorem undescribed_union (members : List TypeExpr) :
    (union members).undescribed = .union (members.map undescribed) :=
  congrArg _ (undescribedMembers_eq_map members)

theorem undescribed_intersection (members : List TypeExpr) :
    (intersection members).undescribed = .intersection (members.map undescribed) :=
  congrArg _ (undescribedMembers_eq_map members)

theorem undescribed_object (fields : List (FieldLabel × TypeExpr)) :
    (object fields).undescribed = .object (fields.map fun field =>
      ({ field.1 with description := none }, field.2.undescribed)) :=
  congrArg _ (undescribedFields_eq_map fields)

end TypeExpr

/-! ### Schemas that agree -/

/-- The keywords that count for the type of a schema and hold no schemas. -/
def plainKeywords : List String :=
  ["$ref", "discriminator", "type", "const", "enum", "required", "nullable"]

/-- Whether anything is read from a value at a place. -/
def SchemaPlace.reads : SchemaPlace → Value → Bool
  | .schema, .map _ | .properties, .map _ | .members, .list _ => true
  | _, _ => false

/-- Two values that say the same at a place but for what documents it. Schemas have the same values
under the keywords that count, members are as many, and properties have the same names in the same
order. -/
inductive AgreeAt : SchemaPlace → Value → Value → Prop
  | unread {place : SchemaPlace} {left right : Value} (nothing : place.reads left = false)
    (nothing' : place.reads right = false) : AgreeAt place left right
  | schema {left right : Entries}
    (alike : ∀ keyword ∈ plainKeywords, left.get? keyword = right.get? keyword)
    (parts : ∀ keyword ∈ partKeywords,
      AgreeAt (.ofKeyword keyword) (left.get keyword) (right.get keyword)) :
    AgreeAt .schema (.map left) (.map right)
  | noMembers : AgreeAt .members (.list []) (.list [])
  | members {item item' : Value} {rest rest' : List Value} (first : AgreeAt .schema item item')
    (further : AgreeAt .members (.list rest) (.list rest')) :
    AgreeAt .members (.list (item :: rest)) (.list (item' :: rest'))
  | noProperties : AgreeAt .properties (.map []) (.map [])
  | properties {key : Scalar} {item item' : Value} {rest rest' : Entries}
    (first : AgreeAt .schema item item')
    (further : AgreeAt .properties (.map rest) (.map rest')) :
    AgreeAt .properties (.map ((key, item) :: rest)) (.map ((key, item') :: rest'))

/-! ### What is read of a value -/

namespace Value

/-- The types of the members that a value says, but for descriptions. -/
def memberTypes? (value : Value) : Option (List TypeExpr) :=
  value.reading.members.map (List.map TypeExpr.undescribed)

/-- The types of the properties that a value says, but for descriptions. -/
def propertyTypes? : Value → Option (List (String × TypeExpr))
  | .map entries => some (entries.map fun entry =>
      (entry.1.text, entry.2.schemaType.undescribed))
  | _ => none

/-- Two values that are read alike at a place but for descriptions. -/
def ReadAlikeAt : SchemaPlace → Value → Value → Prop
  | .schema, left, right => left.schemaType.undescribed = right.schemaType.undescribed
  | .members, left, right => left.memberTypes? = right.memberTypes?
  | .properties, left, right => left.propertyTypes? = right.propertyTypes?

/-- Where nothing is read from a value, it is as good as null. -/
theorem readAlikeAt_null {place : SchemaPlace} {value : Value}
    (nothing : place.reads value = false) : ReadAlikeAt place value .null := by
  cases place <;> cases value <;> first | rfl | cases nothing

theorem properties_reading (value : Value) :
    value.reading.properties.map (List.map fun property =>
        (property.1, property.2.2.undescribed)) =
      value.propertyTypes?.map Ordered.ofList := by
  cases value with
  | map entries =>
    have written := Placement.map_ofList (fun item : Value => item.schemaType.undescribed)
      (entries.map fun entry => (entry.1.text, entry.2))
    rw [List.map_map] at written
    rw [properties_map, propertyTypes?, Option.map_some, Option.map_some, List.map_map]
    exact congrArg some written
  | scalar _ | list _ | set _ | pair _ _ | knot _ _ | again _ _ => rfl

end Value

/-! ### Rules -/

theorem undescribed_literalUnion (values : List Value) :
    (literalUnion values).undescribed = literalUnion values := by
  rw [literalUnion, TypeExpr.undescribed_union, List.map_map]
  rfl

theorem undescribed_primitiveType (tag : String) :
    (primitiveType tag).undescribed = primitiveType tag := by
  unfold primitiveType
  split <;> rfl

theorem undescribed_tagType (values : Option (List Value)) (items : TypeExpr) (tag : String) :
    (tagType values items tag).undescribed = tagType values items.undescribed tag := by
  unfold tagType
  split
  · exact undescribed_literalUnion _
  · split
    · rfl
    · split
      · rfl
      · exact undescribed_primitiveType tag

namespace Reading

section

variable (entries : Entries) (under : String → Reading)

/-- The type of an object by the names and types of its properties. -/
theorem undescribed_object :
    (object entries under).undescribed =
      ((under "properties").properties.map (List.map fun property =>
        (property.1, property.2.2.undescribed))).elim
          (.mapping (under "additionalProperties").type.undescribed)
          fun properties => .object (properties.map fun property =>
            (⟨property.1, Naming.propertyIdentifier property.1,
              !(textsIn (entries.get "required")).contains property.1, none⟩, property.2)) := by
  rw [object_eq]
  cases (under "properties").properties with
  | none => rfl
  | some properties =>
    simp only [Option.map_some, Option.elim_some, TypeExpr.undescribed_object, List.map_map]
    rfl

theorem undescribed_typeList? :
    (typeList? entries under).map TypeExpr.undescribed =
      (entries.get "type").items?.map fun tags => .union (tags.map fun tag =>
        tagType (filledItems? (entries.get "enum")) (under "items").type.undescribed
          tag.text) := by
  rw [typeList?, Option.map_map]
  congr 1
  funext tags
  rw [Function.comp_apply, TypeExpr.undescribed_union, List.map_map]
  exact congrArg _ (List.map_congr_left fun tag _ => undescribed_tagType _ _ _)

theorem undescribed_composition? :
    (composition? entries under).map TypeExpr.undescribed =
      (((under "anyOf").members.map (List.map TypeExpr.undescribed)).map .union <|>
      ((under "oneOf").members.map (List.map TypeExpr.undescribed)).map (fun members =>
        .union (((variants? entries).map (List.map TypeExpr.undescribed)).getD members)) <|>
      ((under "allOf").members.map (List.map TypeExpr.undescribed)).map .intersection) := by
  unfold composition?
  cases (under "anyOf").members with
  | some members => exact congrArg some (TypeExpr.undescribed_union members)
  | none =>
    cases (under "oneOf").members with
    | some members => exact congrArg some (by
        rw [TypeExpr.undescribed_union, ← Option.getD_map (List.map TypeExpr.undescribed) members])
    | none =>
      cases (under "allOf").members with
      | some members => exact congrArg some (TypeExpr.undescribed_intersection members)
      | none => rfl

/-- A type without descriptions, by the same rules. -/
theorem undescribed_schema :
    (schema entries under).undescribed =
      (reference? entries <|> (composition? entries under).map TypeExpr.undescribed <|>
        (typeList? entries under).map TypeExpr.undescribed <|> constant? entries).getD
          (if (entries.get "nullable").isTrue then .nullable (shape entries under).undescribed
          else (shape entries under).undescribed) := by
  unfold schema reference? constant?
  cases (entries.get "$ref").string? with
  | some pointer => rfl
  | none =>
    cases composition? entries under with
    | some type => rfl
    | none =>
      cases typeList? entries under with
      | some type => rfl
      | none =>
        cases entries.get? "const" with
        | some value => rfl
        | none =>
          show (ite _ _ _ : TypeExpr).undescribed = ite _ _ _
          split <;> rfl

end

/-! ### Schemas that agree are read alike -/

section

variable {left right : Entries}
  (alike : ∀ keyword ∈ plainKeywords, left.get? keyword = right.get? keyword)

section

include alike

theorem get_alike {keyword : String} (plain : keyword ∈ plainKeywords) :
    left.get keyword = right.get keyword :=
  congrArg (·.getD .null) (alike keyword plain)

theorem reference?_alike : reference? left = reference? right := by
  rw [reference?, reference?, get_alike alike (show "$ref" ∈ plainKeywords by decide)]

theorem variants?_alike : variants? left = variants? right := by
  rw [variants?, variants?, discriminator?, discriminator?,
    get_alike alike (show "discriminator" ∈ plainKeywords by decide)]

theorem constant?_alike : constant? left = constant? right := by
  rw [constant?, constant?, alike "const" (by decide)]

end

variable (parts : ∀ keyword ∈ partKeywords,
    Value.ReadAlikeAt (.ofKeyword keyword) (left.get keyword) (right.get keyword))

section

include parts

theorem items_alike : (left.get "items").reading.type.undescribed =
    (right.get "items").reading.type.undescribed :=
  parts "items" (by decide)

theorem properties_alike :
    (left.get "properties").reading.properties.map (List.map fun property =>
        (property.1, property.2.2.undescribed)) =
      (right.get "properties").reading.properties.map (List.map fun property =>
        (property.1, property.2.2.undescribed)) := by
  have same : (left.get "properties").propertyTypes? = (right.get "properties").propertyTypes? :=
    parts "properties" (by decide)
  rw [Value.properties_reading, Value.properties_reading, same]

end

include alike parts

theorem composition?_alike :
    (composition? left fun keyword => (left.get keyword).reading).map TypeExpr.undescribed =
      (composition? right fun keyword => (right.get keyword).reading).map
        TypeExpr.undescribed := by
  have members (keyword : String) (composes : compositionKeywords.contains keyword = true)
      (part : keyword ∈ partKeywords) :
      (left.get keyword).reading.members.map (List.map TypeExpr.undescribed) =
        (right.get keyword).reading.members.map (List.map TypeExpr.undescribed) := by
    have here := parts keyword part
    rwa [SchemaPlace.ofKeyword, if_pos composes] at here
  rw [undescribed_composition?, undescribed_composition?, variants?_alike alike,
    members "anyOf" rfl (by decide), members "oneOf" rfl (by decide),
    members "allOf" rfl (by decide)]

theorem typeList?_alike :
    (typeList? left fun keyword => (left.get keyword).reading).map TypeExpr.undescribed =
      (typeList? right fun keyword => (right.get keyword).reading).map TypeExpr.undescribed := by
  rw [undescribed_typeList?, undescribed_typeList?,
    get_alike alike (show "type" ∈ plainKeywords by decide),
    get_alike alike (show "enum" ∈ plainKeywords by decide), items_alike parts]

theorem object_alike :
    (object left fun keyword => (left.get keyword).reading).undescribed =
      (object right fun keyword => (right.get keyword).reading).undescribed := by
  have beside : (left.get "additionalProperties").reading.type.undescribed =
      (right.get "additionalProperties").reading.type.undescribed :=
    parts "additionalProperties" (by decide)
  rw [undescribed_object, undescribed_object, properties_alike parts, beside,
    get_alike alike (show "required" ∈ plainKeywords by decide)]

theorem shape_alike :
    (shape left fun keyword => (left.get keyword).reading).undescribed =
      (shape right fun keyword => (right.get keyword).reading).undescribed := by
  have object := object_alike alike parts
  have present : (left.get "properties").reading.properties.isSome =
      (right.get "properties").reading.properties.isSome := by
    have same := congrArg Option.isSome (properties_alike parts)
    rwa [Option.isSome_map, Option.isSome_map] at same
  unfold shape
  rw [get_alike alike (show "type" ∈ plainKeywords by decide),
    get_alike alike (show "enum" ∈ plainKeywords by decide), present]
  cases right.get "type" with
  | scalar content =>
    cases content with
    | string tag =>
      dsimp only
      split
      · rfl
      · split
        · exact object
        · split
          · exact congrArg TypeExpr.array (items_alike parts)
          · rfl
    | null =>
      dsimp only
      split
      · exact object
      · rfl
    | bool _ | int _ | float _ | date _ | timestamp _ | binary _ => rfl
  | list _ | map _ | set _ | pair _ _ | knot _ _ | again _ _ => rfl

theorem schema_alike :
    (schema left fun keyword => (left.get keyword).reading).undescribed =
      (schema right fun keyword => (right.get keyword).reading).undescribed := by
  rw [undescribed_schema, undescribed_schema, reference?_alike alike,
    composition?_alike alike parts, typeList?_alike alike parts, constant?_alike alike,
    shape_alike alike parts, get_alike alike (show "nullable" ∈ plainKeywords by decide)]

end

end Reading

theorem Value.memberTypes?_list (items : List Value) :
    (Value.list items).memberTypes? =
      some (items.map fun item => item.schemaType.undescribed) := by
  show some ((Value.typesOf items).map TypeExpr.undescribed) = _
  rw [typesOf_eq_map, List.map_map]
  rfl

/-- Values that agree at a place are read alike there. -/
theorem AgreeAt.readAlike {place : SchemaPlace} {left right : Value}
    (agree : AgreeAt place left right) : left.ReadAlikeAt place right := by
  -- By the constructors of agreement, each of which is one place that a reading goes through.
  induction agree with
  | @unread place left right nothing nothing' =>
    have leftNull := Value.readAlikeAt_null nothing
    have rightNull := Value.readAlikeAt_null nothing'
    cases place with
    | schema | members | properties => exact Eq.trans leftNull (Eq.symm rightNull)
  | @schema left right alike _ inductionHypothesis =>
    show (Value.map left).schemaType.undescribed = (Value.map right).schemaType.undescribed
    rw [Value.schemaType_map, Value.schemaType_map]
    exact Reading.schema_alike alike inductionHypothesis
  | noMembers => rfl
  | @members item item' rest rest' _ _ first further =>
    have types : item.schemaType.undescribed = item'.schemaType.undescribed := first
    have others : (Value.list rest).memberTypes? = (Value.list rest').memberTypes? := further
    rw [Value.memberTypes?_list, Value.memberTypes?_list] at others
    show (Value.list _).memberTypes? = (Value.list _).memberTypes?
    rw [Value.memberTypes?_list, Value.memberTypes?_list, List.map_cons, List.map_cons, types,
      Option.some.inj others]
  | noProperties => rfl
  | @properties key item item' rest rest' _ _ first further =>
    have types : item.schemaType.undescribed = item'.schemaType.undescribed := first
    have others : (Value.map rest).propertyTypes? = (Value.map rest').propertyTypes? := further
    rw [Value.propertyTypes?, Value.propertyTypes?] at others
    show (Value.map _).propertyTypes? = (Value.map _).propertyTypes?
    rw [Value.propertyTypes?, Value.propertyTypes?, List.map_cons, List.map_cons, types,
      Option.some.inj others]

/-- A reference has the name of what it refers to, whatever else it says. -/
theorem schemaType_of_refers {raw : Value} (json : raw.isJson = true) {pointer : String}
    (refers : raw.entriesOrEmpty.get "$ref" = .string pointer) :
    raw.schemaType = .named (Naming.typeIdentifier (targetOf pointer)) := by
  cases raw with
  | map entries =>
    have here : Entries.get "$ref" entries = .string pointer := refers
    rw [Value.schemaType_map, Reading.schema, Reading.reference?, here]
    rfl
  | scalar _ | list _ => cases refers
  | set _ | pair _ _ | knot _ _ | again _ _ => cases json

/-- Schemas over JSON values are read and resolved. If they agree, then to the same type but for the
descriptions of fields, and if both are references with the same text, then to the same type. -/
theorem result_resolve_agreeing {left right : Value} (leftJson : left.isJson = true)
    (rightJson : right.isJson = true) :
    readSchema? left = some (parseSchema left) ∧ readSchema? right = some (parseSchema right) ∧
      ∃ leftType rightType, (resolve (parseSchema left)).result = .ok leftType ∧
        (resolve (parseSchema right)).result = .ok rightType ∧
          (AgreeAt .schema left right → leftType.undescribed = rightType.undescribed) ∧
          ∀ pointer, left.entriesOrEmpty.get "$ref" = .string pointer →
            right.entriesOrEmpty.get "$ref" = .string pointer → leftType = rightType := by
  refine ⟨readSchema?_of_isUntied (Value.isUntied_of_isJson leftJson),
    readSchema?_of_isUntied (Value.isUntied_of_isJson rightJson), left.schemaType,
    right.schemaType, result_resolve_of_isJson leftJson, result_resolve_of_isJson rightJson,
    fun agree => agree.readAlike, fun pointer leftRefers rightRefers => ?_⟩
  rw [schemaType_of_refers leftJson leftRefers, schemaType_of_refers rightJson rightRefers]

/-- A JSON value agrees with itself at every place. -/
theorem AgreeAt.refl {value : Value} (json : value.isJson = true) (place : SchemaPlace) :
    AgreeAt place value value := by
  refine Value.inductionOnJson (motive := fun value => ∀ place, AgreeAt place value value) json
    (fun content place => ?_) (fun items each place => ?_) (fun entries here each place => ?_) place
  · cases place <;> exact .unread rfl rfl
  · cases place with
    | members =>
      induction items with
      | nil => exact .noMembers
      | cons item rest inductionHypothesis =>
        exact .members (each item List.mem_cons_self .schema)
          (inductionHypothesis fun other member => each other (List.mem_cons_of_mem _ member))
    | schema | properties => exact .unread rfl rfl
  · cases place with
    | schema =>
      exact .schema (fun _ _ => rfl) fun keyword _ =>
        Entries.get_cases (motive := fun item => ∀ place, AgreeAt place item item)
          (fun place => by cases place <;> exact .unread rfl rfl) each (.ofKeyword keyword)
    | properties =>
      clear here
      induction entries with
      | nil => exact .noProperties
      | cons entry rest inductionHypothesis =>
        exact .properties (each entry List.mem_cons_self .schema)
          (inductionHypothesis fun other member => each other (List.mem_cons_of_mem _ member))
    | members => exact .unread rfl rfl

/-- Schemas without compositions agree if they do in the rest. -/
theorem AgreeAt.of_uncomposed {left right : Entries}
    (alike : plainKeywords.map left.get? = plainKeywords.map right.get?)
    (leftAlone : compositionKeywords.filterMap left.get? = [])
    (rightAlone : compositionKeywords.filterMap right.get? = [])
    (properties : AgreeAt .properties (left.get "properties") (right.get "properties"))
    (items : AgreeAt .schema (left.get "items") (right.get "items"))
    (beside : AgreeAt .schema (left.get "additionalProperties")
      (right.get "additionalProperties")) :
    AgreeAt .schema (.map left) (.map right) := by
  refine .schema (List.map_inj_left.1 alike) fun keyword part => ?_
  rcases List.mem_append.1 part with composes | other
  · have leftAbsent := List.filterMap_eq_nil_iff.1 leftAlone keyword composes
    have rightAbsent := List.filterMap_eq_nil_iff.1 rightAlone keyword composes
    rw [SchemaPlace.ofKeyword, if_pos (List.contains_iff_mem.2 composes), Entries.get,
      Entries.get, leftAbsent, rightAbsent]
    exact .unread rfl rfl
  · simp only [List.mem_cons, List.not_mem_nil, or_false] at other
    rcases other with rfl | rfl | rfl
    · exact properties
    · exact items
    · exact beside

/-- A schema with nothing but what counts for its type. -/
def bareSchema : Value :=
  .map [(.string "type", .string "object"), (.string "required", .list [.string "id"]),
    (.string "properties", .map [(.string "id", .map [(.string "type", .string "integer")]),
      (.string "tags", .map [(.string "type", .string "array"),
        (.string "items", .map [(.string "type", .string "string")])])])]

/-- The same schema with documentation at every depth, and its keywords in other orders. -/
def documentedSchema : Value :=
  .map [(.string "description", .string "A pet"), (.string "readOnly", .bool true),
    (.string "properties", .map [
      (.string "id", .map [(.string "format", .string "int64"),
        (.string "type", .string "integer")]),
      (.string "tags", .map [
        (.string "items", .map [(.string "example", .string "wild"), (.string "pattern", .null),
          (.string "type", .string "string")]),
        (.string "type", .string "array")])]),
    (.string "required", .list [.string "id"]), (.string "type", .string "object")]

theorem agreeAt_documentedSchema : AgreeAt .schema bareSchema documentedSchema := by
  have absent {place : SchemaPlace} : AgreeAt place .null .null := .refl rfl place
  have tag : AgreeAt .schema (.map [(.string "type", .string "string")])
      (.map [(.string "example", .string "wild"), (.string "pattern", .null),
        (.string "type", .string "string")]) := .of_uncomposed rfl rfl rfl absent absent absent
  refine .of_uncomposed rfl rfl rfl (.properties ?_ (.properties ?_ .noProperties)) absent absent
  · exact .of_uncomposed rfl rfl rfl absent absent absent
  · exact .of_uncomposed rfl rfl rfl absent tag absent

/-- A reference that says that it is nullable. -/
def nullableReference : Value :=
  .map [(.string "nullable", .bool true), (.string "$ref", .string "#/definitions/pet")]

/-- The same reference, with a composition and a type. -/
def composedReference : Value :=
  .map [(.string "$ref", .string "#/definitions/pet"), (.string "anyOf", .list []),
    (.string "type", .string "string")]

theorem result_resolve_agreeing_documentedSchema :
    (∃ bareType documentedType, (resolve (parseSchema bareSchema)).result = .ok bareType ∧
      (resolve (parseSchema documentedSchema)).result = .ok documentedType ∧
        bareType.undescribed = documentedType.undescribed) ∧
      ∃ type, (resolve (parseSchema nullableReference)).result = .ok type ∧
        (resolve (parseSchema composedReference)).result = .ok type := by
  have bareJson : bareSchema.isJson = true := by decide
  have documentedJson : documentedSchema.isJson = true := by decide
  have nullableJson : nullableReference.isJson = true := by decide
  have composedJson : composedReference.isJson = true := by decide
  obtain ⟨_, _, bareType, documentedType, bare, documented, agreeing, _⟩ :=
    result_resolve_agreeing bareJson documentedJson
  obtain ⟨_, _, nullableType, composedType, nullable, composed, _, referring⟩ :=
    result_resolve_agreeing nullableJson composedJson
  have same : nullableType = composedType := referring "#/definitions/pet" rfl rfl
  exact ⟨⟨bareType, documentedType, bare, documented, agreeing agreeAt_documentedSchema⟩,
    nullableType, nullable, same ▸ composed⟩

end ClientModel
