/-
This file says which type a schema has by one recursion on the value that writes it, without
schemas in between. What a map says as a schema is a list of rules, of which the first that
applies counts: a reference, the three compositions, a list of types, a constant, and the shape
that its type names. The main statement is that reading a schema from a JSON value and resolving
it gives exactly that type.
-/

import ClientModel.Proofs.Placement
import ClientModel.Proofs.Success
import ClientModel.Schema.Opening

namespace ClientModel

/-! ### What stands under a keyword -/

theorem Entries.get_cons (keyword : String) (key : Scalar) (item : Value) (rest : Entries) :
    Entries.get keyword ((key, item) :: rest) =
      if key == .string keyword then item else rest.get keyword := by
  cases key with
  | string text =>
    by_cases same : text = keyword
    · simp [Entries.get, Entries.get?, same]
    · simp [Entries.get, Entries.get?, same]
  | null | bool _ | int _ | float _ | date _ | timestamp _ | binary _ => rfl

/-- Under a keyword stands null or an item of the map. -/
theorem Entries.get_cases {motive : Value → Prop} {keyword : String} {entries : Entries}
    (absent : motive .null) (present : ∀ entry ∈ entries, motive entry.2) :
    motive (entries.get keyword) := by
  induction entries with
  | nil => exact absent
  | cons entry rest inductionHypothesis =>
    obtain ⟨key, item⟩ := entry
    rw [Entries.get_cons]
    split
    · exact present _ List.mem_cons_self
    · exact inductionHypothesis fun other member => present other (List.mem_cons_of_mem _ member)

theorem membersUnder_eq (keyword : String) (entries : Entries) :
    membersUnder keyword entries =
      match entries.get keyword with
      | .list items => some (parseMembers items)
      | _ => none := by
  induction entries with
  | nil => rfl
  | cons entry rest inductionHypothesis =>
    obtain ⟨key, item⟩ := entry
    unfold membersUnder
    rw [Entries.get_cons, inductionHypothesis]
    split <;> rfl

theorem schemaUnder_eq (keyword : String) (entries : Entries) :
    schemaUnder keyword entries =
      match entries.get keyword with
      | .map parts => some (parseSchema (.map parts))
      | _ => none := by
  induction entries with
  | nil => rfl
  | cons entry rest inductionHypothesis =>
    obtain ⟨key, item⟩ := entry
    unfold schemaUnder
    rw [Entries.get_cons, inductionHypothesis]
    split <;> rfl

theorem propertiesUnder_eq (keyword : String) (entries : Entries) :
    propertiesUnder keyword entries =
      match entries.get keyword with
      | .map parts => some (Ordered.ofList (parseProperties parts))
      | _ => none := by
  induction entries with
  | nil => rfl
  | cons entry rest inductionHypothesis =>
    obtain ⟨key, item⟩ := entry
    unfold propertiesUnder
    rw [Entries.get_cons, inductionHypothesis]
    split <;> rfl

theorem additionalUnder_eq (keyword : String) (entries : Entries) :
    additionalUnder keyword entries =
      match entries.get keyword with
      | .bool answer => .allowed answer
      | .map parts => .schema (parseSchema (.map parts))
      | _ => .unspecified := by
  induction entries with
  | nil => rfl
  | cons entry rest inductionHypothesis =>
    obtain ⟨key, item⟩ := entry
    unfold additionalUnder
    rw [Entries.get_cons, inductionHypothesis]
    split <;> rfl

/-! ### Rules -/

/-- What a value says where a schema has a part: as a schema, as the members of a composition, as
the properties of an object. Only a list says something as members, and only a map as
properties. -/
structure Reading where
  type : TypeExpr
  members : Option (List TypeExpr)
  properties : Option (List (String × Value × TypeExpr))

namespace Reading

/-- What is read where nothing that counts stands. -/
def empty : Reading := ⟨.unknown, none, none⟩

section

-- The keywords of a schema, and what is read under each of them.
variable (entries : Entries) (under : String → Reading)

/-- A reference with a text has the name of what it refers to. -/
def reference? : Option TypeExpr :=
  (entries.get "$ref").string?.map fun pointer =>
    .named (Naming.typeIdentifier (targetOf pointer))

/-- The property with a name and the mapping with entries of a discriminator that has both. -/
def discriminator? : Option (String × List (String × String)) := do
  let discriminator ← (entries.get "discriminator").entries?
  let propertyName ← (discriminator.get "propertyName").filledString?
  let mapping ← (discriminator.get "mapping").entries?
  if mapping.isEmpty then none
  else some (propertyName,
    Ordered.ofList (mapping.map fun entry => (entry.1.text, entry.2.text)))

/-- The members that a discriminator tells apart, one for each entry of its mapping. -/
def variants? : Option (List TypeExpr) :=
  (discriminator? entries).map fun found => found.2.map fun target =>
    .intersection [.named (Naming.typeIdentifier (mappedTarget target.1 target.2)),
      tagObject found.1 (Naming.propertyIdentifier found.1) target.1]

/-- The first composition that has members; a choice of one has the variants of its
discriminator, if there are any. -/
def composition? : Option TypeExpr :=
  (under "anyOf").members.map .union <|>
  (under "oneOf").members.map (fun members => .union ((variants? entries).getD members)) <|>
  (under "allOf").members.map .intersection

/-- A list of types is a union with one member for each. -/
def typeList? : Option TypeExpr :=
  (entries.get "type").items?.map fun tags => .union (tags.map fun tag =>
    tagType (filledItems? (entries.get "enum")) (under "items").type tag.text)

/-- A constant is a literal, even if it is null. -/
def constant? : Option TypeExpr := (entries.get? "const").map .literal

/-- The annotations of a schema. -/
def notes : Value → Annotations
  | .map entries => .ofEntries entries
  | _ => {}

/-- The description of a property. -/
def describeProperty (name : String) (raw : Value) : Option Description :=
  ((describe (notes raw) (some name)).toOption).join

/-- A field is optional if its name is not among the required ones. -/
def field (required : List String) (property : String × Value × TypeExpr) :
    FieldLabel × TypeExpr :=
  (⟨property.1, Naming.propertyIdentifier property.1, !required.contains property.1,
    describeProperty property.1 property.2.1⟩, property.2.2)

/-- An object has the fields of its properties; without properties, it maps any key to what it may
hold beside them. -/
def object : TypeExpr :=
  match (under "properties").properties with
  | some properties => .object (properties.map (field (textsIn (entries.get "required"))))
  | none => .mapping (under "additionalProperties").type

/-- The shape that the type names. Properties make an object of a schema without a type. -/
def shape : TypeExpr :=
  match entries.get "type" with
  | .string tag =>
    match isEnumerable tag, filledItems? (entries.get "enum") with
    | true, some values => literalUnion values
    | _, _ =>
      if tag == "object" then object entries under
      else if tag == "array" then .array (under "items").type
      else primitiveType tag
  | .null => if (under "properties").properties.isSome then object entries under else .unknown
  | _ => .unknown

/-- The type of a schema: by the first rule that applies, else by its shape, which alone may be
nullable. -/
def schema : TypeExpr :=
  (reference? entries <|> composition? entries under <|> typeList? entries under <|>
    constant? entries).getD
      (if (entries.get "nullable").isTrue then .nullable (shape entries under)
      else shape entries under)

end

/-- What is read under a keyword. -/
def underIn (parts : List (Scalar × Value × Reading)) (keyword : String) : Reading :=
  match parts.find? fun part => part.1 == .string keyword with
  | some part => part.2.2
  | none => empty

end Reading

namespace Value

mutual

/-- What a value says. -/
def reading : Value → Reading
  | .list items => ⟨.unknown, some (typesOf items), none⟩
  | .map entries =>
    let parts := readings entries
    ⟨Reading.schema entries (Reading.underIn parts), none, some (Ordered.ofList
      (parts.map fun part => (part.1.text, part.2.1, part.2.2.type)))⟩
  | .scalar _ | .set _ | .pair _ _ | .knot _ _ | .again _ _ => .empty

/-- The types of items, each as a schema. -/
def typesOf : List Value → List TypeExpr
  | [] => []
  | item :: rest => (reading item).type :: typesOf rest

/-- The entries of a map with what their items say. -/
def readings : List (Scalar × Value) → List (Scalar × Value × Reading)
  | [] => []
  | (key, item) :: rest => (key, item, reading item) :: readings rest

end

/-- The type that a value has as a schema. -/
def schemaType (raw : Value) : TypeExpr := raw.reading.type

theorem readings_eq_map (entries : List (Scalar × Value)) :
    readings entries = entries.map fun entry => (entry.1, entry.2, entry.2.reading) := by
  induction entries with
  | nil => rfl
  | cons entry rest inductionHypothesis => rw [readings, inductionHypothesis]; rfl

/-- What is read under a keyword is what its value says. -/
theorem underIn_readings (entries : Entries) (keyword : String) :
    Reading.underIn (readings entries) keyword = (entries.get keyword).reading := by
  induction entries with
  | nil => rfl
  | cons entry rest inductionHypothesis =>
    obtain ⟨key, item⟩ := entry
    rw [Entries.get_cons, readings, Reading.underIn, List.find?_cons]
    by_cases same : key == .string keyword
    · rw [if_pos same]
      simp only [same]
    · rw [if_neg same]
      simp only [same]
      exact inductionHypothesis

/-- The type of a map is given by the rules for its keywords. -/
theorem schemaType_map (entries : Entries) :
    (Value.map entries).schemaType =
      Reading.schema entries fun keyword => (entries.get keyword).reading := by
  exact congrArg (Reading.schema entries) (funext (underIn_readings entries))

/-- The types of items in turn. -/
theorem typesOf_eq_map (items : List Value) : typesOf items = items.map schemaType := by
  induction items with
  | nil => rfl
  | cons item rest inductionHypothesis => rw [typesOf, inductionHypothesis]; rfl

/-- The properties that a map says, in the order in which their names first appear. -/
theorem properties_map (entries : Entries) :
    (Value.map entries).reading.properties =
      some ((Ordered.ofList (entries.map fun entry => (entry.1.text, entry.2))).map fun entry =>
        (entry.1, entry.2, entry.2.schemaType)) := by
  show some (Ordered.ofList ((readings entries).map fun part =>
    (part.1.text, part.2.1, part.2.2.type))) = _
  rw [Placement.map_ofList fun item : Value => (item, item.schemaType), readings_eq_map,
    List.map_map, List.map_map]
  rfl

end Value

/-- The type of an object by the fields of its properties. -/
theorem Reading.object_eq (entries : Entries) (under : String → Reading) :
    Reading.object entries under =
      ((under "properties").properties.map
        (List.map (Reading.field (textsIn (entries.get "required"))))).elim
          (.mapping (under "additionalProperties").type) .object := by
  unfold Reading.object
  cases (under "properties").properties <;> rfl

/-! ### Reading and resolving -/

theorem notes_baseShape (notes : Annotations) (entries : Entries) (parts : SubSchemas) :
    (baseShape notes entries parts).notes = notes := by
  unfold baseShape
  dsimp only
  split
  · split
    · rfl
    · split
      · rfl
      · split
        · rfl
        · split <;> rfl
  · split <;> rfl
  · rfl

theorem notes_parseSchema (raw : Value) : (parseSchema raw).notes = Reading.notes raw := by
  cases raw with
  | map entries =>
    unfold parseSchema
    split
    · rfl
    · split
      · rfl
      · rfl
      · rfl
      · split
        · rfl
        · rfl
        · exact notes_baseShape _ _ _
  | scalar _ | list _ | set _ | pair _ _ | knot _ _ | again _ _ => rfl

/-- A value whose readings are what resolving gives: as a schema, as members, as properties. -/
structure Value.ReadsRight (raw : Value) : Prop where
  schema : (resolve (parseSchema raw)).result = .ok raw.schemaType
  members : ∀ items, raw = .list items →
    (resolveMembers (parseMembers items)).result = .ok (typesOf items)
  properties : ∀ entries properties, raw = .map entries →
    raw.reading.properties = some properties → ∀ required,
      (resolveProperties required (Ordered.ofList (parseProperties entries))).result =
        .ok (properties.map (Reading.field required))

theorem Value.readsRight_scalar (content : Scalar) : (Value.scalar content).ReadsRight where
  schema := rfl
  members _ same := by cases same
  properties _ _ same := by cases same

theorem Value.readsRight_list {items : List Value} (right : ∀ item ∈ items, item.ReadsRight) :
    (Value.list items).ReadsRight where
  schema := rfl
  members others same := by
    obtain rfl := Value.list.inj same
    clear same
    induction items with
    | nil => rfl
    | cons item rest inductionHypothesis =>
      have first := (right item List.mem_cons_self).schema
      have further := inductionHypothesis fun other member =>
        right other (List.mem_cons_of_mem _ member)
      simp only [parseMembers, resolveMembers, Assembly.result_bind, first, further]
      rfl
  properties _ _ same := by cases same

/-- Only an array is a matter of the items. -/
theorem tagType_of_ne_array (values : Option (List Value)) (first second : TypeExpr) {tag : String}
    (different : (tag == "array") = false) :
    tagType values first tag = tagType values second tag := by
  unfold tagType
  rw [different]
  rfl

theorem result_tagTypes (values : Option (List Value)) {items : Assembly TypeExpr}
    {itemType : TypeExpr} (resolved : items.result = .ok itemType) (tags : List String) :
    (tagTypes values items tags).result = .ok (tags.map (tagType values itemType)) := by
  induction tags with
  | nil => rfl
  | cons tag rest inductionHypothesis =>
    unfold tagTypes
    split
    · simp only [Assembly.result_bind, resolved, inductionHypothesis]
      rfl
    · next different =>
      simp only [Assembly.result_bind, inductionHypothesis, Assembly.result_pure, Except.bind,
        List.map_cons]
      rw [tagType_of_ne_array values _ itemType (by simpa using different)]

theorem result_discriminatedMembers (propertyName identifier : String)
    (mapping : List (String × String)) :
    (discriminatedMembers propertyName identifier mapping).result = .ok (mapping.map fun target =>
      .intersection [.named (Naming.typeIdentifier (mappedTarget target.1 target.2)),
        tagObject propertyName identifier target.1]) := by
  induction mapping with
  | nil => rfl
  | cons entry rest inductionHypothesis =>
    simp only [discriminatedMembers, Assembly.result_bind, Assembly.result_askType,
      inductionHypothesis]
    rfl

theorem string?_eq_none {value : Value} (other : ∀ text, value ≠ .string text) :
    value.string? = none := by
  match value with
  | .scalar (.string text) => exact absurd rfl (other text)
  | .scalar .null | .scalar (.bool _) | .scalar (.int _) | .scalar (.float _) | .scalar (.date _)
  | .scalar (.timestamp _) | .scalar (.binary _) | .list _ | .map _ | .set _ | .pair _ _
  | .knot _ _ | .again _ _ => rfl

theorem filledString?_eq (value : Value) :
    value.filledString? = value.string?.filter fun text => !text.isEmpty := by
  match value with
  | .scalar (.string text) => cases empty : text.isEmpty <;> simp [Value.filledString?,
      Value.string?, Option.filter, empty]
  | .scalar .null | .scalar (.bool _) | .scalar (.int _) | .scalar (.float _) | .scalar (.date _)
  | .scalar (.timestamp _) | .scalar (.binary _) | .list _ | .map _ | .set _ | .pair _ _
  | .knot _ _ | .again _ _ => rfl

theorem usable?_ofValue (entries : Entries) :
    Discriminator.usable? (Discriminator.ofValue (entries.get "discriminator")) =
      Reading.discriminator? entries := by
  unfold Discriminator.ofValue Reading.discriminator?
  cases (entries.get "discriminator").entries? with
  | none => rfl
  | some discriminator =>
    simp only [Option.map_some, Option.bind_eq_bind, Option.bind_some, filledString?_eq]
    cases (discriminator.get "propertyName").string? with
    | none => rfl
    | some propertyName =>
      cases (discriminator.get "mapping").entries? with
      | none => simp [Discriminator.usable?]
      | some mapping =>
        have filled : (Ordered.ofList
            (mapping.map fun entry => (entry.1.text, entry.2.text))).isEmpty = mapping.isEmpty := by
          rw [Placement.isEmpty_ofList, List.isEmpty_map]
        cases unnamed : propertyName.isEmpty
        · simp [Discriminator.usable?, Option.filter, unnamed, filled]
        · simp [Discriminator.usable?, Option.filter, unnamed]

/-- A choice of one has the variants of its discriminator, else its members. -/
theorem result_resolve_oneOf (entries : Entries) (notes : Annotations) {members : List SchemaNode}
    {types : List TypeExpr} (resolved : (resolveMembers members).result = .ok types) :
    (resolve (.composition notes .oneOf members
      (Discriminator.ofValue (entries.get "discriminator")))).result =
        .ok (.union ((Reading.variants? entries).getD types)) := by
  unfold resolve Reading.variants?
  rw [usable?_ofValue]
  cases Reading.discriminator? entries with
  | none => simp [resolved, Except.bind]
  | some found => simp [result_discriminatedMembers, Except.bind]

/-! ### Properties -/

theorem Entries.isJson_of_get? {keyword : String} {item : Value} {entries : Entries}
    (json : Value.areAllJson entries = true) (found : entries.get? keyword = some item) :
    item.isJson = true :=
  ((Value.areAllJson_iff entries).1 json _ (mem_of_get? found)).2

theorem Entries.isJson_get {entries : Entries} (json : Value.areAllJson entries = true)
    (keyword : String) : (entries.get keyword).isJson = true := by
  rw [Entries.get]
  cases found : entries.get? keyword with
  | none => rfl
  | some item => exact isJson_of_get? json found

theorem areJson_of_filledItems? {value : Value} (json : value.isJson = true) {items : List Value}
    (found : filledItems? value = some items) : Value.areJson items = true := by
  cases value with
  | list others =>
    cases others with
    | nil => cases found
    | cons first rest => exact Option.some.inj found ▸ json
  | map _ | scalar _ | set _ | pair _ _ => cases found
  | knot _ _ | again _ _ => cases json

theorem value_of_boundOf {value : Value} {bound : Bound} (found : boundOf value = some bound) :
    bound.value = value := by
  unfold boundOf at found
  split at found
  · exact Option.some.inj found ▸ rfl
  · exact Option.some.inj found ▸ rfl
  · cases found

theorem int_of_countOf {value : Value} {count : Int} (found : countOf value = some count) :
    .int count = value := by
  unfold countOf at found
  split at found
  · exact Option.some.inj found ▸ rfl
  · cases found

/-- Bounds that are read from a JSON value are JSON values. -/
theorem isJson_of_mem_boundValues {entries : Entries} (json : Value.areAllJson entries = true)
    {item : Value} (member : item ∈ boundValues (Annotations.ofEntries entries)) :
    item.isJson = true := by
  simp only [boundValues, Annotations.ofEntries, List.mem_append, List.mem_filterMap,
    List.mem_cons, List.not_mem_nil, or_false, Option.map_eq_some_iff] at member
  rcases member with ⟨_, number, bound, found, rfl⟩ | ⟨_, count, length, found, rfl⟩
  · rcases number with rfl | rfl <;> rw [value_of_boundOf found] <;>
      exact Entries.isJson_get json _
  · rcases count with rfl | rfl | rfl | rfl <;> rw [int_of_countOf found] <;>
      exact Entries.isJson_get json _

/-- Annotations that are read from a JSON value show JSON values. -/
theorem isJson_ofEntries {entries : Entries} (json : Value.areAllJson entries = true) :
    (Annotations.ofEntries entries).isJson = true := by
  refine (Value.areJson_iff _).2 fun item member => ?_
  rw [documentedValues, List.mem_append] at member
  rcases member with free | bound
  · simp only [Annotations.ofEntries, List.mem_append, Option.mem_toList] at free
    rcases free with ((default | exampleValue) | enum) | constant
    · exact Entries.isJson_of_get? json default
    · exact Entries.isJson_of_get? json exampleValue
    · cases found : filledItems? (entries.get "enum") with
      | none => rw [found] at enum; cases enum
      | some values =>
        rw [found] at enum
        have all := areJson_of_filledItems? (Entries.isJson_get json "enum") found
        exact (Value.areJson_iff values).1 all item enum
    · exact Entries.isJson_of_get? json constant
  · exact isJson_of_mem_boundValues json bound

theorem isJson_notes {raw : Value} (json : raw.isJson = true) :
    (Reading.notes raw).isJson = true := by
  cases raw with
  | map entries => exact isJson_ofEntries json
  | scalar _ | list _ | set _ | pair _ _ | knot _ _ | again _ _ => rfl

theorem describe_parseSchema {raw : Value} (json : raw.isJson = true) (name : String) :
    describe (parseSchema raw).notes (some name) = .ok (Reading.describeProperty name raw) := by
  obtain ⟨description, described⟩ := succeeds_describe (isJson_notes json) (some name)
  rw [Assembly.result_ofExcept] at described
  rw [notes_parseSchema, Reading.describeProperty, described]
  rfl

theorem parseProperties_eq_map (entries : List (Scalar × Value)) :
    parseProperties entries =
      (entries.map fun entry => (entry.1.text, entry.2)).map fun entry =>
        (entry.1, parseSchema entry.2) := by
  induction entries with
  | nil => rfl
  | cons entry rest inductionHypothesis => rw [parseProperties, inductionHypothesis]; rfl

theorem result_resolveProperties {named : List (String × Value)}
    (right : ∀ entry ∈ named, entry.2.ReadsRight) (json : ∀ entry ∈ named, entry.2.isJson = true)
    (required : List String) :
    (resolveProperties required (named.map fun entry => (entry.1, parseSchema entry.2))).result =
      .ok (named.map fun entry =>
        Reading.field required (entry.1, entry.2, entry.2.schemaType)) := by
  induction named with
  | nil => rfl
  | cons entry rest inductionHypothesis =>
    obtain ⟨name, raw⟩ := entry
    have first := (right _ List.mem_cons_self).schema
    have described := describe_parseSchema (json _ List.mem_cons_self) name
    have further := inductionHypothesis
      (fun other member => right other (List.mem_cons_of_mem _ member))
      fun other member => json other (List.mem_cons_of_mem _ member)
    simp only [List.map_cons, resolveProperties, Assembly.result_bind, Assembly.result_askProperty,
      Assembly.result_ofExcept, first, described, further]
    rfl

/-! ### Keywords -/

section

variable {entries : Entries} {keyword : String} (right : (entries.get keyword).ReadsRight)

include right

theorem membersUnder_cases :
    (membersUnder keyword entries = none ∧ (entries.get keyword).reading.members = none) ∨
      ∃ members types, membersUnder keyword entries = some members ∧
        (entries.get keyword).reading.members = some types ∧
          (resolveMembers members).result = .ok types := by
  rw [membersUnder_eq]
  generalize entries.get keyword = value at right
  cases value with
  | list items => exact Or.inr ⟨_, _, rfl, rfl, right.members items rfl⟩
  | map _ | scalar _ | set _ | pair _ _ | knot _ _ | again _ _ => exact Or.inl ⟨rfl, rfl⟩

theorem schemaUnder_cases :
    (schemaUnder keyword entries = none ∧ (entries.get keyword).reading.type = .unknown) ∨
      ∃ node, schemaUnder keyword entries = some node ∧
        (resolve node).result = .ok (entries.get keyword).reading.type := by
  rw [schemaUnder_eq]
  generalize entries.get keyword = value at right
  cases value with
  | map parts => exact Or.inr ⟨_, rfl, right.schema⟩
  | list _ | scalar _ | set _ | pair _ _ | knot _ _ | again _ _ => exact Or.inl ⟨rfl, rfl⟩

theorem propertiesUnder_cases (required : List String) :
    (propertiesUnder keyword entries = none ∧ (entries.get keyword).reading.properties = none) ∨
      ∃ nodes properties, propertiesUnder keyword entries = some nodes ∧
        (entries.get keyword).reading.properties = some properties ∧
          (resolveProperties required nodes).result =
            .ok (properties.map (Reading.field required)) := by
  rw [propertiesUnder_eq]
  generalize entries.get keyword = value at right
  cases value with
  | map parts => exact Or.inr ⟨_, _, rfl, rfl, right.properties parts _ rfl rfl required⟩
  | list _ | scalar _ | set _ | pair _ _ | knot _ _ | again _ _ => exact Or.inl ⟨rfl, rfl⟩

/-- Without properties, an object maps any key to what it may hold beside them. -/
theorem result_resolve_additional (notes : Annotations) (required : List String) :
    (resolve (.object notes none required (additionalUnder keyword entries))).result =
      .ok (nullableIf notes (.mapping (entries.get keyword).reading.type)) := by
  rw [additionalUnder_eq]
  generalize entries.get keyword = value at right
  cases value with
  | map parts =>
    have resolved := right.schema
    simp only [resolve, Assembly.result_bind, resolved]
    rfl
  | scalar content => cases content <;> rfl
  | list _ | set _ | pair _ _ | knot _ _ | again _ _ => rfl

end

/-! ### Schemas -/

section

variable {entries : Entries} (right : ∀ keyword, (entries.get keyword).ReadsRight)
  (notes : Annotations)

include right

theorem result_resolve_array :
    (resolve (.array notes (schemaUnder "items" entries))).result =
      .ok (nullableIf notes (.array (entries.get "items").reading.type)) := by
  rcases schemaUnder_cases (right "items") with ⟨absent, unknown⟩ | ⟨node, present, resolved⟩
  · rw [absent, unknown]
    rfl
  · rw [present]
    simp only [resolve, Assembly.result_bind, resolved]
    rfl

theorem result_resolve_typeList (tags : List String) :
    (resolve (.typeList notes tags (schemaUnder "items" entries)
      (filledItems? (entries.get "enum")))).result =
        .ok (.union (tags.map
          (tagType (filledItems? (entries.get "enum")) (entries.get "items").reading.type))) := by
  rcases schemaUnder_cases (right "items") with ⟨absent, unknown⟩ | ⟨node, present, resolved⟩
  · rw [absent, unknown]
    rfl
  · rw [present]
    simp only [resolve, Assembly.result_bind, result_tagTypes _ resolved]
    rfl

theorem result_resolve_object :
    (resolve (.object notes (propertiesUnder "properties" entries)
      (textsIn (entries.get "required")) (additionalUnder "additionalProperties" entries))).result =
        .ok (nullableIf notes
          (Reading.object entries fun keyword => (entries.get keyword).reading)) := by
  unfold Reading.object
  rcases propertiesUnder_cases (right "properties") (textsIn (entries.get "required")) with
    ⟨absent, unread⟩ | ⟨nodes, properties, present, read, resolved⟩
  · rw [absent, unread]
    exact result_resolve_additional (right "additionalProperties") notes _
  · rw [present, read]
    simp only [resolve, Assembly.result_bind, resolved]
    rfl

/-- The shape resolves to the type that the rules give, nullable if the schema says so. -/
theorem result_resolve_baseShape :
    (resolve (baseShape notes entries
      ⟨propertiesUnder "properties" entries, schemaUnder "items" entries,
        additionalUnder "additionalProperties" entries⟩)).result =
      .ok (nullableIf notes
        (Reading.shape entries fun keyword => (entries.get keyword).reading)) := by
  have object := result_resolve_object right notes
  have array := result_resolve_array right notes
  have present : (propertiesUnder "properties" entries).isSome =
      (entries.get "properties").reading.properties.isSome := by
    rcases propertiesUnder_cases (right "properties") [] with
      ⟨absent, unread⟩ | ⟨nodes, properties, present, read, _⟩
    · rw [absent, unread]
      rfl
    · rw [present, read]
      rfl
  unfold baseShape Reading.shape
  cases entries.get "type" with
  | scalar content =>
    cases content with
    | string tag =>
      have unlisted : (resolve
          (if tag == "object" then .object notes (propertiesUnder "properties" entries)
            (textsIn (entries.get "required")) (additionalUnder "additionalProperties" entries)
          else if tag == "array" then .array notes (schemaUnder "items" entries)
          else if tag.isEmpty then .unknown notes else .primitive notes tag)).result =
            .ok (nullableIf notes
              (if tag == "object" then
                Reading.object entries fun keyword => (entries.get keyword).reading
              else if tag == "array" then .array (entries.get "items").reading.type
              else primitiveType tag)) := by
        split
        · exact object
        · split
          · exact array
          · split
            · next empty => rw [String.isEmpty_iff.1 empty]; rfl
            · rfl
      dsimp only
      cases isEnumerable tag with
      | false => exact unlisted
      | true =>
        cases filledItems? (entries.get "enum") with
        | none => exact unlisted
        | some values => rfl
    | null =>
      dsimp only
      rw [present]
      split
      · exact object
      · rfl
    | bool _ | int _ | float _ | date _ | timestamp _ | binary _ => rfl
  | list _ | map _ | set _ | pair _ _ | knot _ _ | again _ _ => rfl

end

theorem Value.readsRight_map {entries : Entries} (json : areAllJson entries = true)
    (right : ∀ entry ∈ entries, entry.2.ReadsRight) : (Value.map entries).ReadsRight where
  schema := by
    have under (keyword : String) : (Entries.get keyword entries).ReadsRight :=
      Entries.get_cases (readsRight_scalar .null) right
    rw [schemaType_map]
    -- Both sides try the keywords in the same order: each case settles one keyword on both.
    unfold parseSchema Reading.schema
    split
    · next pointer refers =>
      rw [Reading.reference?, refers]
      rfl
    · next other =>
      rw [Reading.reference?, string?_eq_none other, Option.map_none,
        Option.orElse_eq_orElse, Option.orElse_none, Reading.composition?]
      rcases membersUnder_cases (under "anyOf") with
        ⟨noAny, unreadAny⟩ | ⟨members, types, any, readAny, resolved⟩
      · rcases membersUnder_cases (under "oneOf") with
          ⟨noOne, unreadOne⟩ | ⟨members, types, one, readOne, resolved⟩
        · rcases membersUnder_cases (under "allOf") with
            ⟨noAll, unreadAll⟩ | ⟨members, types, all, readAll, resolved⟩
          · rw [noAny, noOne, noAll, unreadAny, unreadOne, unreadAll]
            unfold Reading.typeList? Reading.constant?
            cases (Entries.get "type" entries).items? with
            | some tags =>
              have resolved := result_resolve_typeList under (.ofEntries entries)
                (tags.map Value.text)
              rw [List.map_map] at resolved
              exact resolved
            | none =>
              cases Entries.get? "const" entries with
              | some value => rfl
              | none => exact result_resolve_baseShape under _
          · rw [noAny, noOne, all, unreadAny, unreadOne, readAll]
            simp only [resolve, Assembly.result_bind, resolved]
            rfl
        · rw [noAny, one, unreadAny, readOne]
          exact result_resolve_oneOf entries _ resolved
      · rw [any, readAny]
        simp only [resolve, Assembly.result_bind, resolved]
        rfl
  members _ same := by cases same
  properties others properties same read required := by
    obtain rfl := Value.map.inj same
    have named : properties = (Ordered.ofList (entries.map fun entry =>
        (entry.1.text, entry.2))).map fun entry => (entry.1, entry.2, entry.2.schemaType) := by
      rw [Placement.map_ofList fun item : Value => (item, item.schemaType),
        ← Option.some.inj read, readings_eq_map, List.map_map, List.map_map]
      rfl
    rw [parseProperties_eq_map, ← Placement.map_ofList, named, List.map_map]
    refine result_resolveProperties (fun entry member => ?_) (fun entry member => ?_) required
    · obtain ⟨source, among, rfl⟩ := List.mem_map.1 (Placement.mem_of_mem_ofList member)
      exact right source among
    · obtain ⟨source, among, rfl⟩ := List.mem_map.1 (Placement.mem_of_mem_ofList member)
      exact ((areAllJson_iff entries).1 json source among).2

/-- A schema over JSON values resolves to the type that the rules give. -/
theorem result_resolve_of_isJson {raw : Value} (json : raw.isJson = true) :
    (resolve (parseSchema raw)).result = .ok raw.schemaType :=
  (Value.inductionOnJson json Value.readsRight_scalar (fun _ => Value.readsRight_list)
    fun _ => Value.readsRight_map : raw.ReadsRight).schema

/-- Reading a schema from a JSON value and resolving it gives the type that the value has by the
rules. -/
theorem result_resolve_parseSchema {raw : Value} (json : raw.isJson = true) :
    readSchema? raw = some (parseSchema raw) ∧
      (resolve (parseSchema raw)).result = .ok raw.schemaType := by
  refine ⟨readSchema?_of_isUntied (Value.isUntied_of_isJson json), ?_⟩
  have right : raw.ReadsRight := Value.inductionOnJson json Value.readsRight_scalar
    (fun _ => Value.readsRight_list) fun _ => Value.readsRight_map
  exact right.schema

/-- A schema of an object with a required property and one that refers to another schema. -/
def labelledSchema : Value :=
  .map [(.string "type", .string "object"), (.string "nullable", .bool true),
    (.string "required", .list [.string "id", .null]),
    (.string "properties", .map [(.string "id", .map [(.string "type", .string "integer")]),
      (.string "label", .map [(.string "$ref", .string "#/components/schemas/label"),
        (.string "anyOf", .list [])])])]

theorem result_resolve_labelledSchema :
    labelledSchema.isJson = true ∧ (resolve (parseSchema labelledSchema)).result =
      .ok (.nullable (.object [
        (⟨"id", "id", false, some ⟨some "id property", ["Type: integer"]⟩⟩, .primitive .integer),
        (⟨"label", "label", true, some ⟨some "label property", []⟩⟩, .named "Label")])) := by
  have json : labelledSchema.isJson = true := by decide
  refine ⟨json, (result_resolve_parseSchema json).2.trans ?_⟩
  rfl

end ClientModel
