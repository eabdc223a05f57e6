/-
This file says how the text of a type groups its parts. Every text of a type with bare names leaves
nothing open, and where it has no space no mark stands outside in it; so an array, which encloses a
text with a space, holds its items together. An intersection encloses its members that are unions,
but not those that may be null. The main statement is that a bar stands outside in the text of an
intersection exactly if a member may be null, itself or as a part of an intersection, and that
neither mark stands outside in front of the brackets of an array.
-/

import ClientModel.Proofs.Enclosing
import ClientModel.Proofs.Identifiers
import ClientModel.Schema.Parsing
import ClientModel.Types.Rendering
import ClientModel.Types.Resolution

namespace ClientModel

namespace TypeText

/-! ### Texts with marks -/

/-- What there is to know of the text of a type: it leaves nothing open, no mark stands outside
where it has no space, and no bar does unless it is exposed. -/
structure Groups (exposed : Prop) (text : List Char) : Prop where
  encloses : Encloses (fun _ => true) text
  tight : ' ' ∉ text → Encloses (!isMark ·) text
  hidden : ¬exposed → Encloses (· != '|') text

namespace Groups

variable {exposed : Prop} {text : List Char}

/-- A text in which no mark stands outside. -/
theorem of_encloses (right : Encloses (!isMark ·) text) : Groups exposed text where
  encloses := right.mono fun _ _ => rfl
  tight _ := right
  hidden _ := right.mono fun character unmarked => by
    rw [isMark, Bool.not_or, Bool.and_eq_true] at unmarked
    exact unmarked.1

/-- What stands in brackets is not exposed. -/
theorem bracketed {opening closing : Char} {bracket : Bracket}
    (opens : opened? opening = some bracket) (closes : closed? closing = some bracket)
    (unmarked : isMark opening = false) (inner : Groups exposed text) {outer : Prop} :
    Groups outer (opening :: (text ++ [closing])) :=
  .of_encloses (.bracketed opens closes (by rw [unmarked]; rfl) inner.encloses)

/-- Parts behind separators with spaces. -/
theorem intercalate {Item : Type} (write : Item → List Char) {isExposed : Item → Prop}
    {items : List Item} (each : ∀ item ∈ items, Groups (isExposed item) (write item))
    (separator : List Char) (encloses : Encloses (fun _ => true) separator)
    (spaced : ' ' ∈ separator)
    (hidden : ¬exposed → Encloses (· != '|') separator ∧ ∀ item ∈ items, ¬isExposed item) :
    Groups exposed (separator.intercalate (items.map write)) where
  encloses := .intercalate encloses (List.forall_mem_map.2 fun item member =>
    (each item member).encloses)
  tight free := by
    match items with
    | [] => exact .nil
    | [item] =>
      have only : separator.intercalate ([item].map write) = write item := by
        simp [List.intercalate]
      rw [only] at free ⊢
      exact (each item (List.mem_singleton_self item)).tight free
    | first :: second :: rest =>
      rw [List.map_cons, List.map_cons, List.intercalate_cons_cons] at free
      exact absurd (List.mem_append_left _ (List.mem_append_right _ spaced)) free
  hidden none := by
    obtain ⟨between, unexposed⟩ := hidden none
    exact .intercalate between (List.forall_mem_map.2 fun item member =>
      (each item member).hidden (unexposed item member))

end Groups

end TypeText

namespace TypeExpr

open TypeText

/-! ### Types with bare names -/

mutual

/-- The names of declared types and the accessors of fields in a type need no quotes. -/
def hasBareNames : TypeExpr → Bool
  | .named name => Naming.isBareName name.toList
  | .array items => items.hasBareNames
  | .mapping values => values.hasBareNames
  | .nullable inner => inner.hasBareNames
  | .union members => haveBareNames members
  | .intersection members => haveBareNames members
  | .object fields => haveBareFields fields
  | .primitive _ | .literal _ | .unknown | .noContent => true

/-- `hasBareNames` of members. -/
def haveBareNames : List TypeExpr → Bool
  | [] => true
  | member :: rest => member.hasBareNames && haveBareNames rest

/-- `hasBareNames` of fields. -/
def haveBareFields : List (FieldLabel × TypeExpr) → Bool
  | [] => true
  | (label, type) :: rest =>
    Naming.isBareName label.identifier.toList && type.hasBareNames && haveBareFields rest

end

theorem encloses_of_isBareName {name : List Char} (bare : Naming.isBareName name = true) :
    Encloses (!isMark ·) name := by
  have further : signs.all (fun sign => !(Naming.isBareFurther sign || sign == '\n')) = true := by
    decide
  have word {word : List Char} (is : Naming.IsWord Naming.isBareStart Naming.isBareFurther word) :
      ∀ character ∈ word, Naming.isBareFurther character = true := by
    obtain ⟨first, rest, rfl, starts, goesOn⟩ := is
    refine List.forall_mem_cons.2 ⟨?_, List.all_eq_true.1 goesOn⟩
    rw [Naming.isBareFurther, starts, Bool.true_or]
  refine encloses_of_kind further fun character member => Bool.or_eq_true_iff.2 ?_
  rcases Naming.isWord_or_of_isWordOf bare with is | ⟨front, is, rfl⟩
  · exact Or.inl (word is character member)
  · rcases List.mem_append.1 member with inside | last
    · exact Or.inl (word is character inside)
    · exact Or.inr (beq_iff_eq.2 (List.mem_singleton.1 last))

/-! ### Parts of intersections -/

/-- A type that is written with a bar and is no union: it may be null, or some member of it is
such a type. -/
inductive IsExposed : TypeExpr → Prop
  | nullable (inner : TypeExpr) : IsExposed (.nullable inner)
  | intersection {members : List TypeExpr} {member : TypeExpr} (among : member ∈ members)
    (exposed : IsExposed member) : IsExposed (.intersection members)

theorem isExposed_intersection_iff (members : List TypeExpr) :
    IsExposed (.intersection members) ↔ ∃ member ∈ members, IsExposed member := by
  constructor
  · rintro (_ | ⟨among, exposed⟩)
    exact ⟨_, among, exposed⟩
  · rintro ⟨member, among, exposed⟩
    exact .intersection among exposed

/-- A type that is a union. -/
def isUnion : TypeExpr → Bool
  | .union _ => true
  | _ => false

/-- The text of a part of an intersection. -/
def partText (type : TypeExpr) : String :=
  if type.isUnion then parenthesized type.render else type.render

theorem renderMembers_eq_map (members : List TypeExpr) :
    renderMembers members = members.map render := by
  induction members with
  | nil => rfl
  | cons member rest inductionHypothesis =>
    rw [List.map_cons, ← inductionHypothesis]
    rfl

theorem renderParts_eq_map (members : List TypeExpr) :
    renderParts members = members.map partText := by
  induction members with
  | nil => rfl
  | cons member rest inductionHypothesis =>
    rw [List.map_cons, ← inductionHypothesis]
    cases member <;> rfl

theorem renderFields_eq_map (fields : List (FieldLabel × TypeExpr)) :
    renderFields fields = fields.map fun field => fieldText field.1 field.2.render := by
  induction fields with
  | nil => rfl
  | cons field rest inductionHypothesis =>
    rw [List.map_cons, ← inductionHypothesis]
    rfl

theorem render_union (members : List TypeExpr) :
    (union members).render = " | ".intercalate (members.map render) :=
  congrArg _ (renderMembers_eq_map members)

theorem render_intersection (members : List TypeExpr) :
    (intersection members).render = " & ".intercalate (members.map partText) :=
  congrArg _ (renderParts_eq_map members)

theorem render_object (fields : List (FieldLabel × TypeExpr)) :
    (object fields).render = "\x7b" ++ ", ".intercalate
      (fields.map fun field => fieldText field.1 field.2.render) ++ "\x7d" :=
  congrArg (fun texts => "\x7b" ++ ", ".intercalate texts ++ "\x7d") (renderFields_eq_map fields)

theorem toList_parenthesized (text : String) :
    (parenthesized text).toList = '(' :: (text.toList ++ [')']) := by
  show ("(" ++ text ++ ")").toList = _
  rw [String.toList_append, String.toList_append, List.append_assoc]
  rfl

/-- The text of a type groups as its parts do. -/
def IsGrouped (type : TypeExpr) : Prop :=
  Groups (type.IsExposed ∨ type.isUnion = true) type.render.toList

/-- A union is enclosed as a part. -/
theorem IsGrouped.partText {type : TypeExpr} (grouped : type.IsGrouped) :
    Groups type.IsExposed type.partText.toList := by
  unfold TypeExpr.partText
  cases union : type.isUnion with
  | true =>
    rw [if_pos rfl, toList_parenthesized]
    exact .bracketed rfl rfl rfl grouped
  | false =>
    rw [if_neg (by decide)]
    exact { grouped with hidden := fun none => grouped.hidden (by simp [none, union]) }

/-! ### Texts of types -/

section

variable {members : List TypeExpr} (each : ∀ member ∈ members, member.IsGrouped)

include each

theorem isGrouped_union : (union members).IsGrouped := by
  rw [IsGrouped, render_union, String.toList_intercalate, List.map_map]
  refine .intercalate (fun member : TypeExpr => member.render.toList) each " | ".toList
    (.word " | " (by decide)) (by decide) fun none => ?_
  exact absurd (Or.inr rfl) none

theorem isGrouped_intersection : (intersection members).IsGrouped := by
  rw [IsGrouped, render_intersection, String.toList_intercalate, List.map_map]
  refine .intercalate (fun member : TypeExpr => member.partText.toList)
    (fun member among => (each member among).partText) " & ".toList
    (.word " & " (by decide)) (by decide) fun none => ⟨.word " & " (by decide), ?_⟩
  exact fun member among exposed => none (Or.inl (.intersection among exposed))

end

theorem isGrouped_nullable {inner : TypeExpr} (grouped : inner.IsGrouped) :
    (nullable inner).IsGrouped := by
  rw [IsGrouped, render_nullable, String.toList_append]
  refine ⟨grouped.encloses.append (.word " | null" (by decide)), fun free => ?_, fun none => ?_⟩
  · exact absurd (List.mem_append_right _ (by decide)) free
  · exact absurd (Or.inl (.nullable inner)) none

/-- What stands in front of the brackets of an array: its items, enclosed where their text has a
space. -/
theorem encloses_front {items : TypeExpr} (grouped : items.IsGrouped) :
    Encloses (!isMark ·)
      (if items.render.contains ' ' then parenthesized items.render else items.render).toList := by
  split
  · rw [toList_parenthesized]
    exact .bracketed rfl rfl rfl grouped.encloses
  · next free =>
    refine grouped.tight fun member => free ?_
    rw [String.contains_char_eq, decide_eq_true member]

theorem isGrouped_array {items : TypeExpr} (grouped : items.IsGrouped) :
    (array items).IsGrouped := by
  rw [IsGrouped, render_array, arrayText, String.toList_append]
  exact .of_encloses ((encloses_front grouped).append (Encloses.word "[]" (by decide)))

theorem isGrouped_mapping {values : TypeExpr} (grouped : values.IsGrouped) :
    (mapping values).IsGrouped := by
  have inside : Encloses (!isMark ·) ('<' :: (values.render.toList ++ ['>'])) :=
    .bracketed rfl rfl rfl grouped.encloses
  rw [IsGrouped, render_mapping, String.toList_append, String.toList_append, List.append_assoc]
  exact .of_encloses ((Encloses.word "map" (by decide)).append inside)

/-- The text of a field leaves nothing open. -/
theorem encloses_fieldText (label : FieldLabel) {type : TypeExpr}
    (bare : Naming.isBareName label.identifier.toList = true) (grouped : type.IsGrouped) :
    Encloses (fun _ => true) (fieldText label type.render).toList := by
  have name := encloses_of_isBareName bare
  have mark : Encloses (!isMark ·) (if label.optional then "?" else "").toList := by
    split
    · exact Encloses.word "?" (by decide)
    · exact .nil
  have front := (name.append mark).append (Encloses.word ": " (by decide))
  unfold fieldText
  rw [String.toList_append, String.toList_append, String.toList_append]
  exact (front.mono fun _ _ => rfl).append grouped.encloses

theorem isGrouped_object {fields : List (FieldLabel × TypeExpr)}
    (each : ∀ field ∈ fields,
      Naming.isBareName field.1.identifier.toList = true ∧ field.2.IsGrouped) :
    (object fields).IsGrouped := by
  rw [IsGrouped, render_object, String.toList_append, String.toList_append,
    String.toList_intercalate, List.map_map, List.append_assoc]
  refine .of_encloses (.bracketed rfl rfl rfl (.intercalate (.word ", " (by decide)) ?_))
  refine List.forall_mem_map.2 fun field member => ?_
  obtain ⟨bare, grouped⟩ := each field member
  exact encloses_fieldText field.1 bare grouped

theorem isGrouped_primitive (kind : PrimitiveKind) : (primitive kind).IsGrouped :=
  .of_encloses (Encloses.word kind.name (by cases kind <;> decide))

mutual

/-- The text of a type with bare names groups as its parts do. -/
theorem isGrouped_of_hasBareNames (type : TypeExpr) (bare : type.hasBareNames = true) :
    type.IsGrouped := by
  match type with
  | .named name =>
    rw [hasBareNames] at bare
    exact .of_encloses (encloses_of_isBareName bare)
  | .primitive kind => exact isGrouped_primitive kind
  | .literal value =>
    have written : (literal value).render.toList = Json.written Json.literalStyle 0 value :=
      String.toList_ofList
    rw [IsGrouped, written]
    exact .of_encloses (encloses_written 0 value)
  | .array items =>
    rw [hasBareNames] at bare
    exact isGrouped_array (isGrouped_of_hasBareNames items bare)
  | .mapping values =>
    rw [hasBareNames] at bare
    exact isGrouped_mapping (isGrouped_of_hasBareNames values bare)
  | .nullable inner =>
    rw [hasBareNames] at bare
    exact isGrouped_nullable (isGrouped_of_hasBareNames inner bare)
  | .union members =>
    rw [hasBareNames] at bare
    exact isGrouped_union (areGrouped_of_haveBareNames members bare)
  | .intersection members =>
    rw [hasBareNames] at bare
    exact isGrouped_intersection (areGrouped_of_haveBareNames members bare)
  | .object fields =>
    rw [hasBareNames] at bare
    exact isGrouped_object (areGrouped_of_haveBareFields fields bare)
  | .unknown => exact .of_encloses (Encloses.word "unknown" (by decide))
  | .noContent => exact .of_encloses (Encloses.word "void" (by decide))

theorem areGrouped_of_haveBareNames (members : List TypeExpr)
    (bare : haveBareNames members = true) : ∀ member ∈ members, member.IsGrouped := by
  match members with
  | [] => exact fun _ among => absurd among List.not_mem_nil
  | member :: rest =>
    rw [haveBareNames, Bool.and_eq_true] at bare
    exact List.forall_mem_cons.2 ⟨isGrouped_of_hasBareNames member bare.1,
      areGrouped_of_haveBareNames rest bare.2⟩

theorem areGrouped_of_haveBareFields (fields : List (FieldLabel × TypeExpr))
    (bare : haveBareFields fields = true) :
    ∀ field ∈ fields,
      Naming.isBareName field.1.identifier.toList = true ∧ field.2.IsGrouped := by
  match fields with
  | [] => exact fun _ among => absurd among List.not_mem_nil
  | (label, type) :: rest =>
    rw [haveBareFields, Bool.and_eq_true, Bool.and_eq_true] at bare
    exact List.forall_mem_cons.2 ⟨⟨bare.1.1, isGrouped_of_hasBareNames type bare.1.2⟩,
      areGrouped_of_haveBareFields rest bare.2⟩

end

/-! ### Bars in intersections -/

theorem hasBareNames_of_mem {members : List TypeExpr} (bare : haveBareNames members = true)
    {member : TypeExpr} (among : member ∈ members) : member.hasBareNames = true := by
  induction members with
  | nil => exact absurd among List.not_mem_nil
  | cons first rest inductionHypothesis =>
    rw [haveBareNames, Bool.and_eq_true] at bare
    rcases List.mem_cons.1 among with rfl | further
    · exact bare.1
    · exact inductionHypothesis bare.2 further

theorem IsExposed.isUnion_eq_false {type : TypeExpr} (exposed : type.IsExposed) :
    type.isUnion = false := by
  cases exposed <;> rfl

/-- A bar stands outside in the text of an exposed type. -/
theorem IsExposed.standsOutside {type : TypeExpr} (exposed : type.IsExposed)
    (bare : type.hasBareNames = true) : StandsOutside " | " type.render := by
  induction exposed with
  | nullable inner =>
    rw [hasBareNames] at bare
    have grouped := isGrouped_of_hasBareNames inner bare
    refine ⟨inner.render, "null", ?_, grouped.encloses.returns []⟩
    rw [render_nullable, String.append_assoc]
    rfl
  | @intersection members member among exposed inductionHypothesis =>
    rw [hasBareNames] at bare
    have each := areGrouped_of_haveBareNames members bare
    have part : member.render ∈ members.map partText := by
      refine List.mem_map.2 ⟨member, among, ?_⟩
      rw [partText, exposed.isUnion_eq_false, if_neg (by decide)]
    have between : Encloses (fun _ => true) " & ".toList := .word " & " (by decide)
    obtain ⟨before, after, same, encloses⟩ := between.exists_intercalate_eq
      (List.forall_mem_map.2 fun other member => (each other member).partText.encloses) part
    rw [render_intersection, same]
    exact (inductionHypothesis (hasBareNames_of_mem bare among)).append encloses after

/-- Let the names in a type be bare. Its text leaves nothing open. If the type is an intersection, a
bar stands outside in its text exactly if some member may be null, itself or as a part of an
intersection. If it is an array, neither mark stands outside in front of its brackets. -/
theorem grouping_of_render {type : TypeExpr} (bare : type.hasBareNames = true) {text : String}
    (rendered : type.render? = .ok text) :
    (Place.between []).passAll text.toList = .between [] ∧
      (∀ members, type = .intersection members →
        (StandsOutside " | " text ↔ ∃ member ∈ members, member.IsExposed)) ∧
      ∀ items, type = .array items → ∃ front, text = front ++ "[]" ∧
        ¬StandsOutside " | " front ∧ ¬StandsOutside " & " front := by
  have same : type.render = text := by
    unfold render? at rendered
    split at rendered
    · cases rendered
    · exact Except.ok.inj rendered
  subst same
  have grouped := isGrouped_of_hasBareNames type bare
  refine ⟨grouped.encloses.returns [], ?_, ?_⟩
  · rintro members rfl
    rw [← isExposed_intersection_iff]
    constructor
    · intro outside
      by_contra unexposed
      have hidden := grouped.hidden (by simp [unexposed, isUnion])
      exact hidden.not_standsOutside rfl (by decide) outside
    · exact fun exposed => exposed.standsOutside bare
  · rintro items rfl
    rw [hasBareNames] at bare
    have front := encloses_front (isGrouped_of_hasBareNames items bare)
    exact ⟨_, rfl, front.not_standsOutside rfl (by decide),
      front.not_standsOutside rfl (by decide)⟩

/-- An intersection with bars in an array, in a union and in an object. -/
def keeperType : TypeExpr :=
  .intersection
    [.array (.nullable (.primitive .string)), .union [.literal (.string " | "), .named "Cat"],
      .object [(⟨"owner", "owner", true, none⟩, .nullable (.named "Pet"))]]

theorem grouping_of_render_keeperType :
    keeperType.hasBareNames = true ∧
      keeperType.render? =
        .ok "(string | null)[] & (\" | \" | Cat) & \x7bowner?: Pet | null\x7d" ∧
      ¬StandsOutside " | " "(string | null)[] & (\" | \" | Cat) & \x7bowner?: Pet | null\x7d" ∧
      ∃ front, (array keeperType).render? = .ok (front ++ "[]") ∧ ¬StandsOutside " | " front ∧
        ¬StandsOutside " & " front := by
  have bare : keeperType.hasBareNames = true := by decide
  have rendered : keeperType.render? =
      .ok "(string | null)[] & (\" | \" | Cat) & \x7bowner?: Pet | null\x7d" := by
    have spaced : "string | null".contains ' ' = true := by
      rw [String.contains_char_eq]
      decide
    have array : (TypeExpr.array (.nullable (.primitive .string))).render =
        "(string | null)[]" := by
      show arrayText "string | null" = _
      rw [arrayText, spaced]
      rfl
    have text : keeperType.render = " & ".intercalate
        [(TypeExpr.array (.nullable (.primitive .string))).render, "(\" | \" | Cat)",
          "\x7bowner?: Pet | null\x7d"] := by rfl
    have writable : keeperType.unrenderable? = none := by rfl
    rw [render?, writable, text, array]
    rfl
  refine ⟨bare, rendered, fun outside => ?_, ?_⟩
  · obtain ⟨member, among, exposed⟩ := ((grouping_of_render bare rendered).2.1 _ rfl).1 outside
    simp only [List.mem_cons, List.not_mem_nil, or_false] at among
    rcases among with rfl | rfl | rfl <;> cases exposed
  · have bareToo : (array keeperType).hasBareNames = true := bare
    have whole : (array keeperType).render? = .ok (array keeperType).render := by rfl
    obtain ⟨front, same, noBar, noAmpersand⟩ := (grouping_of_render bareToo whole).2.2 _ rfl
    exact ⟨front, whole.trans (congrArg Except.ok same), noBar, noAmpersand⟩

/-- A schema of which one part may be null. -/
def nullablePart : Value :=
  .map [(.string "allOf", .list
    [.map [(.string "type", .string "string"), (.string "nullable", .bool true)],
      .map [(.string "$ref", .string "#/components/schemas/Pet")]])]

/-- In the text of what it resolves to, a bar stands outside beside the mark of the intersection. -/
theorem standsOutside_nullablePart :
    (resolve (parseSchema nullablePart)).result =
        .ok (.intersection [.nullable (.primitive .string), .named "Pet"]) ∧
      (intersection [.nullable (.primitive .string), .named "Pet"]).hasBareNames = true ∧
      (intersection [.nullable (.primitive .string), .named "Pet"]).render? =
        .ok "string | null & Pet" ∧
      StandsOutside " | " "string | null & Pet" :=
  ⟨rfl, by decide, rfl, "string", "null & Pet", rfl, rfl⟩

end TypeExpr

end ClientModel
