/-
This file relates headers in three places: in options, in a configuration, and in a request. The
main statements are that headers with usual names and values are what options can give, and that a
request has the values its caller wants, so that two requests with the same names agree only where
those values do.
-/

import ClientModel.Fetching.Request
import ClientModel.Proofs.Extraction
import ClientModel.Proofs.Placeholders
import ClientModel.Proofs.Placement

namespace ClientModel

/-! ### Maps of distinct names -/

namespace Ordered

variable {Key Item : Type} [BEq Key] [LawfulBEq Key]

/-- A new key goes to the end. -/
theorem put_of_notMem {key : Key} {entries : List (Key × Item)}
    (fresh : key ∉ entries.map Prod.fst) (item : Item) :
    put key item entries = entries ++ [(key, item)] := by
  induction entries with
  | nil => rfl
  | cons entry rest inductionHypothesis =>
    rw [List.map_cons, List.mem_cons, not_or] at fresh
    simpa [put, putBy, Ne.symm fresh.1] using inductionHypothesis fresh.2

/-- Entries with distinct keys are the map that they write. -/
theorem ofList_of_nodup {entries : List (Key × Item)}
    (distinct : (entries.map Prod.fst).Nodup) : ofList entries = entries := by
  induction entries using List.reverseRecOn with
  | nil => rfl
  | append_singleton rest entry inductionHypothesis =>
    rw [List.map_append, List.map_singleton, List.nodup_append] at distinct
    have fresh : entry.1 ∉ rest.map Prod.fst := fun member =>
      distinct.2.2 _ member _ (List.mem_singleton_self _) rfl
    have before : rest.foldl (fun written entry => put entry.1 entry.2 written) [] = rest :=
      inductionHypothesis distinct.1
    rw [ofList, List.foldl_append, before, List.foldl_cons, List.foldl_nil, put_of_notMem fresh]

/-- Writing entries one after another does nothing to the keys that are not among theirs. -/
theorem get?_foldl_put_of_notMem {key : Key} {entries : List (Key × Item)}
    (absent : key ∉ entries.map Prod.fst) (before : List (Key × Item)) :
    get? key (entries.foldl (fun written entry => put entry.1 entry.2 written) before) =
      get? key before := by
  induction entries generalizing before with
  | nil => rfl
  | cons entry rest inductionHypothesis =>
    rw [List.map_cons, List.mem_cons, not_or] at absent
    rw [List.foldl_cons, inductionHypothesis absent.2, get?_put_of_ne absent.1]

/-- Of entries with distinct keys that are written one after another, each is there in the end. -/
theorem get?_foldl_put {key : Key} {item : Item} {entries : List (Key × Item)}
    (distinct : (entries.map Prod.fst).Nodup) (member : (key, item) ∈ entries)
    (before : List (Key × Item)) :
    get? key (entries.foldl (fun written entry => put entry.1 entry.2 written) before) =
      some item := by
  induction entries generalizing before with
  | nil => cases member
  | cons entry rest inductionHypothesis =>
    rw [List.map_cons, List.nodup_cons] at distinct
    rw [List.foldl_cons]
    rcases List.mem_cons.1 member with rfl | later
    · rw [get?_foldl_put_of_notMem distinct.1, get?_put_self]
    · exact inductionHypothesis distinct.2 later _

end Ordered

/-! ### Headers as options -/

namespace Headers

/-- A header that an option can give: a name without a colon, and no blanks at the ends. -/
structure IsUsual (header : String × String) : Prop where
  named : header.1 ≠ ""
  colonless : ':' ∉ header.1.toList
  name : Text.trimmed header.1 = header.1
  value : Text.trimmed header.2 = header.2

/-- Headers that options can give. Each name is there once. -/
structure AreUsual (headers : Headers) : Prop where
  distinct : (headers.map Prod.fst).Nodup
  usual : ∀ header ∈ headers, IsUsual header

/-- The option that gives a header. -/
def optionOf (header : String × String) : String :=
  String.ofList (header.1.toList ++ ':' :: ' ' :: header.2.toList)

/-- An option gives the header that it was made of. -/
theorem ofOption_optionOf {header : String × String} (usual : IsUsual header) :
    ofOption (optionOf header) = .ok header := by
  have inside : ∀ character ∈ header.1.toList, isNameCharacter character = true :=
    fun character member => bne_iff_ne.2 (ne_of_mem_of_not_mem member usual.colonless)
  have colon : isNameCharacter ':' = false := by decide
  have name : Text.trim header.1.toList = header.1.toList := Text.trim_toList_of_trimmed usual.name
  have value : Text.trim (' ' :: header.2.toList) = header.2.toList := by
    rw [Text.trim, List.dropWhile_cons_of_pos (by decide)]
    exact Text.trim_toList_of_trimmed usual.value
  have named : header.1.toList.isEmpty = false := by simpa using usual.named
  simp only [ofOption, optionOf, String.toList_ofList,
    Text.takeWhile_append_stop inside colon, Text.dropWhile_append_stop inside colon, name, value,
    named, String.ofList_toList]
  rfl

/-- The options of headers give those headers. -/
theorem ofOptions_map_optionOf {headers : Headers} (usual : AreUsual headers) :
    ofOptions (headers.map optionOf) = .ok headers := by
  have each : (headers.map optionOf).mapM ofOption = .ok headers := by
    rw [mapM_eq_ok_iff, List.forall₂_map_left_iff, List.forall₂_same]
    exact fun header member => ofOption_optionOf (usual.usual header member)
  rw [ofOptions, each]
  exact congrArg Except.ok (Ordered.ofList_of_nodup usual.distinct)

/-- Where the pieces of all values settle, filling filled headers changes nothing. -/
theorem fill_fill {environment : Environment} {headers : Headers}
    (settled : ∀ header ∈ headers, ∀ piece ∈ pieces header.2, piece.Settles environment) :
    (headers.fill environment).fill environment = headers.fill environment := by
  simp only [fill, List.map_map]
  refine List.map_congr_left fun header member => ?_
  exact congrArg (header.1, ·) (fillPlaceholders_fillPlaceholders (settled header member))

end Headers

/-! ### Headers in requests -/

namespace Request

/-- Requests with the same names of headers agree where the values do. -/
theorem forDocument_eq_iff {headers : Headers} (distinct : (headers.map Prod.fst).Nodup)
    (change change' : String → String) (url : String) (timeout : Binary64) :
    forDocument url (headers.map fun header => (header.1, change header.2)) timeout =
        forDocument url (headers.map fun header => (header.1, change' header.2)) timeout ↔
      ∀ header ∈ headers, change header.2 = change' header.2 := by
  have sent (change : String → String) {header : String × String} (member : header ∈ headers) :
      Ordered.get? header.1 (allHeaders (headers.map fun header => (header.1, change header.2))) =
        some (change header.2) := by
    have names : ((headers.map fun header => (header.1, change header.2)).map Prod.fst).Nodup := by
      simpa [Function.comp_def] using distinct
    exact Ordered.get?_foldl_put names (List.mem_map.2 ⟨header, member, rfl⟩) _
  constructor
  · intro same header member
    have headersSame := congrArg Request.headers same
    have values := congrArg (Ordered.get? header.1) headersSame
    exact Option.some.inj ((sent change member).symm.trans (values.trans (sent change' member)))
  · intro same
    have filled : (headers.map fun header => (header.1, change header.2)) =
        headers.map fun header => (header.1, change' header.2) :=
      List.map_congr_left fun header member => by rw [same header member]
    rw [filled]

end Request

end ClientModel
