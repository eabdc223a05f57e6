/-
This file divides a text into clusters, the characters that are shown as one, and counts the columns
of a text. The main statements are that the clusters of a text are the whole text, and that they
take its columns.
-/

import ClientModel.Text.Width

namespace ClientModel.Text

/-! ### Characters that join -/

/-- The character that makes one picture of the characters before and behind it. -/
def joiner : Char := '\u200D'

/-- The character that makes a picture of the sign before it. -/
def pictureSelector : Char := '\uFE0F'

/-! ### Columns -/

/-- The number of columns that a text takes behind another one. `widens` tells whether the other
ends with a sign that a selector makes wider. What a joiner joins takes no column of its own. -/
def widthBehind : (widens : Bool) → List Char → Nat
  | _, [] => 0
  | widens, character :: rest =>
    if character = joiner then
      match rest with
      | [] => 0
      | _ :: rest => widthBehind widens rest
    else if character = pictureSelector then (if widens then 1 else 0) + widthBehind false rest
    else if characterWidth character = 0 then widthBehind widens rest
    else characterWidth character + widthBehind (isPictureSign character) rest

/-- The number of columns that a text takes. -/
def width (text : List Char) : Nat := widthBehind false text

/-! ### Clusters -/

/-- Characters that are shown as one. -/
structure Cluster where
  characters : List Char
  /-- How many columns they take together. -/
  width : Nat
  deriving DecidableEq, Repr

/-- A cluster with characters in front of it. -/
def Cluster.behind (characters : List Char) (width : Nat) (cluster : Cluster) : Cluster :=
  ⟨characters ++ cluster.characters, width + cluster.width⟩

/-- The part of a text that joins the cluster in front of it, and the clusters behind that part.
`widens` tells whether a selector makes the cluster wider. -/
def clustersBehind : (widens : Bool) → List Char → Cluster × List Cluster
  | _, [] => (⟨[], 0⟩, [])
  | widens, character :: rest =>
    if character = joiner then
      match rest with
      | [] => (⟨[character], 0⟩, [])
      | next :: rest =>
        let (part, others) := clustersBehind widens rest
        (part.behind [character, next] 0, others)
    else if character = pictureSelector then
      let (part, others) := clustersBehind false rest
      (part.behind [character] (if widens then 1 else 0), others)
    else if characterWidth character = 0 then
      let (part, others) := clustersBehind widens rest
      (part.behind [character] 0, others)
    else
      let (part, others) := clustersBehind (isPictureSign character) rest
      (⟨[], 0⟩, part.behind [character] (characterWidth character) :: others)

/-- The clusters of a text. What stands at the start joins nothing, not even if it is a joiner. -/
def clusters : List Char → List Cluster
  | [] => []
  | first :: rest =>
    let (part, others) := clustersBehind (isPictureSign first) rest
    part.behind [first] (characterWidth first) :: others

/-- The columns that clusters take. -/
def columns : List Cluster → Nat
  | [] => 0
  | cluster :: rest => cluster.width + columns rest

/-! ### Laws -/

/-- What joins the cluster in front of a text and the clusters behind that part are the whole
text. -/
theorem flatMap_clustersBehind (widens : Bool) (text : List Char) :
    (clustersBehind widens text).1.characters ++
      (clustersBehind widens text).2.flatMap Cluster.characters = text := by
  fun_induction clustersBehind widens text <;> simp_all [Cluster.behind]

/-- A part that joins a cluster and the clusters behind it take the columns of their text. -/
theorem columns_clustersBehind (widens : Bool) (text : List Char) :
    (clustersBehind widens text).1.width + columns (clustersBehind widens text).2 =
      widthBehind widens text := by
  fun_induction clustersBehind widens text <;> rw [widthBehind.eq_def] <;>
    simp_all [Cluster.behind, columns] <;> omega

/-- The clusters of a text are the whole text. -/
theorem flatMap_clusters (text : List Char) :
    (clusters text).flatMap Cluster.characters = text := by
  cases text with
  | nil => rfl
  | cons first rest =>
    simp [clusters, Cluster.behind, flatMap_clustersBehind]

/-- The clusters of a text that starts with a visible character take its columns. -/
theorem columns_clusters {first : Char} (rest : List Char) (noJoiner : first ≠ joiner)
    (noSelector : first ≠ pictureSelector) (visible : characterWidth first ≠ 0) :
    columns (clusters (first :: rest)) = width (first :: rest) := by
  rw [width, widthBehind.eq_def]
  simp [clusters, Cluster.behind, columns, noJoiner, noSelector, visible,
    ← columns_clustersBehind, Nat.add_assoc]

end ClientModel.Text
