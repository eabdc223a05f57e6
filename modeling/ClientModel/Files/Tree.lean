/-
This file defines a tree of files and what reading and writing do to it. Writing makes the
directories that are missing on the way. The main statements say that what was written is what is
read under the same name, and that every place it was not written to and that a file was at before
holds what it held.
-/

import ClientModel.Files.Path
import ClientModel.Ordered

namespace ClientModel

/-! ### Trees -/

/-- What is at a location. -/
inductive FileNode where
  | directory
  | file (content : ByteArray)

/-- What is under a name. -/
inductive FileContent where
  /-- Nothing. -/
  | absent
  /-- A directory. -/
  | directory
  /-- A name that is too long to be followed. -/
  | overlong
  /-- A file that cannot be read. -/
  | refused (reason : String)
  /-- A file. -/
  | bytes (content : ByteArray)

/-- Why a file cannot be written. -/
inductive WriteFault where
  /-- A directory is there. -/
  | directory
  /-- A file is where a directory should be. -/
  | blocked
  /-- The name is too long, or leaves no room for the mark of an unfinished file. -/
  | overlong
  /-- A null character is in the name. -/
  | nullCharacter
  /-- The name does not say which file of a directory is meant. -/
  | nameless
  deriving DecidableEq, Repr

/-- The locations that are taken, with what is there. The root is a directory without being
listed. -/
structure FileTree where
  nodes : List (Location × FileNode) := []

namespace FileTree

/-- What is at a location. -/
def node? (location : Location) (tree : FileTree) : Option FileNode :=
  if location.isEmpty then some .directory else Ordered.get? location tree.nodes

/-- Whether a location is a directory. -/
def isDirectory (tree : FileTree) (location : Location) : Bool :=
  match tree.node? location with
  | some .directory => true
  | _ => false

/-- The files of a tree, in the order in which they were first written. -/
def files (tree : FileTree) : List (Location × ByteArray) :=
  tree.nodes.filterMap fun entry =>
    match entry.2 with
    | .file content => some (entry.1, content)
    | .directory => none

/-! ### Reading -/

/-- Reads the way of a name. -/
def readWay (tree : FileTree) (way : List Location × Location) : FileContent :=
  if way.1.all tree.isDirectory then
    match tree.node? way.2 with
    | none => if Path.isNameable way.2 then .absent else .overlong
    | some .directory => .directory
    | some (.file content) => .bytes content
  else if (way.1.find? fun location => !tree.isDirectory location).all Path.isNameable then .absent
  else .overlong

/-- Reads what is under a name. -/
def read (working : Location) (path : Path) (tree : FileTree) : FileContent :=
  if path.hasRoom 0 then tree.readWay (path.way working) else .overlong

/-! ### Writing -/

/-- Makes a directory where nothing is; fails where a file is. -/
def makeDirectory (tree : FileTree) (location : Location) : Except WriteFault FileTree :=
  match tree.node? location with
  | some .directory => .ok tree
  | some (.file _) => .error .blocked
  | none => .ok { tree with nodes := Ordered.put location .directory tree.nodes }

/-- Makes directories one after another. -/
def makeDirectories : List Location → FileTree → Except WriteFault FileTree
  | [], tree => .ok tree
  | location :: rest, tree => (tree.makeDirectory location).bind (makeDirectories rest)

/-- Puts a file at a location; fails where a directory is. -/
def putFile (location : Location) (content : ByteArray) (tree : FileTree) :
    Except WriteFault FileTree :=
  match tree.node? location with
  | some .directory => .error .directory
  | _ => .ok { tree with nodes := Ordered.put location (.file content) tree.nodes }

/-- Writes along the way of a name. -/
def writeWay (way : List Location × Location) (content : ByteArray) (tree : FileTree) :
    Except WriteFault FileTree :=
  (makeDirectories way.1 tree).bind (putFile way.2 content)

/-- Whether a null character is in a segment. -/
def hasNull (segment : String) : Bool := segment.toList.contains '\x00'

/-- The length of the mark that the name of a file carries while it is written, in bytes. -/
def markLength : Nat := 14

/-- What is wrong with the name of a directory. -/
def directoryFault? (segments : List String) : Option WriteFault :=
  if segments.any hasNull then some .nullCharacter
  else if segments.all Path.isShort then none
  else some .overlong

/-- What is wrong with the name of a file in its directory. -/
def fileFault? (segment : String) : Option WriteFault :=
  if segment.isEmpty || segment == ".." then some .nameless
  else if hasNull segment then some .nullCharacter
  else if segment.utf8ByteSize + markLength ≤ Path.longestSegment then none
  else some .overlong

/-- What is wrong with a name under which a file is to be written. -/
def nameFault? (path : Path) : Option WriteFault :=
  ((directoryFault? path.segments.dropLast).or (fileFault? path.lastSegment)).or
    (if path.hasRoom markLength then none else some .overlong)

/-- Writes a file under a name, if that can be done. -/
def write (working : Location) (path : Path) (content : ByteArray) (tree : FileTree) :
    Except WriteFault FileTree :=
  match nameFault? path with
  | some fault => .error fault
  | none => tree.writeWay (path.way working) content

/-! ### Laws -/

/-- Where one step after another succeeds, both do. -/
theorem ok_of_bind {first : Except WriteFault FileTree}
    {second : FileTree → Except WriteFault FileTree} {after : FileTree}
    (done : first.bind second = .ok after) :
    ∃ middle, first = .ok middle ∧ second middle = .ok after := by
  cases first with
  | error fault => cases done
  | ok middle => exact ⟨middle, rfl, done⟩

section

variable {location other : Location} {content : ByteArray} {tree after : FileTree}

/-- A file can only be put where no directory is. -/
theorem eq_of_putFile (put : putFile location content tree = .ok after) :
    tree.node? location ≠ some .directory ∧
      after = { tree with nodes := Ordered.put location (.file content) tree.nodes } := by
  unfold putFile at put
  split at put
  · cases put
  · next free =>
    cases put
    exact ⟨free, rfl⟩

/-- A directory can only be made where one is, or nothing. -/
theorem eq_of_makeDirectory (made : tree.makeDirectory location = .ok after) :
    tree.node? location = some .directory ∧ after = tree ∨
      tree.node? location = none ∧
        after = { tree with nodes := Ordered.put location .directory tree.nodes } := by
  unfold makeDirectory at made
  split at made
  · next taken =>
    cases made
    exact Or.inl ⟨taken, rfl⟩
  · cases made
  · next free =>
    cases made
    exact Or.inr ⟨free, rfl⟩

/-- A location where a file can be put has the file afterwards. -/
theorem node?_of_putFile (put : putFile location content tree = .ok after) :
    after.node? location = some (.file content) := by
  obtain ⟨free, rfl⟩ := eq_of_putFile put
  by_cases root : location.isEmpty
  · simp [node?, root] at free
  · simp [node?, root, Ordered.get?_put_self]

/-- Putting a file at a location leaves every other location as it was. -/
theorem node?_of_putFile_of_ne (put : putFile location content tree = .ok after)
    (different : other ≠ location) : after.node? other = tree.node? other := by
  obtain ⟨_, rfl⟩ := eq_of_putFile put
  simp [node?, Ordered.get?_put_of_ne different]

theorem isDirectory_of_putFile (put : putFile location content tree = .ok after) :
    tree.isDirectory location = false := by
  obtain ⟨free, _⟩ := eq_of_putFile put
  unfold isDirectory
  split
  · next taken => exact absurd taken free
  · rfl

/-- Making a directory leaves what is there already. -/
theorem node?_of_makeDirectory {node : FileNode} (made : tree.makeDirectory location = .ok after)
    (present : tree.node? other = some node) : after.node? other = some node := by
  obtain ⟨_, rfl⟩ | ⟨free, rfl⟩ := eq_of_makeDirectory made
  · exact present
  · have different : other ≠ location := by
      intro same
      rw [same, free] at present
      cases present
    simpa [node?, Ordered.get?_put_of_ne different] using present

/-- A directory that was made is one. -/
theorem node?_of_makeDirectory_self (made : tree.makeDirectory location = .ok after) :
    after.node? location = some .directory := by
  obtain ⟨taken, rfl⟩ | ⟨_, rfl⟩ := eq_of_makeDirectory made
  · exact taken
  · by_cases root : location.isEmpty
    · simp [node?, root]
    · simp [node?, root, Ordered.get?_put_self]

end

/-- Making directories leaves what is there already. -/
theorem node?_of_makeDirectories {locations : List Location} {other : Location}
    {tree after : FileTree} {node : FileNode} (made : makeDirectories locations tree = .ok after)
    (present : tree.node? other = some node) : after.node? other = some node := by
  induction locations generalizing tree with
  | nil =>
    cases made
    exact present
  | cons location rest inductionHypothesis =>
    obtain ⟨middle, first, others⟩ := ok_of_bind made
    exact inductionHypothesis others (node?_of_makeDirectory first present)

/-- Directories that were made are directories. -/
theorem node?_of_mem_makeDirectories {locations : List Location} {tree after : FileTree}
    (made : makeDirectories locations tree = .ok after) {location : Location}
    (member : location ∈ locations) : after.node? location = some .directory := by
  induction locations generalizing tree with
  | nil => cases member
  | cons head rest inductionHypothesis =>
    obtain ⟨middle, first, others⟩ := ok_of_bind made
    rcases List.mem_cons.1 member with rfl | member
    · exact node?_of_makeDirectories others (node?_of_makeDirectory_self first)
    · exact inductionHypothesis others member

/-- A name that a file can be written under can be followed. -/
theorem hasRoom_of_nameFault? {path : Path} (free : nameFault? path = none) :
    path.hasRoom 0 = true := by
  have room : path.hasRoom markLength = true := by
    unfold nameFault? at free
    by_cases room : path.hasRoom markLength = true
    · exact room
    · simp [room] at free
  simp only [Path.hasRoom, decide_eq_true_eq] at room ⊢
  omega

/-- Writing under a name writes along its way. -/
theorem writeWay_of_write {working : Location} {path : Path} {content : ByteArray}
    {tree after : FileTree} (written : tree.write working path content = .ok after) :
    nameFault? path = none ∧ tree.writeWay (path.way working) content = .ok after := by
  unfold write at written
  split at written
  · cases written
  · next free => exact ⟨free, written⟩

/-- What was written under a name is what is read under it. -/
theorem read_of_write {working : Location} {path : Path} {content : ByteArray}
    {tree after : FileTree} (written : tree.write working path content = .ok after) :
    after.read working path = .bytes content := by
  obtain ⟨free, along⟩ := writeWay_of_write written
  obtain ⟨middle, made, put⟩ := ok_of_bind along
  have passed : (path.way working).1.all after.isDirectory = true := by
    refine List.all_eq_true.2 fun location member => ?_
    have directory := node?_of_mem_makeDirectories made member
    have different : location ≠ (path.way working).2 := by
      intro same
      have free := isDirectory_of_putFile put
      rw [← same] at free
      simp [isDirectory, directory] at free
    simp [isDirectory, node?_of_putFile_of_ne put different, directory]
  simp [read, readWay, hasRoom_of_nameFault? free, passed, node?_of_putFile put]

/-- A file that was there before is there after another one was written. -/
theorem node?_of_write_of_ne {working other : Location} {path : Path}
    {content content' : ByteArray} {tree after : FileTree}
    (written : tree.write working path content = .ok after)
    (different : other ≠ (path.way working).2)
    (present : tree.node? other = some (.file content')) :
    after.node? other = some (.file content') := by
  obtain ⟨middle, made, put⟩ := ok_of_bind (writeWay_of_write written).2
  rw [node?_of_putFile_of_ne put different]
  exact node?_of_makeDirectories made present

end FileTree

end ClientModel
