import Substance.Storage.Host

/-!
# Trees of files

A tree of files as a value, with the rules by which a path is followed: every name on the way is
looked up in a directory, a double dot leads back to the directory above, and names and paths that
are too long are refused.  A tree together with a working directory and what was written to the two
streams is a host.

This is the simplest of hosts.  There are no links in a tree, hard or symbolic, so whatever stands
at two places is not one file; there are no devices; and nobody is denied permission.  What is said
of files under links is said of hosts in general, by the laws that their operations obey.
-/

namespace Substance

/-- What stands at a place of a tree. -/
inductive Node where
  | directory
  | file (content : List UInt8)
deriving DecidableEq

/-- The files and directories below the root, each by the names that lead to it.  Links, devices and
permissions are left out. -/
structure Tree where
  nodes : List (List String × Node)

namespace Tree

/-- The tree of the root alone. -/
def empty : Tree := ⟨[]⟩

/-- What stands at a place. -/
def at? (t : Tree) (place : List String) : Option Node :=
  if place = [] then some .directory else t.nodes.lookup place

/-- Put something at a place, instead of what was there. -/
def put (t : Tree) (place : List String) (node : Node) : Tree :=
  ⟨(place, node) :: t.nodes.filter fun entry => entry.1 ≠ place⟩

/-- The greatest length of a name, in bytes. -/
def maxName : Nat := 255

/-- The greatest length of a path, in bytes. -/
def maxPath : Nat := 4095

/-- Follow names from a place.  The last name may lead to nothing. -/
def walk (t : Tree) (here : List String) : List String → Except StorageCause (List String)
  | [] => .ok here
  | name :: rest =>
    match t.at? here with
    | none => .error .notFound
    | some (.file _) => .error .notADirectory
    | some .directory =>
      if name = ".." then t.walk here.dropLast rest
      else if name.utf8ByteSize > maxName then .error .nameTooLong
      else t.walk (here ++ [name]) rest

/-- The place that a path leads to. -/
def locate (t : Tree) (workingDirectory p : Path) : Except StorageCause (List String) :=
  let text := p.toString
  if '\x00' ∈ text.toList then .error .nullCharacter
  else if text.utf8ByteSize > maxPath then .error .nameTooLong
  else t.walk (if p.slashes = 0 then workingDirectory.names else []) p.names

/-- The content of the file that a path leads to. -/
def readFile (t : Tree) (workingDirectory p : Path) : Except StorageCause (List UInt8) := do
  match t.at? (← t.locate workingDirectory p) with
  | some (.file content) => return content
  | some .directory => throw .isADirectory
  | none => throw .notFound

/-- Write the file that a path leads to. -/
def writeFile (t : Tree) (workingDirectory p : Path) (content : List UInt8) :
    Except StorageCause Tree := do
  let place ← t.locate workingDirectory p
  match t.at? place with
  | some .directory => throw .isADirectory
  | _ => return t.put place (.file content)

/-- Create the directory that a path leads to. -/
def makeDirectory (t : Tree) (workingDirectory p : Path) : Except StorageCause Tree := do
  let place ← t.locate workingDirectory p
  match t.at? place with
  | some _ => throw .alreadyExists
  | none => return t.put place .directory

/-- Does a path lead to a directory? -/
def isDirectory (t : Tree) (workingDirectory p : Path) : Bool :=
  match t.locate workingDirectory p with
  | .ok place => t.at? place = some .directory
  | .error _ => false

/-- A thing that was put stands at its place, and the others stand where they were. -/
theorem at?_put (t : Tree) (place other : List String) (node : Node) (h : place ≠ []) :
    (t.put place node).at? other = if other = place then some node else t.at? other := by
  unfold at? put
  by_cases hother : other = place
  · subst hother
    simp [h]
  · have hb : (other == place) = false := by simp [hother]
    simp only [List.lookup_cons, hb, hother, if_false]
    congr 1
    induction t.nodes with
    | nil => rfl
    | cons entry rest ih =>
      obtain ⟨l, n⟩ := entry
      by_cases hl : l = place
      · subst hl
        simpa [List.lookup_cons, hb] using ih
      · by_cases ho : other = l
        · subst ho
          simp [List.filter, hl]
        · have hob : (other == l) = false := by simp [ho]
          simpa [List.filter, hl, List.lookup_cons, hob] using ih

end Tree

/-- A tree of files seen from a working directory, and what was written to the two streams. -/
structure World where
  tree : Tree
  workingDirectory : Path
  printed : String
  reported : String

namespace World

/-- Change the tree of a world, unless that fails. -/
def change (f : Tree → Path → Except StorageCause Tree) : StateM World (Except StorageCause Unit) :=
  fun w =>
    match f w.tree w.workingDirectory with
    | .ok tree => (.ok (), { w with tree })
    | .error cause => (.error cause, w)

/-- A world is a host. -/
instance : Host (StateM World) where
  readFile p := return (← get).tree.readFile (← get).workingDirectory p
  writeFile p content := change fun tree here => tree.writeFile here p content
  makeDirectory p := change fun tree here => tree.makeDirectory here p
  isDirectory p := return (← get).tree.isDirectory (← get).workingDirectory p
  workingDirectory := return (← get).workingDirectory
  print text := modify fun w => { w with printed := w.printed ++ text }
  report text := modify fun w => { w with reported := w.reported ++ text }

end World

end Substance
