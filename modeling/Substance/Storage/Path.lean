import Substance.Text.Split

/-!
# Paths

A path is a row of names, with no, one or two slashes in front.  Empty names and single dots say
nothing and are left out; double dots are kept, since what they lead to depends on the files.
-/

namespace Substance

/-- A path to a file or directory. -/
structure Path where
  /-- The number of slashes in front, at most two. -/
  slashes : Nat
  names : List String
deriving DecidableEq, Repr

namespace Path

open Text

/-- The path that a text writes.  Three slashes in front, or more, are worth one. -/
def ofString (text : String) : Path :=
  let count := (text.toList.takeWhile (· = '/')).length
  { slashes := if count ≤ 2 then count else 1
    names := ((splitOn '/' text.toList).map String.ofList).filter fun n => n ≠ "" ∧ n ≠ "." }

/-- The text of a path.  The path without slash and name is written as a dot. -/
def toString (p : Path) : String :=
  if p.slashes = 0 ∧ p.names = [] then "."
  else String.ofList (List.replicate p.slashes '/') ++ "/".intercalate p.names

/-- The path one name further. -/
def child (p : Path) (name : String) : Path := { p with names := p.names ++ [name] }

/-- The path without its last name. -/
def parent? (p : Path) : Option Path :=
  if p.names = [] then none else some { p with names := p.names.dropLast }

/-- The path above has fewer names. -/
theorem length_lt_of_parent? {p q : Path} (h : p.parent? = some q) :
    q.names.length < p.names.length := by
  unfold parent? at h
  split at h
  · cases h
  · next hne =>
    cases h
    have := List.length_pos_iff.mpr hne
    simp only [List.length_dropLast]
    omega

/-- The suffix of a name: what stands from its last dot on, if something stands on both sides of
that dot. -/
def suffixOf (name : List Char) : List Char :=
  let tail := (name.reverse.takeWhile (· ≠ '.')).reverse
  if tail.isEmpty ∨ name.length < tail.length + 2 then [] else '.' :: tail

/-- The suffix of the last name. -/
def suffix (p : Path) : String := String.ofList (suffixOf ((p.names.getLast?.getD "").toList))

/-- Follow names from a directory by their wording alone: double dots take the last name back. -/
def resolve (start : List String) (names : List String) : List String :=
  names.foldl (fun here name => if name = ".." then here.dropLast else here ++ [name]) start

/-- The path from the root, as seen from a working directory. -/
def absolute (p workingDirectory : Path) : Path :=
  if p.slashes = 0 then
    { workingDirectory with names := resolve workingDirectory.names p.names }
  else { p with names := resolve [] p.names }

example : (ofString ".//a/./b/").toString = "a/b" := by decide +kernel

example : (ofString "x/..json").suffix = ".json" ∧ (ofString ".json").suffix = "" := by
  decide +kernel

end Path

end Substance
