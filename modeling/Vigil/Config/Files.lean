/-!
# Files

The files below a directory, found by relative paths. A path is a list of names; `..` leads out of
a directory that is there, and `.` and empty names count for nothing.

* `Files.fileAt?`: the file at a path.
* `Files.find?`: the file at a path, or at the path with one of some endings.
-/

namespace Vigil.Config

/-- The names of a path, `.` and empty ones left out. -/
abbrev Path := List String

/-- The parts of a text between slashes. -/
def slashed : List Char → List (List Char)
  | [] => [[]]
  | c :: rest =>
    match slashed rest with
    | part :: parts => if c = '/' then [] :: part :: parts else (c :: part) :: parts
    | [] => []

/-- The path that a text spells. -/
def Path.read (text : String) : Path :=
  ((slashed text.toList).map String.ofList).filter fun name => name ≠ "" ∧ name ≠ "."

/-- The text of a path. -/
def Path.render (p : Path) : String := String.intercalate "/" p

/-- Whether a text can only spell the path of a directory. -/
def endsInDirectory (text : String) : Bool :=
  match (slashed text.toList).getLast? with
  | some part => part == [] || part == ['.']
  | none => true

/-- The texts of the files below a directory. -/
structure Files where
  contents : List (Path × String)

namespace Files

/-- The files with these names and texts. -/
def ofList (files : List (String × String)) : Files :=
  ⟨files.map fun f => (Path.read f.1, f.2)⟩

/-- Whether a directory lies at a path without `..`. -/
def isDirectory (fs : Files) (p : Path) : Bool :=
  fs.contents.any fun f => p.isPrefixOf f.1 && p.length < f.1.length

/-- The path without `..` that leads from a directory to the same place, if all directories on
the way are there. -/
def resolve? (fs : Files) : (here : Path) → Path → Option Path
  | here, [] => some here
  | here, name :: rest =>
    if name = ".." then
      if here = [] then none else resolve? fs here.dropLast rest
    else if rest = [] ∨ fs.isDirectory (here ++ [name]) then resolve? fs (here ++ [name]) rest
    else none

/-- The text of the file at a path. -/
def text? (fs : Files) (p : Path) : Option String :=
  (resolve? fs [] p).bind fun q => fs.contents.lookup q

/-- The path with an ending added to its last name. -/
def extend? (p : Path) (ending : String) : Option Path :=
  match p.getLast? with
  | some name => if name = ".." then none else some (p.dropLast ++ [name ++ "." ++ ending])
  | none => none

/-- The file that a text spells the path of. -/
def fileAt? (fs : Files) (text : String) : Option (Path × String) :=
  if endsInDirectory text then none
  else (fs.text? (Path.read text)).map (Path.read text, ·)

/-- The file at a path, and if there is none, the file at the path with the first of some endings
that leads to one. Paths are relative. -/
def find? (fs : Files) (text : String) (endings : List String) : Option (Path × String) :=
  if text.toList.head? = some '/' then none
  else
    match fs.fileAt? text with
    | some found => some found
    | none =>
      endings.findSome? fun ending =>
        (extend? (Path.read text) ending).bind fun p => (fs.text? p).map (p, ·)

end Files

end Vigil.Config
