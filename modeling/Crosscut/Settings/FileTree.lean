import Crosscut.Literal
import Crosscut.Table
import Crosscut.Text.Split

/-! The files of a folder and the folders below it. Paths are followed part by part from the folder:
one dot stays, two dots lead up, and only a folder leads on. A file is written at the place that its
path leads to, whose folders are made on the way, and takes the place of an earlier one. Nothing is
known of what lies outside, except that the folders above exist. -/
namespace Crosscut

/-- What a file holds: a document, or something that is none. -/
inductive FileContent where
  | document (fields : Literal)
  | unreadable

/-- Folders and files by the names that lead to them. -/
structure FileTree where
  folders : List (List String)
  files : Table (List String) FileContent

/-- A place that a path leads to. -/
inductive Place where
  | outside
  | inside (names : List String)
deriving DecidableEq, Repr

def Place.parent : Place → Place
  | .outside => .outside
  | .inside [] => .outside
  | .inside (first :: rest) => .inside (first :: rest).dropLast

namespace FileTree

def empty : FileTree := ⟨[], .empty⟩

def parts (path : String) : List String :=
  (Text.parts (· == '/') path.toList).map String.ofList

/-- The names of a path, without dots that stay and without empty parts. -/
def names (path : String) : List String :=
  (parts path).filter fun part => part != "" && part != "."

def start (path : String) : Place :=
  if path.toList.head? = some '/' then .outside else .inside []

def content? (tree : FileTree) : Place → Option FileContent
  | .outside => none
  | .inside spot => tree.files.get? spot

def isFolder (tree : FileTree) : Place → Bool
  | .outside => true
  | .inside spot => spot.isEmpty || tree.folders.contains spot

def occupied (tree : FileTree) (place : Place) : Bool :=
  tree.isFolder place || (tree.content? place).isSome

/-! ### Following paths -/

/-- Where one part of a path leads from a place. -/
def step (tree : FileTree) (place : Place) (part : String) : Option Place :=
  if tree.isFolder place then
    if part = "" ∨ part = "." then some place
    else if part = ".." then some place.parent
    else
      match place with
      | .outside => none
      | .inside spot =>
        if tree.occupied (.inside (spot ++ [part])) then some (.inside (spot ++ [part])) else none
  else none

/-- Where a path leads, if there is something. -/
def follow (tree : FileTree) (path : String) : Option Place :=
  if path = "" then none else (parts path).foldlM tree.step (start path)

def hasPath (tree : FileTree) (path : String) : Bool :=
  (tree.follow path).isSome

/-- What the file that a path leads to holds. -/
def read? (tree : FileTree) (path : String) : Option FileContent :=
  (tree.follow path).bind tree.content?

/-! ### Writing -/

/-- Makes the folder that one part of a path leads to. -/
def enter : FileTree × Place → String → Option (FileTree × Place)
  | (tree, place), part =>
    match tree.step place part, place with
    | some next, _ => if tree.isFolder next then some (tree, next) else none
    | none, .outside => none
    | none, .inside spot =>
      some ({ tree with folders := tree.folders ++ [spot ++ [part]] }, .inside (spot ++ [part]))

/-- The tree with the folders of a path. A path that leads outside changes nothing. -/
def withFolder (tree : FileTree) (path : String) : FileTree :=
  (((parts path).foldlM enter (tree, start path)).map (·.1)).getD tree

/-- The tree with a file at a path and with the folders that lead to it. A path that leads outside
changes nothing. -/
def withFile (tree : FileTree) (path : String) (content : FileContent) : FileTree :=
  match (parts path).dropLast.foldlM enter (tree, start path), (parts path).getLast? with
  | some (made, .inside spot), some name =>
    { made with files := made.files.insert (spot ++ [name]) content }
  | _, _ => tree

/-! ### The text of paths -/

/-- The path of a name in a folder. -/
def join (folder name : String) : String :=
  if folder = "" ∨ folder.toList.getLast? = some '/' then folder ++ name
  else folder ++ "/" ++ name

/-- What stands after the last dot of the last name of a path. A dot at the start of the name does
not count. -/
def extension (path : String) : String :=
  match (names path).getLast? with
  | none | some ".." => ""
  | some name =>
    match Text.cutLast '.' name.toList with
    | some (_ :: _, after) => String.ofList after
    | _ => ""

end FileTree
end Crosscut
