import Crosscut.Settings.DocumentKit
import Crosscut.Settings.StandIn.Encode
import Crosscut.Settings.StandIn.Environment

/-! A library for documents that the loader can be run with. -/
namespace Crosscut

/-- The document of a file that is read. Where there is no file the document is empty. -/
def FileTree.document (tree : FileTree) (path : String) : Except SettingsError Literal :=
  match tree.read? path with
  | some (.document fields) => .ok fields
  | some .unreadable => .error (.misfit [])
  | none => .ok (.table [])

/-- Documents as this project handles them when it runs. -/
def DocumentKit.standIn : DocumentKit where
  empty := .table []
  merge := Literal.lay
  write := Settings.encode
  read := Settings.decode .layered []
  file := FileTree.document
  keysOf := Variables.keys?
  parse := Inline.literal
  environment := Variables.layer

end Crosscut
