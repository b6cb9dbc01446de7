import Crosscut.Settings.Document
import Crosscut.Settings.Environment
import Crosscut.Settings.Error
import Crosscut.Settings.FileTree

/-! The library that handles configuration documents. The loader decides which documents there are and
which lies over which; how they are read and merged is the library's, and a parameter here. -/
namespace Crosscut

/-- What a library for documents does. -/
structure DocumentKit where
  /-- The document that gives nothing. -/
  empty : Literal
  /-- A document with another one merged over it. -/
  merge : (lower upper : Literal) → Literal
  /-- Settings as a document. -/
  write : Settings → Literal
  /-- The settings that a document gives. -/
  read : Literal → Except SettingsError Settings
  /-- The document that the file at a path holds. -/
  file : FileTree → String → Except SettingsError Literal
  /-- The keys that the name of a variable leads to, if it is one that counts. -/
  keysOf : (marker separator name : String) → Option (List String)
  /-- The value that is written in a variable. -/
  parse : String → Literal
  /-- The document that variables give. -/
  environment : (marker separator : String) → Variables → Literal

end Crosscut
