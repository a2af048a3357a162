set_option autoImplicit false

namespace NumScript

inductive ReadFault where
  | missing
  | directory
  | notDirectory
  | notText
  | other (cause : String)
  deriving DecidableEq

def ReadFault.message : ReadFault -> String
  | missing => "No such file or directory (os error 2)"
  | directory => "Is a directory (os error 21)"
  | notDirectory => "Not a directory (os error 20)"
  | notText => "stream did not contain valid UTF-8"
  | other cause => cause

structure Folder where
  files : List (String × ByteArray)
  subfolders : List String

namespace Folder

inductive Place where
  | folder (entered : List String)
  | outside
  | file (content : ByteArray)

def enter (folder : Folder) (place : Place) (part : String) : Except ReadFault Place :=
  match place with
  | .file _ => .error .notDirectory
  | .outside => if part ∈ ["", ".", ".."] then .ok .outside else .error .missing
  | .folder entered =>
      if part = "" ∨ part = "." then .ok place
      else if part = ".." then
        .ok (if entered = [] then .outside else .folder entered.dropLast)
      else if entered ≠ [] then .error .missing
      else
        match folder.files.lookup part with
        | some content => .ok (.file content)
        | none => if part ∈ folder.subfolders then .ok (.folder [part]) else .error .missing

def read (folder : Folder) (path : String) : Except ReadFault ByteArray := do
  let start := if path.toList.head? = some '/' then .outside else .folder []
  match ← (path.splitOn "/").foldlM folder.enter start with
  | .file content => .ok content
  | _ => .error .directory

end Folder

end NumScript
