import RelayDevice.Settings.Environment
import RelayDevice.Settings.Trust
import RelayDevice.Text.Utf8

/-!
# What the program finds around it

* `Surroundings` — environment variables and files;
* `Directory.lookUp` — the text of a file in a directory without further directories, or the
  reason why there is none.
-/

namespace RelayDevice

/-- What the program finds around it. -/
structure Surroundings where
  environment : Environment
  /-- The text of the file at a path, or the reason why there is none. -/
  fileText : String → Except String String

/-- The certificates in a file. -/
def Surroundings.trust (s : Surroundings) (path : String) : TrustSource :=
  .file path ((s.fileText path).map Utf8.encode)

/-- The files of a directory by name, with their texts. -/
abbrev Directory := List (String × String)

namespace Directory

/-- The parts of a path; parts that stand for the directory itself do not count. -/
def parts (path : String) : List String :=
  (path.splitOn "/").filter fun part => part ≠ "" ∧ part ≠ "."

/-- Whether a path can only be that of a directory. -/
def isDirectoryPath (path : String) : Bool := path.endsWith "/" || path.endsWith "/."

/-- The text of a file, or the reason why there is none. -/
def lookUp (d : Directory) (path : String) : Except String String :=
  let missing := "No such file or directory (os error 2)"
  if path.toList.contains '\x00' then .error "file name contained an unexpected NUL byte"
  else if path.isEmpty then .error missing
  else
    match parts path with
    | [] => .error "Is a directory (os error 21)"
    | name :: further =>
      match List.lookup name d with
      | none => .error missing
      | some text =>
        if path.startsWith "/" then .error missing
        else if further.isEmpty && !isDirectoryPath path then .ok text
        else .error "Not a directory (os error 20)"

end Directory

end RelayDevice
