import Courier.Bytes

/-!
# Sockets of the machine

A socket has an address on the machine itself: a path in the file system, or a name of its own
behind a NUL. `Socket.fault` says why no connection is made where nothing listens.
-/

namespace Courier

/-! ## Files -/

/-- What is known of the files of a machine, each by the components of its path. -/
structure FileTree where
  directories : List (List String) := []
  files : List (List String) := []
  /-- The directory where paths start that have no slash in front. -/
  start : List String := []
  deriving DecidableEq

/-- Where a path leads. -/
inductive Place where
  | directory (components : List String)
  | file
  /-- The path goes on behind a file. -/
  | behindFile
  | nowhere
  deriving DecidableEq

namespace FileTree

/-- One component further. -/
def enter (t : FileTree) (p : Place) (component : String) : Place :=
  match p with
  | .directory above =>
    let inside := above ++ [component]
    if component = "" ∨ component = "." then .directory above
    else if component = ".." then .directory above.dropLast
    else if t.directories.contains inside then .directory inside
    else if t.files.contains inside then .file
    else .nowhere
  | .file | .behindFile => .behindFile
  | .nowhere => .nowhere

/-- Where a path leads. -/
def find (t : FileTree) (path : String) : Place :=
  let first := if "/".toList.isPrefixOf path.toList then [] else t.start
  (path.splitOn "/").foldl t.enter (.directory first)

end FileTree

/-! ## Addresses -/

namespace Socket

/-- The bytes of an address. A path needs one more, a name has one in front. -/
def capacity : Nat := 108

/-- Why there is no connection. -/
inductive Fault where
  | nulInPath
  | pathTooLong
  | nameTooLong
  /-- There is neither a path nor a name. -/
  | noAddress
  | nothingThere
  | notInDirectory
  /-- Something is there, but nothing that listens. -/
  | refused
  deriving DecidableEq

def Fault.message : Fault → String
  | .nulInPath => "paths must not contain interior null bytes"
  | .pathTooLong => "path must be shorter than SUN_LEN"
  | .nameTooLong => "abstract socket name must be shorter than SUN_LEN"
  | .noAddress => "Invalid argument (os error 22)"
  | .nothingThere => "No such file or directory (os error 2)"
  | .notInDirectory => "Not a directory (os error 20)"
  | .refused => "Connection refused (os error 111)"

/-- Why there is no connection to a path that leads to a place. -/
def Fault.ofPlace : Place → Fault
  | .directory _ | .file => .refused
  | .behindFile => .notInDirectory
  | .nowhere => .nothingThere

/-- Why there is no connection to an address where nothing listens. The address is judged before
the files are looked at. -/
def fault (t : FileTree) (address : String) : Fault :=
  match utf8 address with
  | [] | [0] => .noAddress
  | 0 :: name => if capacity ≤ name.length then .nameTooLong else .refused
  | path =>
    if path.contains 0 then .nulInPath
    else if capacity ≤ path.length then .pathTooLong
    else .ofPlace (t.find address)

end Socket

end Courier
