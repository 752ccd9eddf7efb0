import PixelMath.Command.Files

/-!
# Directories

A file system in which the files of one directory, the working directory, are known. A path is
walked name by name: every name but the last one has to lead to a directory. Of other directories
it is known that they are there, that the root has the standard ones, and that files can be made in
them.

## Main definitions

* `Directory`, `Node` — the directories that are told apart, and what a name can lead to.
* `Path.parent`, `Path.target` — the directory in which a path ends, and what it leads to.
* `Path.change?` — what a write leaves in the working directory.
* `Files.ofList` — the file system whose working directory holds the given files and nothing else.
-/

namespace PixelMath.Command

/-- A directory, by what is known of it. -/
inductive Directory where
  /-- The directory that relative paths start from. -/
  | working
  /-- The directory that absolute paths start from, and the only one that is its own parent. -/
  | root
  /-- The directory of the devices. -/
  | devices
  /-- A directory without known files. -/
  | other
deriving DecidableEq, Repr

/-- What a name leads to. -/
inductive Node where
  | directory (d : Directory)
  /-- A device that takes everything and gives nothing. -/
  | device
  /-- A device that takes nothing. What it gives has no end and is not among the bytes that are
  found. -/
  | fullDevice
  /-- A place for a file, which may be there or not. -/
  | entry (d : Directory) (name : String)
deriving DecidableEq, Repr

/-- The most bytes of a name. -/
def maxNameBytes : Nat := 255

/-- The most bytes of a path. -/
def maxPathBytes : Nat := 4095

/-- The directories that are found in every root. -/
def standardDirectories : List String :=
  ["bin", "boot", "dev", "etc", "home", "lib", "media", "mnt", "opt", "proc", "root", "run", "sbin",
   "srv", "sys", "tmp", "usr", "var"]

/-- The devices that give nothing: the null device, and the standard input while it is empty. -/
def emptyDevices : List String := ["null", "stdin"]

/-- The device that has no room. -/
def fullDevice : String := "full"

namespace Directory

/-- The directory above. -/
def parent : Directory → Directory
  | root | devices => root
  | working | other => other

/-- What a name leads to in a directory. One dot names the directory itself and two dots the one
above. -/
def find (d : Directory) (name : String) : Except FileError Node :=
  if name = "." then .ok (.directory d)
  else if name = ".." then .ok (.directory d.parent)
  else if maxNameBytes < name.utf8ByteSize then .error .nameTooLong
  else
    match d with
    | root =>
      if name = "dev" then .ok (.directory devices)
      else if name ∈ standardDirectories then .ok (.directory other)
      else .ok (.entry d name)
    | devices =>
      if name ∈ emptyDevices then .ok .device
      else if name = fullDevice then .ok .fullDevice
      else .ok (.entry d name)
    | working | other => .ok (.entry d name)

end Directory

namespace Node

/-- The bytes that are found at a node, where the working directory holds `contents`. -/
def bytes? (contents : List (String × ByteArray)) : Node → Option ByteArray
  | entry .working name => contents.lookup name
  | entry _ _ | directory _ | fullDevice => none
  | device => some ByteArray.empty

/-- The directory at a node. -/
def enter (contents : List (String × ByteArray)) : Node → Except FileError Directory
  | directory d => .ok d
  | fullDevice => .error .notDirectory
  | node => .error (if (node.bytes? contents).isSome then .notDirectory else .notFound)

/-- What a node takes when it is open for writing. -/
def sink : Node → Sink
  | fullDevice => .limited 0 .noSpace
  | _ => .unlimited

end Node

namespace Path

/-- The names in a path: its longest pieces without a slash. -/
def names (path : String) : List String :=
  let pieces := path.toList.splitBy fun c d => (c == '/') == (d == '/')
  (pieces.filter (·.head? ≠ some '/')).map String.ofList

/-- The directory that a path starts from. -/
def start (path : String) : Directory :=
  if path.toList.head? = some '/' then .root else .working

/-- Whether a path can only lead to a directory, because it ends in a slash. -/
def endsInSlash (path : String) : Bool :=
  path.toList.getLast? = some '/'

/-- The directory in which the last name of a path is looked for. -/
def parent (contents : List (String × ByteArray)) (path : String) : Except FileError Directory := do
  if maxPathBytes < path.utf8ByteSize then throw .nameTooLong
  (names path).dropLast.foldlM (fun d name => do (← d.find name).enter contents) (start path)

/-- What the last name of a path leads to in a directory; a path without names leads to the
directory itself. -/
def last (path : String) (d : Directory) : Except FileError Node :=
  match (names path).getLast? with
  | none => .ok (.directory d)
  | some name => d.find name

/-- The bytes that are read under a path. -/
def read (contents : List (String × ByteArray)) (path : String) : Except FileError ByteArray := do
  let node ← last path (← parent contents path)
  let _ ← if endsInSlash path then node.enter contents else pure .working
  match node, node.bytes? contents with
  | .directory _, _ => throw .isDirectory
  | _, some bytes => return bytes
  | _, none => throw .notFound

/-- The place that is written to under a path. No file is made under a path that ends in a slash. -/
def target (contents : List (String × ByteArray)) (path : String) : Except FileError Node := do
  let d ← parent contents path
  if endsInSlash path then throw .isDirectory
  match ← last path d with
  | .directory _ => throw .isDirectory
  | node => return node

/-- The file of the working directory that is new or changed when bytes were taken under a path, and
what it then holds. A device holds nothing. -/
def change? (contents : List (String × ByteArray)) (path : String) (bytes : ByteArray) :
    Option (String × ByteArray) :=
  match target contents path with
  | .ok (.entry .working name) =>
    if (contents.lookup name).any (· == bytes) then none else some (name, bytes)
  | _ => none

end Path

/-- The file system whose working directory holds the given files and nothing else, and in which
every file has room for what is written. -/
def Files.ofList (contents : List (String × ByteArray)) : Files where
  read := Path.read contents
  create path := (Path.target contents path).map Node.sink

end PixelMath.Command
