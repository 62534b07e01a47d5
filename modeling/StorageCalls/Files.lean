import StorageCalls.Text.Bytes
import StorageCalls.Text.Split

namespace StorageCalls

inductive FileFault where
  | notFound
  | permissionDenied
  | notDirectory
  | isDirectory
  | nameTooLong
  | nulInPath
  | notUtf8
  | other (message : String)
  deriving DecidableEq, Repr

def FileFault.message : FileFault → String
  | .notFound => "No such file or directory (os error 2)"
  | .permissionDenied => "Permission denied (os error 13)"
  | .notDirectory => "Not a directory (os error 20)"
  | .isDirectory => "Is a directory (os error 21)"
  | .nameTooLong => "File name too long (os error 36)"
  | .nulInPath => "file name contained an unexpected NUL byte"
  | .notUtf8 => "stream did not contain valid UTF-8"
  | .other message => message

/-- The files of a machine at one moment, as far as they can be told apart by reading them: what
comes of reading each path. -/
structure Files where
  read : String → Except FileFault (List UInt8)

def Files.readText (files : Files) (path : String) : Except FileFault String := do
  match Text.utf8Chars? (← files.read path) with
  | some chars => return String.ofList chars
  | none => throw .notUtf8

/-- A tree of directories. The content of a file is what comes of reading it, if it can be read. -/
inductive Node where
  | file (content : Except FileFault (List UInt8))
  | directory (entries : List (String × Node))

def Node.find? : List String → Node → Option Node
  | [], node => some node
  | name :: names, .directory entries => (entries.lookup name).bind (find? names)
  | _ :: _, .file _ => none

def Node.write (content : List UInt8) : List String → Node → Node
  | [], _ => .file (.ok content)
  | name :: names, .directory entries =>
    let child := (entries.lookup name).getD (.directory [])
    .directory ((name, child.write content names) :: entries.filter (·.1 != name))
  | name :: names, .file _ => .directory [(name, write content names (.directory []))]

structure Disk where
  root : Node
  workingDirectory : List String

namespace Disk

open Text

def segments (path : String) : List String :=
  (splitAtEach (· == '/') path.toList).map String.ofList

def isName (segment : String) : Bool := segment != "" && segment != "."

def names (path : String) : List String := (segments path).filter isName

/-- One step along a path, from one place to the next one. Past a file there is nothing, not even
the file itself, and above the root there is the root. -/
def step (d : Disk) (place : List String) (segment : String) : Except FileFault (List String) :=
  match d.root.find? place with
  | none => .error .notFound
  | some (.file _) => .error .notDirectory
  | some (.directory entries) =>
    if !isName segment then .ok place
    else if segment = ".." then .ok place.dropLast
    else if (utf8Bytes segment).length > 255 then .error .nameTooLong
    else if (entries.lookup segment).isSome then .ok (place ++ [segment])
    else .error .notFound

def start (d : Disk) (path : String) : List String :=
  if path.toList.head? = some '/' then [] else d.workingDirectory

def readAt (d : Disk) (place : List String) : Except FileFault (List UInt8) :=
  match d.root.find? place with
  | some (.file content) => content
  | some (.directory _) => .error .isDirectory
  | none => .error .notFound

def read (d : Disk) (path : String) : Except FileFault (List UInt8) := do
  if path.toList.contains '\x00' then throw .nulInPath
  if path.isEmpty then throw .notFound
  if (utf8Bytes path).length ≥ 4096 then throw .nameTooLong
  d.readAt (← (segments path).foldlM d.step (d.start path))

def files (d : Disk) : Files := ⟨d.read⟩

end Disk

/-- Files by their paths below the working directory. -/
def Files.ofList (files : List (String × List UInt8)) : Files :=
  let work := files.foldl (fun node f => node.write f.2 (Disk.names f.1)) (.directory [])
  Disk.files ⟨.directory [("work", work)], ["work"]⟩

def Files.empty : Files := .ofList []

end StorageCalls
