import AsmKit.Files.Path
import AsmKit.Text.Quoted
import AsmKit.Text.Utf8

/-!
A tree of files as a value, and reading a file of it as text: UTF-8, perhaps behind a byte order
mark, with every line end turned into a line feed.
-/

namespace AsmKit

/-- What stands at a path: a file with its bytes, or a directory. -/
inductive FileEntry where
  | file (bytes : List UInt8)
  | directory
  deriving DecidableEq, Repr

/-- The files below a current directory, each with the segments of its path. Directories that hold
something need no entry. -/
structure FileTree where
  entries : List (List String × FileEntry)
  deriving Repr

namespace FileTree

inductive PathFault where
  | missing
  | isDirectory
  | notDirectory
  | nameTooLong
  deriving DecidableEq, Repr

def PathFault.message (path : Path) : PathFault → String
  | .missing => "[Errno 2] No such file or directory: " ++ Text.quoted path.text
  | .isDirectory => "[Errno 21] Is a directory: " ++ Text.quoted path.text
  | .notDirectory => "[Errno 20] Not a directory: " ++ Text.quoted path.text
  | .nameTooLong => "[Errno 36] File name too long: " ++ Text.quoted path.text

def entry? (tree : FileTree) (segments : List String) : Option FileEntry :=
  match tree.entries.lookup segments with
  | some entry => some entry
  | none =>
    if segments.isEmpty || tree.entries.any (fun e => segments.isPrefixOf e.1) then some .directory
    else none

/-- The segments of the directory above a directory, if that is inside the tree too. -/
def parent? (segments : List String) : Option (List String) :=
  if segments.isEmpty then none else some segments.dropLast

/-- Walks the segments of a path from a directory; outside the tree no name is found. -/
def walk (tree : FileTree) : Option (List String) → List String → Except PathFault (List UInt8)
  | _, [] => .error .isDirectory
  | here, ".." :: rest => walk tree (here.bind parent?) rest
  | none, _ :: _ => .error .missing
  | some segments, name :: rest =>
    if 255 < name.utf8ByteSize then .error .nameTooLong
    else match tree.entry? (segments ++ [name]), rest with
      | none, _ => .error .missing
      | some (.file bytes), [] => .ok bytes
      | some (.file _), _ => .error .notDirectory
      | some .directory, _ => walk tree (some (segments ++ [name])) rest

/-- The first number of bytes that no path can have. -/
def pathSizeLimit : Nat := 4096

/-- The bytes of the file at a path. Outside the tree only directories above it are known. -/
def bytesAt (tree : FileTree) (path : Path) : Except PathFault (List UInt8) :=
  if pathSizeLimit ≤ path.text.utf8ByteSize then .error .nameTooLong
  else tree.walk (if path.root.isEmpty then some [] else none) path.segments

/-- A text with every line end, of one character or two, turned into a line feed. -/
def unifyLineEnds : List Char → List Char
  | [] => []
  | '\r' :: '\n' :: rest => '\n' :: unifyLineEnds rest
  | '\r' :: rest => '\n' :: unifyLineEnds rest
  | c :: rest => c :: unifyLineEnds rest

/-- Why a file cannot be read as text. A path with a zero character is refused before any file is
looked for. -/
inductive TextFault where
  | zeroInPath
  | path (fault : PathFault)
  | encoding (fault : Text.Utf8.Fault)
  deriving DecidableEq, Repr

def TextFault.message (path : Path) : TextFault → String
  | .zeroInPath => "embedded null byte"
  | .path fault => fault.message path
  | .encoding fault => fault.message

def textAt (tree : FileTree) (path : Path) : Except TextFault (List Char) :=
  if path.text.toList.contains '\x00' then .error .zeroInPath
  else match tree.bytesAt path with
    | .error fault => .error (.path fault)
    | .ok bytes =>
      match Text.Utf8.decode bytes with
      | .error fault => .error (.encoding fault)
      | .ok cs => .ok (unifyLineEnds cs)

end FileTree
end AsmKit
