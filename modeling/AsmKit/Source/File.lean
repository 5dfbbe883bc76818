import AsmKit.Files.Tree
import AsmKit.Log
import AsmKit.Source.Text

/-! A file as a source of lines: its whole text is read first. -/

namespace AsmKit

/-- Why a file is no source of lines. A path with a zero character is a fault of another kind. -/
structure SourceFault where
  path : Path
  fault : FileTree.TextFault
  deriving DecidableEq, Repr

namespace SourceFault

def message (fault : SourceFault) : String :=
  match fault.fault with
  | .zeroInPath => fault.fault.message fault.path
  | _ => "Cannot read source file " ++ fault.path.text ++ ": " ++ fault.fault.message fault.path

def kind (fault : SourceFault) : FaultKind :=
  match fault.fault with
  | .zeroInPath => .badValue
  | _ => .unavailable

end SourceFault

namespace TextSource

def fileText (files : FileTree) (path : String) : Except SourceFault (List Char) :=
  let path := Path.ofText path
  match files.textAt path with
  | .ok text => .ok text
  | .error fault => .error ⟨path, fault⟩

def fileEvents (path : String) : Except SourceFault (List Char) → List Log.Event
  | .ok text => [.fileRead text.length (Path.ofText path).text]
  | .error _ => []

def ofFile (settings : Settings) (files : FileTree) (path : String) :
    Except SourceFault TextSource :=
  (fileText files path).map (ofText settings)

end TextSource
end AsmKit
