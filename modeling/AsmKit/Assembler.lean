import AsmKit.Program.Reading
import AsmKit.Settings.Overrides
import AsmKit.Source.File

/-! Forms and settings bound together: texts and files are read with the same rules. -/

namespace AsmKit

/-- An instruction set and the settings that its programs are read with. -/
structure Assembler (α : Type) where
  forms : List (InstructionForm α)
  settings : Settings

namespace Assembler

variable {α : Type}

def new [Text.CharacterNames] (forms : List (InstructionForm α))
    (overrides : Settings.Overrides) : Except Settings.Fault (Assembler α) :=
  overrides.resolve.map fun settings => { forms, settings }

def textSource (assembler : Assembler α) (text : String) : LineSource :=
  .text (TextSource.ofText assembler.settings text.toList)

def fileSource (assembler : Assembler α) (files : FileTree) (path : String) :
    Except SourceFault TextSource :=
  TextSource.ofFile assembler.settings files path

def read (assembler : Assembler α) (source : LineSource) :
    Except LineFault (Report α × LineSource) :=
  Program.read assembler.forms assembler.settings source

def readText (assembler : Assembler α) (text : String) : Report α :=
  Program.readLines assembler.forms assembler.settings {}
    (TextSource.ofText assembler.settings text.toList).drain.1

end Assembler
end AsmKit
