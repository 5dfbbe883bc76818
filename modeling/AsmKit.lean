import AsmKit.Assembler
import AsmKit.Datum
import AsmKit.FaultKind
import AsmKit.Files.Path
import AsmKit.Files.Tree
import AsmKit.Instruction.Basic
import AsmKit.Instruction.FromData
import AsmKit.Instruction.Problem
import AsmKit.Instruction.Search
import AsmKit.Json.Fault
import AsmKit.Json.Reader
import AsmKit.Json.Writer
import AsmKit.Log
import AsmKit.Machine.Basic
import AsmKit.Machine.Bench
import AsmKit.Machine.Memory
import AsmKit.Number.Binary64
import AsmKit.Number.Integer
import AsmKit.Pattern.Fault
import AsmKit.Pattern.Match
import AsmKit.Pattern.Matcher
import AsmKit.Pattern.Modes
import AsmKit.Pattern.Node
import AsmKit.Pattern.Reader
import AsmKit.Pattern.Scanner
import AsmKit.Program.Basic
import AsmKit.Program.Reading
import AsmKit.Settings.Draft
import AsmKit.Settings.Fault
import AsmKit.Settings.File
import AsmKit.Settings.Overrides
import AsmKit.Source.File
import AsmKit.Source.Lines
import AsmKit.Source.Text
import AsmKit.Table
import AsmKit.Text.Blank
import AsmKit.Text.Case
import AsmKit.Text.CharacterName
import AsmKit.Text.Digit
import AsmKit.Text.Hex
import AsmKit.Text.Letter
import AsmKit.Text.Printable
import AsmKit.Text.Quoted
import AsmKit.Text.Ranges
import AsmKit.Text.Utf8
import AsmKit.Text.Word
import AsmKit.Proofs.Source.Cutting
import AsmKit.Proofs.Source.HandsOut
import AsmKit.Proofs.Instruction.Search
import AsmKit.Proofs.Program.Lines
import AsmKit.Proofs.Settings.Standard
import AsmKit.Proofs.Machine.Loop
import AsmKit.Proofs.Machine.Script
import AsmKit.Proofs.Machine.Bounds
import AsmKit.Proofs.Pattern.Carrying
import AsmKit.Proofs.Pattern.Onward
import AsmKit.Proofs.Source.Readings
import AsmKit.Proofs.Instruction.Operands
import AsmKit.Proofs.Program.Reached
import AsmKit.Proofs.Machine.Executing
import AsmKit.Proofs.Machine.Landing
import AsmKit.Proofs.Text.Utf8
import AsmKit.Proofs.Source.File
import AsmKit.Proofs.Text.Trim
import AsmKit.Proofs.Text.Classes
import AsmKit.Proofs.Pattern.Greedy
import AsmKit.Proofs.Pattern.Whole
import AsmKit.Proofs.Settings.OperandRules
import AsmKit.Proofs.Settings.LineRules
import AsmKit.Proofs.Program.Counting
import AsmKit.Proofs.Program.Rendering
import AsmKit.Proofs.Program.Joining
import AsmKit.Proofs.Program.Successive
import AsmKit.Proofs.Settings.Resolving
import AsmKit.Proofs.Settings.Loading
import AsmKit.Proofs.Program.Entrances
import AsmKit.Proofs.Instruction.Choosing
import AsmKit.Proofs.Program.Extending
import AsmKit.Proofs.Program.Alike
import AsmKit.Proofs.Program.Binding
import AsmKit.Proofs.Program.Overloads
import AsmKit.Proofs.Machine.Confined
import AsmKit.Proofs.Machine.Isolation
import AsmKit.Proofs.Machine.Walking
import AsmKit.Proofs.Machine.FaultLines
import AsmKit.Proofs.Program.Normalized
import AsmKit.Proofs.Machine.Referring
import AsmKit.Proofs.Number.Decimal
import AsmKit.Proofs.Machine.Jumping
import AsmKit.Proofs.Machine.Literals
import AsmKit.Proofs.Instruction.Reading
import AsmKit.Proofs.Instruction.Resolution
import AsmKit.Proofs.Datum
import AsmKit.Proofs.First
import AsmKit.Proofs.Json.Limits
import AsmKit.Proofs.Files.Path
import AsmKit.Proofs.Files.Tree
import AsmKit.Proofs.Source.Unavailable
import AsmKit.Proofs.Settings.Offences
import AsmKit.Proofs.Pattern.Steady
import AsmKit.Proofs.Pattern.Warranted
import AsmKit.Proofs.Settings.Straying
import AsmKit.Proofs.Settings.Escaping
import AsmKit.Proofs.Machine.StraightLine
import AsmKit.Proofs.Text.Runs
import AsmKit.Proofs.Settings.Scanning
import AsmKit.Proofs.Machine.StackHistory
import AsmKit.Proofs.Settings.Words
import AsmKit.Proofs.Pattern.Leftmost
import AsmKit.Proofs.Instruction.Obstacles
import AsmKit.Proofs.Settings.Lookup
