/-! What the library reports while it works: each event has a level, an area and a text. -/

namespace AsmKit.Log

inductive Level where
  | debug
  | info
  | warning
  deriving DecidableEq, Repr

inductive Area where
  | settings
  | source
  | instructions
  | parsing
  | machine
  deriving DecidableEq, Repr

inductive Event where
  | settingsLoaded (path : String)
  | fileRead (size : Nat) (path : String)
  | formWithoutExecutor (mnemonic : String)
  | formRefused (line : Int) (signature problem : String)
  | labelRepeated (line : Nat) (name : String)
  | labelPlaced (line : Nat) (name : String) (location : Nat)
  | lineRefused (line : Nat) (problems : List String)
  | parsed (lines instructions labels : Nat)
  | jumped (target : String) (position : Int)
  | stepped (line : Int) (mnemonic : String) (operands : List String)
  deriving DecidableEq, Repr

namespace Event

def level : Event → Level
  | .formWithoutExecutor _ => .warning
  | .parsed _ _ _ => .info
  | _ => .debug

def area : Event → Area
  | .settingsLoaded _ => .settings
  | .fileRead _ _ => .source
  | .formWithoutExecutor _ | .formRefused _ _ _ => .instructions
  | .labelRepeated _ _ | .labelPlaced _ _ _ | .lineRefused _ _ | .parsed _ _ _ => .parsing
  | .jumped _ _ | .stepped _ _ _ => .machine

def text : Event → String
  | .settingsLoaded path => "Loaded settings from " ++ path
  | .fileRead size path => "Read " ++ toString size ++ " characters from " ++ path
  | .formWithoutExecutor mnemonic =>
    "Instruction " ++ mnemonic ++ " defined without an executor"
  | .formRefused line signature problem =>
    "Line " ++ toString line ++ ": " ++ signature ++ " rejected: " ++ problem
  | .labelRepeated line name => "Line " ++ toString line ++ ": duplicate label " ++ name
  | .labelPlaced line name location =>
    "Line " ++ toString line ++ ": label " ++ name ++ " -> " ++ toString location
  | .lineRefused line problems =>
    "Line " ++ toString line ++ ": parse failed: " ++ "; ".intercalate problems
  | .parsed lines instructions labels =>
    "Parsed " ++ toString lines ++ " line(s): " ++ toString instructions ++
      " instruction(s), " ++ toString labels ++ " label(s)"
  | .jumped target position => "Jump to " ++ target ++ " (" ++ toString position ++ ")"
  | .stepped line mnemonic operands =>
    "Line " ++ toString line ++ ": " ++ mnemonic ++ " " ++ " ".intercalate operands

end Event
end AsmKit.Log
