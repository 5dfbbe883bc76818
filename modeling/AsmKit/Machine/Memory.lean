import AsmKit.Datum
import AsmKit.Table

/-! What a machine remembers: a stack, whose positions count from one at the bottom, and a heap of
named data. -/

namespace AsmKit

/-- A stack of data, the bottom first. -/
structure Stack where
  items : Array Datum := #[]
  deriving Repr, Inhabited

namespace Stack

def size (stack : Stack) : Nat := stack.items.size

def push (stack : Stack) (datum : Datum) : Stack := ⟨stack.items.push datum⟩

def peek? (stack : Stack) : Option Datum := stack.items.back?

def drop (stack : Stack) : Stack := ⟨stack.items.pop⟩

/-- The item on top and the stack without it. An empty stack stays as it is. -/
def pop (stack : Stack) : Option Datum × Stack := (stack.peek?, stack.drop)

def get? (stack : Stack) (position : Int) : Option Datum :=
  if position < 1 then none else stack.items[(position - 1).toNat]?

def clear (_ : Stack) : Stack := {}

def shown (room : Nat) (stack : Stack) : Except Datum.Unshown String :=
  ((Datum.list stack.items.toList).shown room).map fun items => "Stack(" ++ items ++ ")"

end Stack

/-- Data by name, each name once. -/
structure Heap where
  entries : List (String × Datum) := []
  deriving Repr, Inhabited

namespace Heap

def get? (heap : Heap) (name : String) : Option Datum := heap.entries.lookup name

def set (heap : Heap) (name : String) (datum : Datum) : Heap := ⟨Table.put name datum heap.entries⟩

def erase (heap : Heap) (name : String) : Heap := ⟨Table.erase name heap.entries⟩

end Heap

structure Memory where
  stack : Stack := {}
  heap : Heap := {}
  deriving Repr, Inhabited

def Memory.reset (_ : Memory) : Memory := {}

end AsmKit
