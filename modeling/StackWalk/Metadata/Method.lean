import StackWalk.Word

/-!
# Methods as a stack walk sees them

A method matters to a walk through its bytecode range, the depth of its operand stack
and the type of its result.
-/

set_option autoImplicit false

namespace StackWalk

/-- Type of a method's result. -/
inductive ResultType where
  | boolean
  | char
  | float
  | double
  | byte
  | short
  | int
  | long
  | object
  | array
  | void
  deriving DecidableEq, Repr

namespace ResultType

/-- Objects and arrays. -/
def isReference : ResultType → Bool
  | object | array => true
  | _ => false

/-- Types whose values are returned in a floating-point register. -/
def isFloating : ResultType → Bool
  | float | double => true
  | _ => false

end ResultType

/-- A method of the running program. -/
structure Method where
  /-- Address of the first bytecode. -/
  codeBase : Word
  /-- Length of the bytecode in bytes; zero for a native method. -/
  codeSize : Word
  /-- Declared depth of the operand stack. -/
  maxStack : Word
  result : ResultType
  isNative : Bool
  deriving DecidableEq, Repr

namespace Method

/-- The bytecode pointer points into the bytecode. -/
def contains (m : Method) (pointer : Word) : Bool :=
  m.codeBase ≤ pointer && pointer < Word.saturatingAdd m.codeBase m.codeSize

/-- Index of the bytecode at `pointer`. A null pointer and the start of the code both
have index `0`, also in a native method, whose bytecode is empty. Otherwise a pointer
outside the code has no index, nor has one whose index does not fit in 32 bits. -/
def indexOf? (m : Method) (pointer : Word) : Option Nat :=
  if pointer = 0 ∨ pointer = m.codeBase then some 0
  else if m.contains pointer then
    let index := pointer.toNat - m.codeBase.toNat
    if index < 0x100000000 then some index else none
  else none

end Method

end StackWalk
