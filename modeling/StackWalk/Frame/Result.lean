import StackWalk.Frame.Interpreted

/-!
# Method results

A method leaves its result for its caller in one word. The declared result type says
where that word is and how it is decoded: integers are its low bytes, floating-point
numbers the bit pattern in them.
-/

set_option autoImplicit false

namespace StackWalk

/-- Result of a method. -/
inductive ResultValue where
  /-- Reference to an object or an array; zero is the null reference. -/
  | object (reference : Word)
  | boolean (value : Bool)
  | byte (value : Int8)
  | char (value : UInt16)
  | short (value : Int16)
  | int (value : Int32)
  | long (value : Int64)
  /-- Single-precision number, as its bit pattern. -/
  | float (bits : UInt32)
  /-- Double-precision number, as its bit pattern. -/
  | double (bits : UInt64)
  | void
  deriving DecidableEq

/-- Decode a stack word as a result of the given type. -/
def ResultValue.decode (type : ResultType) (w : Word) : ResultValue :=
  match type with
  | .object | .array => .object w
  | .boolean => .boolean (w.toUInt8 ≠ 0)
  | .byte => .byte w.toUInt8.toInt8
  | .char => .char w.toUInt16
  | .short => .short w.toUInt16.toInt16
  | .int => .int w.toUInt32.toInt32
  | .long => .long w.toInt64
  | .float => .float w.toUInt32
  | .double => .double w
  | .void => .void

namespace Frame

/-- Address of the result on the expression stack. Native code has pushed its result onto
the native stack: a floating-point result lies two words above `sp`, below a register
that was saved after it. -/
def resultAddress (f : Frame) (v : StackView) (m : Method) : Except Violation (Option Word) :=
  if m.isNative then
    .ok (if m.result.isFloating then f.sp.checkedAdd? 16 else some f.sp)
  else f.topOfStack v

/-- The word that holds the result, given the address of the result on the expression
stack. A native method keeps an object in a slot of its own. -/
def resultWord? (f : Frame) (v : StackView) (m : Method) (address : Word) : Option Word :=
  if m.result.isReference && m.isNative then v.readAt? f.fp FrameSlot.objectResult
  else v.read? address

/-- The result that the method of an interpreted frame has left for its caller. -/
def result (f : Frame) (ctx : WalkContext) (v : StackView) :
    Except Violation (Option ResultValue) := do
  match (← f.slot v .method).bind ctx.metadata.method? with
  | none => return none
  | some m =>
      match ← f.resultAddress v m with
      | none => return none
      | some address =>
          if m.result = .void then return some .void
          return (f.resultWord? v m address).map (ResultValue.decode m.result)

end Frame

end StackWalk
