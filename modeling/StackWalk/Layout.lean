import StackWalk.Word

/-!
# Physical frame layout on x86-64

Each frame that pushes a frame pointer keeps the caller's frame pointer at `[fp]`
and the return address one word above it; the caller's stack pointer is the address
two words above `fp`. An interpreted frame adds a fixed record of nine words just
below `fp`:

| words from `fp` | contents                                   |
|-----------------|--------------------------------------------|
| `2`             | object result of a native call             |
| `3`             | result handler of a native call            |
| `-1`            | the caller's unextended stack pointer      |
| `-2`            | outgoing stack pointer of the current call |
| `-3`            | method                                     |
| `-4`            | class object of the method                 |
| `-5`            | method data                                |
| `-6`            | constant pool cache                        |
| `-7`            | address of the locals                      |
| `-8`            | bytecode pointer                           |
| `-9`            | initial stack pointer, the monitor block   |

Only the entry frame differs between platforms; `EntryLayout` holds what varies.
-/

set_option autoImplicit false

namespace StackWalk

namespace FrameSlot

/-- Words from `fp` to the saved frame pointer of the caller. -/
def link : Int := 0

/-- Words from `fp` to the return address. -/
def returnAddress : Int := 1

/-- Words from `fp` to the caller's stack pointer. -/
def callerSp : Int := 2

/-- Words from `fp` to the object result of a native call. -/
def objectResult : Int := 2

/-- Words from `fp` to the result handler of a native call. -/
def resultHandler : Int := 3

end FrameSlot

/-- Fixed words of an interpreted frame's record, from the highest address down. -/
inductive InterpreterSlot where
  | callerSp
  | lastSp
  | method
  | classObject
  | methodData
  | cache
  | locals
  | bytecode
  | monitors
  deriving DecidableEq, Repr

namespace InterpreterSlot

/-- Words from `fp` to the slot. -/
def offset : InterpreterSlot → Int
  | callerSp => -1
  | lastSp => -2
  | method => -3
  | classObject => -4
  | methodData => -5
  | cache => -6
  | locals => -7
  | bytecode => -8
  | monitors => -9

/-- Name of the slot in a description of the frame. -/
def label : InterpreterSlot → String
  | callerSp => "interpreter_frame_sender_sp"
  | lastSp => "interpreter_frame_last_sp"
  | method => "interpreter_frame_method"
  | classObject => "interpreter_frame_mirror"
  | methodData => "interpreter_frame_mdp"
  | cache => "interpreter_frame_cache"
  | locals => "interpreter_frame_locals"
  | bytecode => "interpreter_frame_bcp"
  | monitors => "interpreter_frame_initial_sp"

/-- All slots, from the highest address down. -/
def all : List InterpreterSlot :=
  [callerSp, lastSp, method, classObject, methodData, cache, locals, bytecode, monitors]

end InterpreterSlot

/-- What the platform decides about the frame of the call stub. -/
structure EntryLayout where
  /-- Words from `fp` to the pointer to the call wrapper. -/
  wrapperOffset : Int
  /-- Words that the call stub has pushed after the call. -/
  savedWords : Word
  /-- Bytes of the home area for register arguments. -/
  homeAreaBytes : Word
  /-- Bytes from the start of a call wrapper to its anchor. -/
  anchorOffset : Word
  deriving DecidableEq, Repr

namespace EntryLayout

/-- System V calling convention. -/
def systemV : EntryLayout := ⟨-6, 13, 0, 32⟩

/-- Windows calling convention. -/
def windows : EntryLayout := ⟨2, 60, 32, 32⟩

end EntryLayout

end StackWalk
