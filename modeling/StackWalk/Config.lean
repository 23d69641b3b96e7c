import StackWalk.Layout

/-!
# Configuration of a walk

A configuration is fixed before a walk and only read by it.
-/

set_option autoImplicit false

namespace StackWalk

/-- Settings for validating and walking frames. -/
structure WalkConfig where
  layout : EntryLayout
  /-- Words by which an interpreted frame may exceed the operand stack of its method
  before it counts as corrupt. They cover the fixed record, the monitors and the locals. -/
  slackWords : Word
  /-- Greatest number of frames that a walk yields. -/
  maxDepth : Word
  /-- Log each patched return address. -/
  tracePatching : Bool
  /-- Compare each patched frame with the same frame built afresh. -/
  verifyPatched : Bool
  deriving DecidableEq, Repr

/-- Why a configuration is refused. -/
inductive ConfigError where
  /-- The value of the variable `name` has another form than the `expected` one. -/
  | invalidValue (name value expected : String)
  /-- A field that has to be positive is zero. -/
  | zero (field : String)
  deriving DecidableEq, Repr

/-- Text of a configuration error. -/
def ConfigError.message : ConfigError → String
  | invalidValue name value expected =>
      s!"invalid value `{value}` for {name}: expected {expected}"
  | zero field => s!"{field} must be greater than zero"

namespace WalkConfig

/-- The settings that hold unless others are asked for. The layout is that of hosts other than
Windows. -/
def standard : WalkConfig where
  layout := .systemV
  slackWords := 1024
  maxDepth := 4096
  tracePatching := false
  verifyPatched := true

/-- Refuse a configuration with which no walk could yield a frame. -/
def validate (c : WalkConfig) : Except ConfigError Unit :=
  if c.maxDepth = 0 then .error (.zero "max_walk_depth") else .ok ()

end WalkConfig

end StackWalk
