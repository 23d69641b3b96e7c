import StackWalk.Config
import StackWalk.Text.Blank
import StackWalk.Text.Unsigned

/-!
# Configuration from environment variables

Three variables override the standard configuration. Blank characters around a value
are ignored. A flag is one of a few words; a number follows the grammar of
`Text.unsigned?`. The variables are read in a fixed order, and the first value that is
refused decides the error; that a depth of zero is refused is found last.
-/

set_option autoImplicit false

namespace StackWalk

namespace WalkConfig

/-- Variable that switches the logging of patched return addresses on or off. -/
def tracePatchingVariable : String := "PRISM_TRACE_PC_PATCHING"

/-- Variable with the slack of interpreted frames. -/
def slackWordsVariable : String := "PRISM_FRAME_SLACK_WORDS"

/-- Variable with the greatest depth of a walk. -/
def maxDepthVariable : String := "PRISM_MAX_WALK_DEPTH"

/-- Value of a flag, given without the blank characters around it. -/
def flag? (s : String) : Option Bool :=
  if s ∈ ["1", "true", "yes", "on"] then some true
  else if s ∈ ["0", "false", "no", "off", ""] then some false
  else none

/-- Read a flag. A refused flag is reported without the blank characters around it. -/
def readFlag (name value : String) : Except ConfigError Bool :=
  let trimmed := String.ofList (Text.trimBlank value.toList)
  match flag? trimmed with
  | some b => .ok b
  | none => .error (.invalidValue name trimmed "a boolean flag")

/-- Read a number. A refused number is reported as it was given. -/
def readNumber (name value : String) : Except ConfigError Word :=
  match Text.unsigned? (Text.trimBlank value.toList) with
  | some w => .ok w
  | none => .error (.invalidValue name value "an unsigned integer")

/-- Value of a variable: `fallback` if it is not set, else what `read` makes of it. -/
def override {α : Type} (lookup : String → Option String) (name : String)
    (read : String → String → Except ConfigError α) (fallback : α) : Except ConfigError α :=
  match lookup name with
  | some value => read name value
  | none => .ok fallback

/-- The standard configuration with the variables of `lookup` put in force. -/
def ofEnvironment (lookup : String → Option String) : Except ConfigError WalkConfig := do
  let trace ← override lookup tracePatchingVariable readFlag standard.tracePatching
  let slack ← override lookup slackWordsVariable readNumber standard.slackWords
  let depth ← override lookup maxDepthVariable readNumber standard.maxDepth
  let config :=
    { standard with tracePatching := trace, slackWords := slack, maxDepth := depth }
  config.validate
  return config

end WalkConfig

end StackWalk
