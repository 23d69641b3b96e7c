import Std.Data.HashMap
import Std.Data.HashSet
import StackWalk.Metadata.Method

/-!
# Known metadata

An interpreted frame holds raw pointers to its method and to its constant pool cache.
Nothing is derived from such a word before a `MetadataOracle` has said that it is the
address of a live object. `MetadataTable` is the registry that usually answers.
-/

set_option autoImplicit false

namespace StackWalk

/-- Says which addresses are those of live metadata. -/
structure MetadataOracle where
  /-- The method at an address. -/
  method? : Word → Option Method
  /-- The address is that of a metadata object of any sort. -/
  isMetadata : Word → Bool

/-- The oracle that knows no metadata. -/
def MetadataOracle.unknown : MetadataOracle := ⟨fun _ => none, fun _ => false⟩

/-- Registered methods and other metadata objects. -/
structure MetadataTable where
  methods : Std.HashMap Word Method
  others : Std.HashSet Word

namespace MetadataTable

/-- The table without entries. -/
def empty : MetadataTable := ⟨∅, ∅⟩

/-- Register a method. -/
def registerMethod (t : MetadataTable) (address : Word) (m : Method) : MetadataTable :=
  { t with methods := t.methods.insert address m }

/-- Register a metadata object that is not a method. -/
def register (t : MetadataTable) (address : Word) : MetadataTable :=
  { t with others := t.others.insert address }

/-- Whatever is registered at the address is forgotten. The first component says whether
there was anything. -/
def unregister (t : MetadataTable) (address : Word) : Bool × MetadataTable :=
  (t.methods.contains address || t.others.contains address,
    ⟨t.methods.erase address, t.others.erase address⟩)

/-- Number of registered objects. An address registered both as a method and as another
object counts twice. -/
def size (t : MetadataTable) : Nat := t.methods.size + t.others.size

/-- The oracle that vouches for the registered objects. The null address is never one of
them. -/
def oracle (t : MetadataTable) : MetadataOracle where
  method? a := if a = 0 then none else t.methods[a]?
  isMetadata a := a ≠ 0 && (t.others.contains a || t.methods.contains a)

end MetadataTable

end StackWalk
