import StackWalk.Word

/-!
# Hexadecimal text of words

Words are written with the prefix `0x` and lower-case digits. `Word.hex` uses as
few digits as possible, `Word.hexPadded` always sixteen.
-/

set_option autoImplicit false

namespace StackWalk.Word

/-- Lower-case hexadecimal digits of `n`, without leading zeros. -/
def hexDigits (n : Nat) : String := String.ofList (Nat.toDigits 16 n)

/-- Text of a word with as few digits as possible: `0x0`, `0x7ff0`. -/
def hex (w : Word) : String := "0x" ++ hexDigits w.toNat

/-- Text of a word with sixteen digits: `0x0000000000007ff0`. -/
def hexPadded (w : Word) : String :=
  let digits := Nat.toDigits 16 w.toNat
  "0x" ++ String.ofList (List.replicate (16 - digits.length) '0' ++ digits)

end StackWalk.Word
