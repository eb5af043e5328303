/-!
# UTF-16

A character up to U+FFFF is one unit of sixteen bits, and any other one is a high and a low
surrogate. A surrogate without its partner stands for no character and is read as U+FFFD.
-/

set_option autoImplicit false

namespace GrammarWorkbench.Text

/-- Whether a unit is the first half of a pair. -/
def isHighSurrogate (unit : Nat) : Bool :=
  decide (0xD800 ≤ unit) && decide (unit < 0xDC00)

/-- Whether a unit is the second half of a pair. -/
def isLowSurrogate (unit : Nat) : Bool :=
  decide (0xDC00 ≤ unit) && decide (unit < 0xE000)

/-- The character of a pair of surrogates. -/
def surrogatePair? (high low : Nat) : Option Char :=
  if isHighSurrogate high && isLowSurrogate low then
    some (Char.ofNat (0x10000 + (high - 0xD800) * 0x400 + (low - 0xDC00)))
  else none

/-- The character of a unit by itself. -/
def unitChar (unit : Nat) : Char :=
  if isHighSurrogate unit || isLowSurrogate unit then Char.ofNat 0xFFFD else Char.ofNat unit

/-- The characters of a sequence of units. -/
def charsOfUnits : List Nat → List Char
  | high :: low :: rest =>
    match surrogatePair? high low with
    | some c => c :: charsOfUnits rest
    | none => unitChar high :: charsOfUnits (low :: rest)
  | [unit] => [unitChar unit]
  | [] => []

/-- The units of a character. -/
def unitsOfChar (c : Char) : List Nat :=
  if c.toNat < 0x10000 then [c.toNat]
  else [0xD800 + (c.toNat - 0x10000) / 0x400, 0xDC00 + (c.toNat - 0x10000) % 0x400]

end GrammarWorkbench.Text
