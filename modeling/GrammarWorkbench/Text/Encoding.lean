import GrammarWorkbench.Text.Utf16

/-!
# Encodings of texts

A sender may write a text in UTF-8, in UTF-16 or in UTF-32, and in the latter two with either byte
of a unit first. Which one it was shows in the zeros among the first bytes, provided that the text
starts with plain characters: such a character has only zeros in its unit besides its own byte.
-/

set_option autoImplicit false

namespace GrammarWorkbench.Text

/-- Which byte of a unit is written first. -/
inductive ByteOrder where
  | bigEndian
  | littleEndian
  deriving DecidableEq

/-- The number that the bytes of a unit make up. -/
def ByteOrder.unit : ByteOrder → List UInt8 → Nat
  | bigEndian, bytes => bytes.foldl (fun n byte => 256 * n + byte.toNat) 0
  | littleEndian, bytes => bytes.foldr (fun byte n => 256 * n + byte.toNat) 0

/-- How a text is written in bytes. -/
inductive Encoding where
  | utf8
  | utf16 (order : ByteOrder)
  | utf32 (order : ByteOrder)
  deriving DecidableEq

namespace Encoding

/-- The encoding that the first bytes of a text show. -/
def detect : List UInt8 → Encoding
  | [a, b] =>
    if a = 0 then .utf16 .bigEndian
    else if b = 0 then .utf16 .littleEndian
    else .utf8
  | a :: b :: c :: d :: _ =>
    if a = 0 then (if b = 0 then .utf32 .bigEndian else .utf16 .bigEndian)
    else if b = 0 then
      (if c = 0 ∧ d = 0 then .utf32 .littleEndian else .utf16 .littleEndian)
    else .utf8
  | _ => .utf8

/-- The units of two bytes each. -/
def units16? (order : ByteOrder) : List UInt8 → Option (List Nat)
  | [] => some []
  | [_] => none
  | a :: b :: rest => (units16? order rest).map (order.unit [a, b] :: ·)

/-- The units of four bytes each. -/
def units32? (order : ByteOrder) : List UInt8 → Option (List Nat)
  | [] => some []
  | a :: b :: c :: d :: rest => (units32? order rest).map (order.unit [a, b, c, d] :: ·)
  | _ => none

/-- The character with a code point, if there is one; a surrogate is read as U+FFFD. -/
def codePoint? (n : Nat) : Option Char :=
  if n < 0x110000 then some (unitChar n) else none

/-- The text of bytes in an encoding, if they are a whole number of units. -/
def decode? : Encoding → List UInt8 → Option String
  | utf8, bytes => String.fromUTF8? ⟨bytes.toArray⟩
  | utf16 order, bytes => (units16? order bytes).map fun units => String.ofList (charsOfUnits units)
  | utf32 order, bytes => do
    let units ← units32? order bytes
    let characters ← units.mapM codePoint?
    some (String.ofList characters)

end Encoding

/-- A text without the byte order mark at its front. -/
def withoutMark (s : String) : String :=
  match s.toList with
  | '\uFEFF' :: rest => String.ofList rest
  | _ => s

/-- The text that bytes hold, in the encoding that they show. Only UTF-8 has a mark at its front
that is no part of the text. -/
def textOfBytes? (bytes : List UInt8) : Option String :=
  match Encoding.detect bytes with
  | .utf8 => (Encoding.utf8.decode? bytes).map withoutMark
  | encoding => encoding.decode? bytes

end GrammarWorkbench.Text
