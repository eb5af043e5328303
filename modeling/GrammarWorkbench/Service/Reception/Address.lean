import GrammarWorkbench.Text.Hex

/-!
# Addresses in brackets

A host in brackets is an address: eight groups of sixteen bits, or a form that is named by a version
in front of it. Groups of zeros may be left out at one place, where two colons stand, and the last
two groups may be written as four numbers up to 255. What follows a percent sign names a zone.
-/

set_option autoImplicit false

namespace GrammarWorkbench.Service.Address

/-- A number up to 255 in decimal, without leading zeros. -/
def isOctet (cs : List Char) : Bool :=
  !cs.isEmpty && cs.all Char.isDigit && (cs.length = 1 || cs.head? ≠ some '0') &&
    cs.length ≤ 3 && decide (cs.foldl (fun n c => 10 * n + (c.toNat - 48)) 0 ≤ 255)

/-- Four numbers with points between them. -/
def isQuad (cs : List Char) : Bool :=
  (cs.splitOn '.').length = 4 && (cs.splitOn '.').all isOctet

/-- One to four hexadecimal digits: a group of sixteen bits. -/
def isGroup (cs : List Char) : Bool :=
  !cs.isEmpty && cs.length ≤ 4 && cs.all fun c => (Text.hexValue? c).isSome

/-- How many groups a text has that consists of groups with colons between them. -/
def groups? (cs : List Char) : Option Nat :=
  if cs.isEmpty then some 0
  else if (cs.splitOn ':').all isGroup then some (cs.splitOn ':').length
  else none

/-- How many groups a text has if four numbers may stand for its last two groups. -/
def groupsWithQuad? (cs : List Char) : Option Nat :=
  let parts := cs.splitOn ':'
  if parts.dropLast.all isGroup && isQuad (parts.getLastD []) then some (parts.length + 1)
  else groups? cs

/-- What stands before and after the first two colons in a row. -/
def splitAtGap : List Char → Option (List Char × List Char)
  | [] => none
  | ':' :: ':' :: rest => some ([], rest)
  | c :: rest => (splitAtGap rest).map fun parts => (c :: parts.1, parts.2)

/-- Eight groups, or fewer with one place where groups of zeros are left out. -/
def isGrouped (cs : List Char) : Bool :=
  match splitAtGap cs with
  | none => groupsWithQuad? cs = some 8
  | some (before, after) =>
    match groups? before, groupsWithQuad? after with
    | some m, some n => decide (m + n < 8)
    | _, _ => false

/-- A zone has a name, which holds no further percent sign. A text without a zone is fine too. -/
def isZone : List Char → Bool
  | [] => true
  | _ :: name => !name.isEmpty && !name.contains '%'

/-- An address that is named by a version: a `v`, the version in hexadecimal digits, a point and
something more. -/
def isVersioned : List Char → Bool
  | 'v' :: rest =>
    !(rest.takeWhile (· ≠ '.')).isEmpty &&
      (rest.takeWhile (· ≠ '.')).all (fun c => (Text.hexValue? c).isSome) &&
      decide (1 < (rest.dropWhile (· ≠ '.')).length)
  | _ => false

/-- Whether a text may stand in brackets as an address. -/
def isAddress (cs : List Char) : Bool :=
  isVersioned cs || (isGrouped (cs.takeWhile (· ≠ '%')) && isZone (cs.dropWhile (· ≠ '%')))

end GrammarWorkbench.Service.Address
