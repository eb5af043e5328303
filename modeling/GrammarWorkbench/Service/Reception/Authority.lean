import GrammarWorkbench.Service.Reception.Address
import GrammarWorkbench.Service.Reception.HostName
import GrammarWorkbench.Text.Hex
import GrammarWorkbench.Text.Integer
import GrammarWorkbench.Text.Ranges

/-!
# Authorities

The authority of a reference names a user with a password, a host, and a number after a colon; each
of them may be missing. A host with colons of its own stands in brackets.
-/

set_option autoImplicit false

namespace GrammarWorkbench.Service

/-- An authority by its parts. -/
structure Authority where
  user : List Char
  password : List Char
  host : List Char
  number : List Char
  deriving DecidableEq

/-- What can be wrong with a place: a part of it is not well formed, or the name of a host is
refused. -/
inductive Fault where
  | malformed
  | hostName
  deriving DecidableEq

namespace Authority

/-! ## Reading -/

/-- What stands before the first occurrence of a character; without one, everything. -/
def before (c : Char) (cs : List Char) : List Char :=
  cs.takeWhile (· ≠ c)

/-- What stands after the first occurrence of a character; without one, nothing. -/
def after (c : Char) (cs : List Char) : List Char :=
  (cs.dropWhile (· ≠ c)).drop 1

/-- What stands before the last `@`; without one, nothing. -/
def userText (text : List Char) : List Char :=
  (after '@' text.reverse).reverse

/-- What stands after the last `@`; without one, everything. -/
def hostText (text : List Char) : List Char :=
  (before '@' text.reverse).reverse

/-- The authority that a text is. Of a host in brackets only what stands inside them counts. -/
def read (text : List Char) : Authority :=
  let (host, number) :=
    if (hostText text).contains '[' then
      let inside := after '[' (hostText text)
      (before ']' inside, after ':' (after ']' inside))
    else (before ':' (hostText text), after ':' (hostText text))
  { user := before ':' (userText text)
    password := after ':' (userText text)
    host, number }

/-! ## What is wrong -/

/-- The code points of marks and ligatures that hold a sign which divides an authority or ends
it. -/
def disguisedRanges : Text.Ranges :=
  [(0x2047, 0x2049), (0x2100, 0x2101), (0x2105, 0x2106), (0x2A74, 0x2A74), (0xFE13, 0xFE13),
    (0xFE16, 0xFE16), (0xFE55, 0xFE56), (0xFE5F, 0xFE5F), (0xFE6B, 0xFE6B)]

/-- A sign that divides an authority or ends it. -/
def isDivider (c : Char) : Bool :=
  c = '@' || c = ':' || c = '/' || c = '?' || c = '#'

/-- A character beyond ASCII that holds a sign which divides an authority or ends it. -/
def isDisguised (c : Char) : Bool :=
  !HostName.isAscii c &&
    ((HostName.plainForm c).any isDivider || disguisedRanges.covers c.toNat)

/-- Whether the text of an authority is well formed: it has no brackets or both of them, with an
address inside, and no character of it holds a sign that divides. -/
def isWellFormed (text : List Char) : Bool :=
  (text.contains '[' == text.contains ']') &&
    (!text.contains '[' || Address.isAddress (before ']' (after '[' text))) &&
    !text.any isDisguised

/-- The greatest number of an authority. -/
def maxNumber : Nat := 65535

/-- Whether the number of an authority is missing or has digits only and is not too great. -/
def hasNumber (authority : Authority) : Bool :=
  authority.number.isEmpty ||
    (authority.number.all Char.isDigit &&
      (Text.natural? authority.number).any fun n => decide (n ≤ maxNumber))

/-- What is wrong with the parts of an authority. The host comes first. -/
def fault? (authority : Authority) : Option Fault :=
  if !authority.host.isEmpty && !HostName.allows authority.host then some .hostName
  else if !authority.hasNumber then some .malformed
  else none

/-! ## Normal form -/

/-- A character of a user that is written as it is. -/
def isPlain (c : Char) : Bool :=
  c.isAlphanum || "_.-~%!$&'()*+,;=".toList.contains c

/-- A text with the characters that need it written by their codes. -/
def encode (cs : List Char) : List Char :=
  cs.flatMap fun c =>
    if isPlain c then [c]
    else (String.utf8EncodeChar c).flatMap fun byte => '%' :: Text.hexDigits 2 byte.toNat

/-- The user and the password; an empty user leaves nothing, and an empty password is left out. -/
def normalUser (authority : Authority) : List Char :=
  if authority.user.isEmpty then []
  else if authority.password.isEmpty then encode authority.user ++ ['@']
  else encode authority.user ++ ':' :: (encode authority.password ++ ['@'])

/-- The host in its plain form, in lower case up to a percent sign, and in brackets if it has
colons. -/
def normalHost (authority : Authority) : List Char :=
  let name := HostName.plain
    ((before '%' authority.host).map Char.toLower ++ authority.host.dropWhile (· ≠ '%'))
  if name.contains ':' then '[' :: (name ++ [']']) else name

/-- The number after its colon and without leading zeros; zero is left out. -/
def normalNumber (authority : Authority) : List Char :=
  match authority.number.dropWhile (· = '0') with
  | [] => []
  | digits => ':' :: digits

/-- The authority as text, in normal form. -/
def normalText (authority : Authority) : List Char :=
  authority.normalUser ++ (authority.normalHost ++ authority.normalNumber)

end Authority

end GrammarWorkbench.Service
