import GrammarWorkbench.Service.Reception.Authority

/-!
# References

A reference names a place by a scheme, an authority, a path and a query; all but the path may be
missing. It is read leniently: control characters and blanks before it do not count, and neither do
tabs and line breaks anywhere in it. A path may write characters by their codes.
-/

set_option autoImplicit false

namespace GrammarWorkbench.Service

/-- A reference by its parts. What a fragment adds is dropped. -/
structure Reference where
  scheme : List Char
  authority : List Char
  path : List Char
  query : List Char
  deriving DecidableEq

namespace Reference

/-! ## Reading -/

/-- A control character or a blank, which does not count at the front of a reference. -/
def isLeading (c : Char) : Bool :=
  decide (c.toNat ≤ 0x20)

/-- A tab or a line break, which does not count anywhere in a reference. -/
def isIgnored (c : Char) : Bool :=
  c = '\t' || c = '\r' || c = '\n'

/-- The characters of a reference that count. -/
def significant (cs : List Char) : List Char :=
  (cs.dropWhile isLeading).filter fun c => !isIgnored c

/-- A character of a scheme; the first one has to be a letter. -/
def isSchemeChar (c : Char) : Bool :=
  c.isAlphanum || c = '+' || c = '-' || c = '.'

/-- A text is a scheme if it starts with a letter and has characters of a scheme only. -/
def isScheme : List Char → Bool
  | [] => false
  | c :: rest => c.isAlpha && rest.all isSchemeChar

/-- The scheme at the front of a reference, in lower case, and what follows its colon. -/
def takeScheme (cs : List Char) : List Char × List Char :=
  match cs.dropWhile (· ≠ ':') with
  | _ :: rest =>
    if isScheme (cs.takeWhile (· ≠ ':')) then
      ((cs.takeWhile (· ≠ ':')).map Char.toLower, rest)
    else ([], cs)
  | [] => ([], cs)

/-- A character that ends a path. -/
def endsPath (c : Char) : Bool :=
  c = '?' || c = '#'

/-- A character that ends an authority. -/
def endsAuthority (c : Char) : Bool :=
  c = '/' || endsPath c

/-- The authority after two slashes, and what follows it. -/
def takeAuthority : List Char → List Char × List Char
  | '/' :: '/' :: rest =>
    (rest.takeWhile (!endsAuthority ·), rest.dropWhile (!endsAuthority ·))
  | cs => ([], cs)

/-- The query after a question mark. -/
def queryOf : List Char → List Char
  | '?' :: rest => rest.takeWhile (· ≠ '#')
  | _ => []

/-- The reference that a text is. -/
def read (cs : List Char) : Reference :=
  let (scheme, rest) := takeScheme (significant cs)
  let (authority, rest) := takeAuthority rest
  { scheme, authority
    path := rest.takeWhile (!endsPath ·)
    query := queryOf (rest.dropWhile (!endsPath ·)) }

/-! ## Normal form -/

/-- An authority after two slashes, in normal form; if nothing is left of it, the slashes are left
out too. -/
def normalAuthority (text : List Char) : List Char :=
  match (Authority.read text).normalText with
  | [] => []
  | c :: rest => '/' :: '/' :: c :: rest

/-- The reference as text, in normal form and without its query. -/
def normalText (reference : Reference) : List Char :=
  (if reference.scheme.isEmpty then [] else reference.scheme ++ [':']) ++
    (normalAuthority reference.authority ++ reference.path)

/-! ## Codes -/

/-- A path with the characters that are written by their codes. Codes beyond ASCII are left as they
are. -/
def decodePath : List Char → List Char
  | '%' :: a :: b :: rest =>
    match Text.hexValue? a, Text.hexValue? b with
    | some high, some low =>
      if high < 8 then Char.ofNat (16 * high + low) :: decodePath rest
      else '%' :: decodePath (a :: b :: rest)
    | _, _ => '%' :: decodePath (a :: b :: rest)
  | c :: rest => c :: decodePath rest
  | [] => []

end Reference

end GrammarWorkbench.Service
