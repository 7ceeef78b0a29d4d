import DocumentMigration.Json.Token

/-!
Identifiers of resources and references to them: their parts, which characters may stand in each,
and their text. A reference may lack every part but the path, which may be empty.
-/
namespace DocumentMigration

structure Uri where
  scheme : Option (List Char) := none
  authority : Option (List Char) := none
  path : List Char := []
  query : Option (List Char) := none
  fragment : Option (List Char) := none
deriving DecidableEq

namespace Uri

open Json (Token)

/-! Characters. -/

/-- Characters without a meaning of their own, which need no percent sign. -/
def isUnreserved (c : Char) : Bool := c.isAlphanum || ['-', '.', '_', '~'].contains c

def isDelimiter (c : Char) : Bool :=
  ['!', '$', '&', '\'', '(', ')', '*', '+', ',', ';', '='].contains c

def isPathChar (c : Char) : Bool :=
  isUnreserved c || isDelimiter c || c = ':' || c = '@' || c = '/'

def isQueryChar (c : Char) : Bool := isPathChar c || c = '?'

def isUserChar (c : Char) : Bool := isUnreserved c || isDelimiter c || c = ':'

def isSchemeChar (c : Char) : Bool := c.isAlphanum || ['+', '-', '.'].contains c

def isHex (c : Char) : Bool := (Token.hexValue? c).isSome

/-- Only characters of a class, and bytes written as a percent sign with two digits. -/
def admits (allowed : Char → Bool) : List Char → Bool
  | [] => true
  | '%' :: a :: b :: rest => isHex a && isHex b && admits allowed rest
  | c :: rest => allowed c && admits allowed rest

/-! Reading. -/

/-- A text before a mark, and what comes after the mark, if it is there. -/
def cut (mark : Char) (cs : List Char) : List Char × Option (List Char) :=
  let front := cs.takeWhile (· ≠ mark)
  match cs.drop front.length with
  | _ :: back => (front, some back)
  | [] => (front, none)

/-- The scheme before the first colon and the rest; a colon elsewhere does not end a scheme. -/
def schemeOf? (cs : List Char) : Option (List Char × List Char) :=
  match cs, cut ':' cs with
  | c :: _, (front, some back) =>
    if c.isAlpha && front.all isSchemeChar then some (front, back) else none
  | _, _ => none

/-- An address in brackets, or a name; then the digits behind a colon. -/
def isHost (cs : List Char) : Bool :=
  match cs with
  | '[' :: rest =>
    let (address, behind) := cut ']' rest
    address.all (fun c => isHex c || c = ':' || c = '.') && match behind with
      | some [] => true
      | some (':' :: digits) => digits.all Char.isDigit
      | _ => false
  | cs =>
    let (name, digits) := cut ':' cs
    admits (fun c => isUnreserved c || isDelimiter c) name
      && (digits.getD []).all Char.isDigit

def isAuthority (cs : List Char) : Bool :=
  match cut '@' cs with
  | (user, some host) => admits isUserChar user && isHost host
  | (host, none) => isHost host

/-- A path without a scheme and an authority has no colon before its first slash. -/
def isPlainPath (path : List Char) : Bool := !(path.takeWhile (· ≠ '/')).contains ':'

/-- Reads an identifier or a reference; none when a character has no place where it stands. -/
def ofText? (text : String) : Option Uri :=
  let (cs, fragment) := cut '#' text.toList
  let (cs, query) := cut '?' cs
  let (scheme, cs) := match schemeOf? cs with
    | some (scheme, rest) => (some scheme, rest)
    | none => (none, cs)
  let (authority, path) := match cs with
    | '/' :: '/' :: rest =>
      let authority := rest.takeWhile (· ≠ '/')
      (some authority, rest.drop authority.length)
    | path => (none, path)
  if authority.all isAuthority && admits isPathChar path && query.all (admits isQueryChar)
      && fragment.all (admits isQueryChar)
      && (scheme.isSome || authority.isSome || isPlainPath path)
  then some { scheme, authority, path, query, fragment } else none

def withoutFragment (u : Uri) : Uri := { u with fragment := none }

end Uri
end DocumentMigration
