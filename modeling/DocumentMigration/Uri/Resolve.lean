import DocumentMigration.Uri.Basic

/-!
What a reference names from a base, and the normal form by which identifiers are compared.
-/
namespace DocumentMigration.Uri

open Json (Token)

/-- Drops the segments of a path that stand for its place or for the place above, latest kept
segment first. -/
def walk : List (List Char) → List (List Char) → List (List Char)
  | kept, [] => kept
  | kept, [['.']] => [] :: kept
  | kept, [['.', '.']] => [] :: kept.drop 1
  | kept, ['.'] :: rest => walk kept rest
  | kept, ['.', '.'] :: rest => walk (kept.drop 1) rest
  | kept, segment :: rest => walk (segment :: kept) rest

def withoutDots (path : List Char) : List Char :=
  match path with
  | '/' :: rest => (walk [] (rest.splitOn '/')).reverse.flatMap ('/' :: ·)
  | path => path

def mergePaths (base : Uri) (path : List Char) : List Char :=
  if base.authority.isSome && base.path.isEmpty then '/' :: path
  else (base.path.reverse.dropWhile (· ≠ '/')).reverse ++ path

/-- The identifier that a reference names; each part is the one of the base as long as the reference
lacks it and all parts before it. -/
def resolve (base reference : Uri) : Uri :=
  if reference.scheme.isSome then { reference with path := withoutDots reference.path }
  else if reference.authority.isSome then
    { reference with scheme := base.scheme, path := withoutDots reference.path }
  else
    let path := if reference.path.isEmpty then base.path
      else if reference.path.head? = some '/' then withoutDots reference.path
      else withoutDots (mergePaths base reference.path)
    let query := if reference.path.isEmpty then reference.query.or base.query else reference.query
    { scheme := base.scheme, authority := base.authority, path, query,
      fragment := reference.fragment }

def upperHex (c : Char) : Char := c.toUpper

/-- Bytes that need no percent sign lose it; the digits of the others are in upper case. -/
def normalChars : List Char → List Char
  | '%' :: a :: b :: rest =>
    match Token.hexValue? a, Token.hexValue? b with
    | some high, some low =>
      let c := Char.ofNat (16 * high + low)
      if isUnreserved c then c :: normalChars rest
      else '%' :: upperHex a :: upperHex b :: normalChars rest
    | _, _ => '%' :: a :: b :: normalChars rest
  | c :: rest => c :: normalChars rest
  | [] => []

/-- Identifiers that name the same have the same normal form. Schemes and hosts do not depend on
case. -/
def normal (u : Uri) : Uri where
  scheme := u.scheme.map (·.map Char.toLower)
  authority := u.authority.map fun cs => (normalChars cs).map Char.toLower
  path := normalChars u.path
  query := u.query.map normalChars
  fragment := u.fragment.map normalChars

def resolveText? (base : Uri) (text : String) : Option Uri :=
  (ofText? text).map fun reference => normal (resolve base reference)

end DocumentMigration.Uri
