import DocumentMigration.Schema.Check
import DocumentMigration.Schema.Resource

/-!
The check that a schema means. Only keywords that can come to bear are looked at: their patterns
have to be regular expressions, and their references have to lead to readable schemas. A schema
behind a reference becomes part of the check where it is met first; a later reference to it is
followed when a value is checked. A schema that names its own edition is linked in that one.
-/
namespace DocumentMigration

open Json

/-- Building a check, with the references met so far; it fails where the schema is not valid. -/
abbrev Linking := StateT (List Uri) Option

/-- How references are treated: what becomes part of the check, and what is followed later. -/
structure Linker where
  resources : Resources
  enter : Target → Linking Check
  follow : Target → Check

namespace Linker

/-- A reference that its target repeats has no meaning once it has been met. -/
def reference (k : Linker) (s : Scope) (text : String) : Linking Check.Meaning := do
  let uri ← s.base.resolveText? text
  let target ← k.resources.lookup? s text
  if (← get).contains uri then
    if Scope.textOf? "$ref" target.contents = some text then return .inert
    else return .reference (k.follow target)
  else
    modify (uri :: ·)
    return .reference (← k.enter target)

end Linker

def Draft.isAside (keyword : String) : Bool :=
  ["$defs", "contentSchema", "definitions"].contains keyword

/-- Whether a keyword comes to bear among its siblings. -/
def Draft.reaches (d : Draft) (siblings : List String) (keyword : String) : Bool :=
  if d.referenceStandsAlone && siblings.contains "$ref" then keyword = "$ref"
  else if keyword = "if" then
    d.knows "if" && (siblings.contains "then" || siblings.contains "else"
      || ["unevaluatedItems", "unevaluatedProperties"].any fun rest =>
        d.knows rest && siblings.contains rest)
  else if keyword = "then" ∨ keyword = "else" then d.knows "if" && siblings.contains "if"
  else if keyword = "$recursiveRef" then d = .draft2019
  else d.knows keyword && !Draft.isAside keyword

namespace Schema

/-- The rule that the text under a keyword names, for the keywords that judge values by one. -/
def textRule? [Standards] (d : Draft) (texts : String → Option String) (keyword text : String) :
    Option Assertion :=
  if d.judgesText keyword then
    some (.textRule keyword text (Standards.fits d keyword texts))
  else none

def patterns? (schemas : List (String × Schema)) : Option (List Pattern) :=
  schemas.mapM fun schema => Pattern.ofText? schema.1

section Link

variable (k : Linker)

mutual
/-- The surroundings inside a schema come from its keywords. -/
def link [Standards] (s : Scope) : Schema → Linking Check
  | .always => return .pass
  | .never => return .fail
  | .object keywords => do
    let s ← s.inside? (textOf? keywords)
    let siblings ← linkKeywords s (s.draft.reaches (keywords.map (·.1)))
      (textRule? s.draft (textOf? keywords)) keywords
    return .object s.draft siblings

def linkKeywords [Standards] (s : Scope) (reaches : String → Bool)
    (rule? : String → String → Option Assertion) : List (String × Keyword) → Linking Check.Siblings
  | [] => return []
  | (name, content) :: rest => do
    if reaches name then
      let meaning ← linkContent s (rule? name) content
      return (name, meaning) :: (← linkKeywords s reaches rule? rest)
    else linkKeywords s reaches rule? rest

def linkContent [Standards] (s : Scope) (rule? : String → Option Assertion) :
    Keyword → Linking Check.Meaning
  | .one source schema => return .one source (← link s schema)
  | .many schemas => return .many (← linkMany s schemas)
  | .patterned schemas => do
    let patterns ← patterns? schemas
    return .patterned (patterns.zip ((← linkMany s schemas).map (·.2)))
  | .assertion a => return .assertion (a.inDraft s.draft)
  | .pattern source => do
    let pattern ← Pattern.ofText? source
    return .assertion (.pattern pattern)
  | .limit n => return .limit n
  | .reference text => k.reference s text
  | .text text => return (rule? text).elim .inert .assertion
  | .inert => return .inert

def linkMany [Standards] (s : Scope) : List (String × Schema) → Linking (List (String × Check))
  | [] => return []
  | (name, schema) :: rest => do
    let check ← link s schema
    return (name, check) :: (← linkMany s rest)
end

end Link

end Schema

/-- The check that a target means. The fuel bounds how many schemas are entered inside one
another. -/
def Target.link [Standards] (resources : Resources) (follow : Target → Check) :
    Nat → Target → Linking Check
  | 0, _ => failure
  | fuel + 1, t => do
    let schema ← Schema.ofValue? t.contents
    Schema.link ⟨resources, Target.link resources follow fuel, follow⟩ t.scope schema

end DocumentMigration
