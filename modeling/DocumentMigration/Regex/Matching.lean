import DocumentMigration.Regex.Basic

/-!
Where in a text an expression matches. From one state of a match all states after an expression
follow, in order of preference and without repeats, so that nothing is tried twice.
-/
namespace DocumentMigration

namespace Anchor

/-- Whether the character at a place is one of a word; outside of the text there is none. -/
def isWordAt (text : Array Char) (i : Nat) : Bool := text[i]?.any Text.isWordChar

def isWordBefore (text : Array Char) (i : Nat) : Bool := i ≠ 0 && isWordAt text (i - 1)

def holds (text : Array Char) (i : Nat) : Anchor → Bool
  | .textStart => i = 0
  | .textEnd => i = text.size
  | .lineStart => i = 0 || text[i - 1]? = some '\n'
  | .lineEnd => i = text.size || text[i]? = some '\n'
  | .wordBoundary => isWordBefore text i != isWordAt text i
  | .noWordBoundary => isWordBefore text i == isWordAt text i
  | .wordStart => !isWordBefore text i && isWordAt text i
  | .wordEnd => isWordBefore text i && !isWordAt text i
  | .wordStartHalf => !isWordBefore text i
  | .wordEndHalf => !isWordAt text i

end Anchor

namespace Regex

/-- The span of a group; the end may still be that of the round before. -/
structure Capture where
  start : Option Nat := none
  stop : Option Nat := none
deriving DecidableEq

structure State where
  position : Nat
  captures : List Capture
deriving DecidableEq

namespace State

def capture (s : State) (group : Nat) : Capture := s.captures.getD group {}

def enter (s : State) (group : Nat) : State :=
  { s with captures := s.captures.set group { s.capture group with start := some s.position } }

def leave (s : State) (group : Nat) : State :=
  { s with captures := s.captures.set group { s.capture group with stop := some s.position } }

end State

/-- Takes a step a number of times, or until it changes nothing. -/
def iterate (step : State → List State) : Nat → List State → List State
  | 0, states => states
  | n + 1, states =>
    let later := (states.flatMap step).eraseDups
    if later = states then states else iterate step n later

/-- What a search has seen, and the states that it found, latest first. -/
structure Trail where
  seen : List (State × Nat) := []
  found : List State := []

def Trail.find (t : Trail) (s : State) : Trail :=
  if t.found.contains s then t else { t with found := s :: t.found }

/-- Goes on from a state for up to a number of rounds. Where the rounds have a limit, each has to
change the state, and otherwise to move on in the text. -/
def explore (step : State → List State) (isLazy limited : Bool) : Nat → State → Trail → Trail
  | rounds, s, t =>
    let key := (s, if limited then rounds else 0)
    if t.seen.contains key then t else
      let t := { t with seen := key :: t.seen }
      match rounds with
      | 0 => t.find s
      | rounds + 1 =>
        let later := (step s).filter fun s' =>
          if limited then s' ≠ s else s'.position ≠ s.position
        let onward (t : Trail) :=
          later.foldl (fun t s' => explore step isLazy limited rounds s' t) t
        if isLazy then onward (t.find s) else (onward t).find s

def rounds (step : State → List State) (size least : Nat) (most : Option Nat) (isLazy : Bool)
    (s : State) : List State :=
  let begun := iterate step least [s]
  let trail := match most with
    | some most => begun.foldl (fun t s => explore step isLazy true (most - least) s t) {}
    | none => begun.foldl (fun t s => explore step isLazy false (size + 1) s t) {}
  trail.found.reverse

/-- The text of a group stands here once more. -/
def repeatsText (text : Array Char) (c : Capture) (i : Nat) : Option Nat :=
  match c with
  | ⟨some start, some stop⟩ =>
    if start ≤ stop ∧ text.extract start stop = text.extract i (i + (stop - start))
    then some (i + (stop - start)) else none
  | _ => none

/-- The states after an expression, the preferred one first. -/
def outcomes (text : Array Char) : Regex → State → List State
  | .empty, s => [s]
  | .one anyCase set, s =>
    match text[s.position]? with
    | some c => if set.contains anyCase c then [{ s with position := s.position + 1 }] else []
    | none => []
  | .seq a b, s => ((outcomes text a s).flatMap (outcomes text b)).eraseDups
  | .either a b, s => (outcomes text a s ++ outcomes text b s).eraseDups
  | .times r least most isLazy, s => rounds (outcomes text r) text.size least most isLazy s
  | .anchor a, s => if a.holds text s.position then [s] else []
  | .capture group r, s => (outcomes text r (s.enter group)).map (·.leave group)
  | .again group, s =>
    match repeatsText text (s.capture group) s.position with
    | some position => [{ s with position }]
    | none => []
  | .ahead true r, s => if (outcomes text r s).isEmpty then [s] else []
  | .ahead false r, s =>
    ((outcomes text r s).map fun t => { t with position := s.position }).eraseDups
  | .behind negated width r, s =>
    let inner := if s.position < width then [] else
      outcomes text r { s with position := s.position - width }
    if negated then (if inner.isEmpty then [s] else [])
    else (inner.map fun t => { t with position := s.position }).eraseDups
  | .atomic r, s => (outcomes text r s).take 1
  | .entered group, s => if (s.capture group).start.isSome then [s] else []
  | .choice condition yes no, s =>
    match outcomes text condition s with
    | t :: _ => outcomes text yes t
    | [] => outcomes text no s

def start (groups : List Nat) (position : Nat) : State :=
  let count := groups.foldl (fun n group => max n (group + 1)) 0
  { position, captures := (List.replicate count {}).set 0 { start := some position } }

def occursIn (r : Regex) (text : String) : Bool :=
  let chars := text.toList.toArray
  let groups := r.references
  let r := r.keepGroups groups
  (List.range (chars.size + 1)).any fun position =>
    !(outcomes chars r (start groups position)).isEmpty

end Regex
end DocumentMigration
