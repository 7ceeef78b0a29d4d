import DocumentMigration.Json.Token

/-!
Reading JSON. A machine takes one token at a time and keeps a stack of the containers that are
still open, so the nesting limit is a bound on the height of the stack. Of members with one key the
last stays.
-/
namespace DocumentMigration.Json

/-- An open container with what it holds so far; an object also holds the key that was read last. -/
inductive Frame where
  | array (items : List Value)
  | object (members : Object) (key : String)

/-- What may come next. -/
inductive Expectation where
  | value
  | valueOrClose
  | keyOrClose (members : Object)
  | key (members : Object)
  | colon
  | separator
  | nothing (result : Value)

structure Reader where
  frames : List Frame
  expectation : Expectation

namespace Reader

def start : Reader := ⟨[], .value⟩

/-- Hands a finished value to the innermost container. Items are kept in reverse. -/
def finish (value : Value) : List Frame → Reader
  | [] => ⟨[], .nothing value⟩
  | .array items :: frames => ⟨.array (value :: items) :: frames, .separator⟩
  | .object members key :: frames => ⟨.object (members.insert key value) key :: frames, .separator⟩

/-- Takes a token where a value is due. -/
def beginValue (limit : Nat) (frames : List Frame) : Token → Option Reader
  | .openArray => if frames.length < limit then some ⟨.array [] :: frames, .valueOrClose⟩ else none
  | .openObject => if frames.length < limit then some ⟨frames, .keyOrClose []⟩ else none
  | .null => some (finish .null frames)
  | .bool b => some (finish (.bool b) frames)
  | .number n => some (finish (.number n) frames)
  | .string s => some (finish (.string s) frames)
  | _ => none

def step (limit : Nat) (r : Reader) (t : Token) : Option Reader :=
  match r.expectation, r.frames, t with
  | .value, frames, t => beginValue limit frames t
  | .valueOrClose, .array items :: frames, .closeArray =>
    some (finish (.array items.reverse) frames)
  | .valueOrClose, frames, t => beginValue limit frames t
  | .keyOrClose members, frames, .closeObject => some (finish (.object members) frames)
  | .keyOrClose members, frames, .string key => some ⟨.object members key :: frames, .colon⟩
  | .key members, frames, .string key => some ⟨.object members key :: frames, .colon⟩
  | .colon, frames, .colon => some ⟨frames, .value⟩
  | .separator, .array items :: frames, .comma => some ⟨.array items :: frames, .value⟩
  | .separator, .array items :: frames, .closeArray => some (finish (.array items.reverse) frames)
  | .separator, .object members _ :: frames, .comma => some ⟨frames, .key members⟩
  | .separator, .object members _ :: frames, .closeObject => some (finish (.object members) frames)
  | _, _, _ => none

def run (limit : Nat) (tokens : List Token) (r : Reader) : Option Reader :=
  tokens.foldlM (step limit) r

end Reader

/-- Reads a whole text as one value with at most `limit` nested containers. -/
def Value.ofText? [FloatReader] (limit : Nat) (text : String) : Option Value := do
  match (← (Reader.start.run limit (← Token.ofText? text))).expectation with
  | .nothing value => some value
  | _ => none

/-- The deepest nesting that documents, scripts and schema files may have. -/
def nestingLimit : Nat := 127

def Value.parse? [FloatReader] (text : String) : Option Value := Value.ofText? nestingLimit text

end DocumentMigration.Json
