import DocumentMigration.Config.VariableFile
import DocumentMigration.Proofs.Config.Overlay
import DocumentMigration.Proofs.Toml.Canonical

/-!
Variables as layers. Each variable is a layer of its own, over those of the variables before it. A
file of variables only adds to the environment, each name once, behind what is set already.
-/
namespace DocumentMigration

open Json

namespace Config

/-! What a variable sets. -/

namespace Variable

theorem canonical_map_nat (read : Option Nat) : Yields Value.Canonical (read.map Value.nat) := by
  intro v answered
  obtain ⟨n, -, rfl⟩ := Option.map_eq_some_iff.mp answered
  unfold Value.nat
  cases Number.ofInt? n <;> trivial

theorem canonical_fraction? (text : List Char) : Yields Value.Canonical (fraction? text) := by
  unfold fraction?
  dsimp only
  -- Whatever digits were read, a number comes of them or nothing does.
  repeat' first | refine .after fun _ => ?_ | split
  all_goals first | exact .nothing | exact .just trivial

theorem canonical_negative? (text : List Char) : Yields Value.Canonical (negative? text) := by
  unfold negative?
  split
  · dsimp only
    split
    · exact .nothing
    · exact .of_forall (f := Value.number) fun _ => trivial
  · exact .nothing

theorem canonical_scalar (text : List Char) : (scalar text).Canonical := by
  unfold scalar
  have numbers := (canonical_fraction? text).or
    ((canonical_map_nat (Path.index? (String.ofList text))).or (canonical_negative? text))
  dsimp only
  generalize (fraction? text).or _ = found at numbers
  cases found with
  | none => trivial
  | some v => exact numbers v rfl

theorem canonical_quoted? (bound : Nat) (text : List Char) : Yields (·.1.Canonical)
    ((quoted? bound text).map fun (t, rest) => (Value.string (String.ofList t), rest)) :=
  .of_forall fun _ => trivial

/-- With some fuel, whatever is read has its members in order. -/
structure Orderly (fuel : Nat) : Prop where
  value : ∀ cs, Yields (·.1.Canonical) (value? fuel cs)
  items : ∀ cs, Yields (fun r => ∀ x ∈ r.1, x.Canonical) (items? fuel cs)
  pairs : ∀ cs, Yields (fun r => ∀ m ∈ r.1, m.2.Canonical) (pairs? fuel cs)

namespace Orderly

variable {fuel : Nat} (inner : Orderly fuel) (cs : List Char)
include inner

theorem object : Yields (·.1.Canonical)
    ((pairs? fuel cs).map fun (ms, rest) => (Value.object (Object.ofList ms), rest)) :=
  (inner.pairs cs).map fun _ members => .ofList (Value.canonicalMembers_iff.mpr members)

theorem array : Yields (·.1.Canonical)
    ((items? fuel cs).map fun (xs, rest) => (Value.array xs, rest)) :=
  (inner.items cs).map fun _ => Value.canonicalItems_iff.mpr

theorem value_succ : Yields (·.1.Canonical) (value? (fuel + 1) cs) := by
  unfold value?
  dsimp only
  split
  · exact .just trivial
  · exact .just trivial
  · exact (inner.object _).bind fun _ canonical => .just canonical
  · exact (inner.array _).bind fun _ canonical => .just canonical
  · exact (canonical_quoted? _ _).bind fun _ canonical => .just canonical
  · exact .just trivial
  · exact .nothing
  · exact .just (canonical_scalar _)

theorem items_succ : Yields (fun r => ∀ x ∈ r.1, x.Canonical) (items? (fuel + 1) cs) := by
  unfold items?
  split
  · exact .nothing
  · exact .just nofun
  · next same _ =>
    cases same
    refine (inner.value _).bind fun (x, rest) first => ?_
    dsimp only
    split
    · exact (inner.items _).map fun _ more => List.forall_mem_cons.mpr ⟨first, more⟩
    · exact .just (List.forall_mem_singleton.mpr first)
    · exact .nothing

theorem pairs_succ : Yields (fun r => ∀ m ∈ r.1, m.2.Canonical) (pairs? (fuel + 1) cs) := by
  unfold pairs?
  split
  · exact .nothing
  · exact .just nofun
  · next same _ =>
    cases same
    refine .after fun (k, rest) => ?_
    dsimp only
    split
    · refine (inner.value _).bind fun (v, rest) first => ?_
      dsimp only
      split
      · exact (inner.pairs _).map fun _ more => List.forall_mem_cons.mpr ⟨first, more⟩
      · exact .just (List.forall_mem_singleton.mpr first)
      · exact .nothing
    · exact .nothing

end Orderly

/-- Values, items and pairs call each other with less fuel, so they are treated together. -/
theorem orderly : ∀ fuel, Orderly fuel
  | 0 => ⟨fun _ => .nothing, fun _ => .nothing, fun _ => .nothing⟩
  | fuel + 1 =>
    have inner := orderly fuel
    ⟨inner.value_succ, inner.items_succ, inner.pairs_succ⟩

theorem canonical_read (text : String) : (read text).Canonical := by
  unfold read
  dsimp only
  split
  · next found => exact (orderly _).value _ _ found
  · trivial

theorem canonical_nested {v : Value} (canonical : v.Canonical) (keys : List String) :
    (nested v keys).Canonical := by
  induction keys with
  | nil => exact canonical
  | cons k rest ih => exact ⟨List.pairwise_singleton _ _, ih, trivial⟩

end Variable

/-- What a variable sets, if its name is one of a setting. -/
def variableLayer? (v : String × String) : Option Object :=
  match Variable.keys? v.1 with
  | some (k :: rest) => some [(k, Variable.nested (Variable.read v.2) rest)]
  | _ => none

def variableLayers (env : Environment) : List Object := env.filterMap variableLayer?

theorem canonical_variableLayers {env : Environment} :
    ∀ layer ∈ variableLayers env, (Value.object layer).Canonical := by
  intro layer member
  obtain ⟨v, -, set⟩ := List.mem_filterMap.mp member
  unfold variableLayer? at set
  split at set
  · cases set
    exact ⟨List.pairwise_singleton _ _,
      Variable.canonical_nested (Variable.canonical_read _) _, trivial⟩
  · cases set

theorem ofEnvironment_eq_foldl (env : Environment) :
    ofEnvironment env = (variableLayers env).foldl overlayMembers [] := by
  rw [variableLayers, List.foldl_filterMap, ofEnvironment]
  refine List.foldl_ext _ _ _ fun layer v _ => ?_
  obtain ⟨name, text⟩ := v
  unfold variableLayer?
  dsimp only
  generalize Variable.keys? name = keys
  rcases keys with _ | _ | ⟨k, rest⟩ <;> rfl

theorem ofEnvironment_append (env added : Environment) :
    ofEnvironment (env ++ added) =
      (variableLayers added).foldl overlayMembers (ofEnvironment env) := by
  rw [ofEnvironment_eq_foldl, ofEnvironment_eq_foldl, variableLayers, List.filterMap_append,
    List.foldl_append]
  rfl

theorem canonical_ofEnvironment (env : Environment) :
    (Value.object (ofEnvironment env)).Canonical := by
  rw [ofEnvironment_eq_foldl]
  exact canonical_foldl_overlayMembers ⟨.nil, trivial⟩ canonical_variableLayers

end Config

/-! Files of variables. -/

/-- Of some assignments those that set a variable for the first time. -/
def Environment.added (env : Environment) : List (String × String) → Environment
  | [] => []
  | (name, value) :: rest =>
    if (env.find? name).isSome then env.added rest
    else (name, value) :: added (env ++ [(name, value)]) rest

namespace VariableFile

/-- The assignments that a text makes, in order. A value may depend on the variables that are set
when its line is read. -/
inductive Assigns : Environment → List Char → List (String × String) → Prop where
  | done (env : Environment) : Assigns env [] []
  | idle {env : Environment} {cs line rest : List Char} {assigned : List (String × String)} :
      cs ≠ [] → nextLine? .plain [] cs = some (line, rest) → assignment? env line = some none →
      Assigns env rest assigned → Assigns env cs assigned
  | assign {env : Environment} {cs line rest : List Char} {name value : String}
      {assigned : List (String × String)} :
      cs ≠ [] → nextLine? .plain [] cs = some (line, rest) →
      assignment? env line = some (some (name, value)) →
      Assigns (env.setNew name value) rest assigned → Assigns env cs ((name, value) :: assigned)

variable {env env' : Environment} {cs : List Char} {assigned : List (String × String)}

theorem setNew_append_added (env : Environment) (name value : String)
    (assigned : List (String × String)) :
    env.setNew name value ++ (env.setNew name value).added assigned =
      env ++ env.added ((name, value) :: assigned) := by
  rw [Environment.added, Environment.setNew]
  split
  · rfl
  · rw [List.append_assoc]
    rfl

/-- A text adds its assignments to the environment, as far as they are new. -/
theorem assignAll?_of_assigns (assigns : Assigns env cs assigned) :
    assignAll? env cs = some (env ++ env.added assigned) := by
  induction assigns with
  | done env => rw [assignAll?, if_pos rfl, Environment.added, List.append_nil]
  | idle nonempty next idle _ ih =>
    rw [assignAll?, if_neg nonempty]
    split
    · simp_all
    · simp_all
  | assign nonempty next made _ ih =>
    rw [assignAll?, if_neg nonempty, ← setNew_append_added, ← ih]
    split
    · simp_all
    · simp_all

theorem exists_assigns (read : assignAll? env cs = some env') :
    ∃ assigned, Assigns env cs assigned := by
  fun_induction assignAll? env cs with
  | case1 => exact ⟨[], .done _⟩
  | case2 => cases read
  | case3 => cases read
  | case4 env cs nonempty line rest next idle ih =>
    obtain ⟨assigned, assigns⟩ := ih read
    exact ⟨assigned, .idle nonempty next idle assigns⟩
  | case5 env cs nonempty line rest next name value made ih =>
    obtain ⟨assigned, assigns⟩ := ih read
    exact ⟨_, .assign nonempty next made assigns⟩

/-- A text without the byte order mark that it may begin with. -/
def body (text : String) : List Char :=
  match text.toList with
  | '\uFEFF' :: rest => rest
  | cs => cs

theorem read?_eq (env : Environment) (text : String) :
    read? env text = assignAll? env (body text) := by
  unfold read? body
  rcases text.toList with _ | ⟨c, cs⟩
  · rfl
  by_cases mark : c = '\uFEFF'
  · subst mark
    rfl
  · simp [mark]

end VariableFile

end DocumentMigration
