import DocumentMigration.Command.Invocation
import DocumentMigration.Config.Load
import DocumentMigration.Proofs.Config.Reading
import DocumentMigration.Proofs.Config.Variable
import DocumentMigration.Proofs.Json.Reordered

/-!
Loading the settings. Each of them is what the topmost layer makes it that sets its very key, and
only that layer can make loading fail. From the bottom up the layers are the defaults, the file of
the user, the file of the working directory, the environment, and then each variable that the file
of variables adds to it. A variable is added only if none of its name is set; but two names may
stand for one key, and then it is the added variable that counts.
-/
namespace DocumentMigration.Config

open Json

/-- The two settings that are checked once all are read are in their ranges. -/
structure InRange (c : Config) : Prop where
  positive : 0 < c.migrate.maxBatchSize
  limited : c.migrate.maxBatchSize ≤ 500
  known : (OutputFormat.ofName? c.general.defaultFormat).isSome

theorem check_eq_ok_iff {c : Config} : c.check = .ok () ↔ c.InRange := by
  unfold check
  dsimp only
  split
  · next outside =>
    refine ⟨nofun, fun range => ?_⟩
    have positive := range.positive
    have limited := range.limited
    rcases outside with zero | large
    · omega
    · rw [batchSizeLimit] at large
      omega
  · next inside =>
    obtain ⟨nonzero, small⟩ := not_or.mp inside
    split
    · next unknown =>
      refine ⟨nofun, fun range => ?_⟩
      have known := range.known
      simp_all
    · next known =>
      refine ⟨fun _ => ⟨Nat.pos_of_ne_zero nonzero, Nat.not_lt.mp small, ?_⟩, fun _ => rfl⟩
      simpa [Option.isSome_iff_ne_none] using known

/-- Whatever the command line says, there is an output format then. -/
theorem InRange.exists_format {c : Config} (range : c.InRange) (switches : CommonSwitches) :
    ∃ format, switches.effectiveFormat c.general.defaultFormat = .ok format := by
  obtain ⟨format, named⟩ := Option.isSome_iff_exists.mp range.known
  have same : Text.lowerAscii c.general.defaultFormat = c.general.defaultFormat := by
    have name : format.name = c.general.defaultFormat := by
      simpa using List.find?_some named
    rw [← name]
    cases format <;> decide
  unfold CommonSwitches.effectiveFormat
  rw [same, named]
  cases switches.format with
  | none => exact ⟨format, rfl⟩
  | some chosen => exact ⟨chosen, rfl⟩

variable {files : FileTree} {env env' : Environment}

/-- The assignments of the nearest file of variables, if there is one. -/
inductive FileAssigns (files : FileTree) (env : Environment) : List (String × String) → Prop where
  | missing : findUpwards files [".env"] = none → FileAssigns files env []
  | file {content : String} {assigned : List (String × String)} :
      findUpwards files [".env"] = some (.text content) →
      VariableFile.Assigns env (VariableFile.body content) assigned → FileAssigns files env assigned

theorem FileAssigns.extended {assigned : List (String × String)}
    (assigns : FileAssigns files env assigned) :
    extended files env = .ok (env ++ env.added assigned) := by
  unfold Config.extended
  cases assigns with
  | missing none => rw [none, Environment.added, List.append_nil]
  | file found assigns =>
    rw [found]
    dsimp only
    rw [VariableFile.read?_eq, VariableFile.assignAll?_of_assigns assigns]

theorem exists_fileAssigns (done : extended files env = .ok env') :
    ∃ assigned, FileAssigns files env assigned := by
  unfold extended at done
  split at done
  · next missing => exact ⟨[], .missing missing⟩
  · next found =>
    split at done
    · next read =>
      rw [VariableFile.read?_eq] at read
      obtain ⟨assigned, assigns⟩ := VariableFile.exists_assigns read
      exact ⟨assigned, .file found assigns⟩
    · cases done
  · cases done

theorem canonical_layerOf {entry : Option FileEntry} {layer : Object}
    (read : layerOf entry = .ok layer) : (Value.object layer).Canonical := by
  have empty : (Value.object []).Canonical := ⟨.nil, trivial⟩
  unfold layerOf at read
  split at read
  · cases read
    exact empty
  · cases read
    exact empty
  · split at read
    · next parsed =>
      cases read
      exact Toml.canonical_parse? _ _ parsed
    · cases read
  · cases read

/-- It is enough to compare the text of a layer. -/
theorem layerOf_text {content : String} {layer : Object}
    (canonical : (Value.object layer).Canonical)
    (same : (Toml.parse? content).map Value.compact = some (Value.object layer).compact) :
    layerOf (some (.text content)) = .ok layer := by
  obtain ⟨v, parsed, texts⟩ := Option.map_eq_some_iff.mp same
  cases Value.compact_injective (Toml.canonical_parse? _ _ parsed) canonical texts
  simp only [layerOf, parsed]

/-- What the settings are read from. -/
structure Sources (files : FileTree) (env : Environment) where
  /-- The assignments of the file of variables. -/
  assigned : List (String × String)
  user : Object
  here : Object
  assigns : FileAssigns files env assigned
  user_eq : layerOf ((userLocation? (env ++ env.added assigned)).bind files.at?) = .ok user
  here_eq : layerOf (localEntry files) = .ok here

namespace Sources

/-- The environment in which the settings hold. -/
def environment (s : Sources files env) : Environment := env ++ env.added s.assigned

/-- All layers over the defaults, from the bottom up. -/
def layers (s : Sources files env) : List Object :=
  s.user :: s.here :: ofEnvironment env :: variableLayers (env.added s.assigned)

theorem extended (s : Sources files env) : extended files env = .ok s.environment :=
  s.assigns.extended

theorem layers_eq (s : Sources files env) :
    Config.layers files s.environment =
      .ok [s.user, s.here, ofEnvironment s.environment] := by
  rw [Config.layers, environment, s.user_eq, s.here_eq]
  rfl

theorem canonical_layers (s : Sources files env) :
    ∀ layer ∈ s.layers, (Value.object layer).Canonical := by
  have file {entry : Option FileEntry} {layer : Object} (read : layerOf entry = .ok layer) :
      (Value.object layer).Canonical := canonical_layerOf read
  intro layer member
  simp only [layers, List.mem_cons] at member
  rcases member with rfl | rfl | rfl | added
  · exact file s.user_eq
  · exact file s.here_eq
  · exact canonical_ofEnvironment env
  · exact canonical_variableLayers layer added

/-- The environment is one layer, of those that its variables are. -/
theorem readIn_layers (s : Sources files env) (orderly : ∀ layer ∈ s.layers, Orderly layer)
    (f : Field α) :
    f.readIn [s.user, s.here, ofEnvironment s.environment] = f.readIn s.layers := by
  rw [environment, ofEnvironment_append]
  simp only [layers, List.forall_mem_cons] at orderly
  obtain ⟨-, -, under, atop⟩ := orderly
  exact f.readIn_append_foldl [s.user, s.here] under atop

theorem orderly_merged (s : Sources files env) (orderly : ∀ layer ∈ s.layers, Orderly layer) :
    ∀ layer ∈ [s.user, s.here, ofEnvironment s.environment], Orderly layer := by
  simp only [layers, List.forall_mem_cons] at orderly
  obtain ⟨user, here, under, atop⟩ := orderly
  rw [environment, ofEnvironment_append]
  simp only [List.forall_mem_cons]
  exact ⟨user, here, under.foldl_overlayMembers atop, nofun⟩

theorem loadExtended_eq (s : Sources files env) :
    loadExtended files env = (do
      let c ← (ofLayer (merged [s.user, s.here, ofEnvironment s.environment])).mapError .wrongValue
      c.check
      return (c, s.environment)) := by
  rw [loadExtended, s.extended]
  show (do return (← load files s.environment, s.environment)) = _
  rw [load, s.layers_eq]
  show (do return (← (do
    let c ← (ofLayer (merged [s.user, s.here, ofEnvironment s.environment])).mapError _
    c.check
    return c), s.environment)) = _
  cases ofLayer (merged [s.user, s.here, ofEnvironment s.environment]) with
  | error keys => rfl
  | ok c =>
    show (do return (← (do c.check; return c), s.environment)) =
      (do c.check; return (c, s.environment))
    cases c.check <;> rfl

section Overrides

variable {c : Config} {keys : List String}

theorem ofLayer_eq_ok_iff (s : Sources files env) (orderly : ∀ layer ∈ s.layers, Orderly layer) :
    ofLayer (merged [s.user, s.here, ofEnvironment s.environment]) = .ok c ↔ c.ReadFrom s.layers :=
  (ofLayer_merged_eq_ok_iff (s.orderly_merged orderly)).trans
    (readFrom_congr fun f => s.readIn_layers orderly f)

theorem misread_of_ofLayer (s : Sources files env) (orderly : ∀ layer ∈ s.layers, Orderly layer)
    (failed : ofLayer (merged [s.user, s.here, ofEnvironment s.environment]) = .error keys) :
    Misread s.layers keys :=
  (misread_congr fun f => s.readIn_layers orderly f).mp
    (misread_of_ofLayer_merged (s.orderly_merged orderly) failed)

theorem loadExtended_eq_ok_iff (s : Sources files env)
    (orderly : ∀ layer ∈ s.layers, Orderly layer) :
    loadExtended files env = .ok (c, env') ↔
      env' = s.environment ∧ c.ReadFrom s.layers ∧ c.InRange := by
  rw [s.loadExtended_eq, ← s.ofLayer_eq_ok_iff orderly, ← check_eq_ok_iff]
  cases ofLayer (merged [s.user, s.here, ofEnvironment s.environment]) with
  | error keys => exact ⟨nofun, nofun⟩
  | ok d =>
    constructor
    · intro done
      obtain ⟨_, ⟨⟩, done⟩ := Except.bind_eq_ok_iff.mp done
      obtain ⟨_, checked, ⟨⟩⟩ := Except.bind_eq_ok_iff.mp done
      exact ⟨rfl, rfl, checked⟩
    · rintro ⟨rfl, ⟨⟩, checked⟩
      show (do c.check; return (c, s.environment)) = _
      rw [checked]
      rfl

theorem loadExtended_eq_error (s : Sources files env)
    (orderly : ∀ layer ∈ s.layers, Orderly layer) {e : ConfigError}
    (failed : loadExtended files env = .error e) :
    (∃ keys, e = .wrongValue keys ∧ Misread s.layers keys) ∨
      ∃ c : Config, c.ReadFrom s.layers ∧ ¬ c.InRange ∧ c.check = .error e := by
  rw [s.loadExtended_eq] at failed
  cases read : ofLayer (merged [s.user, s.here, ofEnvironment s.environment]) with
  | error keys =>
    rw [read] at failed
    cases failed
    exact .inl ⟨keys, rfl, s.misread_of_ofLayer orderly read⟩
  | ok c =>
    rw [read] at failed
    refine .inr ⟨c, (s.ofLayer_eq_ok_iff orderly).mp read, ?_⟩
    rcases Except.bind_eq_error_iff.mp failed with ⟨⟨⟩⟩ | ⟨_, ⟨⟩, failed⟩
    rcases Except.bind_eq_error_iff.mp failed with checked | ⟨_, _, ⟨⟩⟩
    refine ⟨fun range => ?_, checked⟩
    cases checked.symm.trans (check_eq_ok_iff.mpr range)

end Overrides

end Sources

theorem nonempty_sources {r : Config × Environment} (loaded : loadExtended files env = .ok r) :
    Nonempty (Sources files env) := by
  obtain ⟨env', done, loaded⟩ := Except.bind_eq_ok_iff.mp loaded
  obtain ⟨c, loaded, -⟩ := Except.bind_eq_ok_iff.mp loaded
  obtain ⟨ls, layered, -⟩ := Except.bind_eq_ok_iff.mp loaded
  obtain ⟨assigned, assigns⟩ := exists_fileAssigns done
  cases done.symm.trans assigns.extended
  obtain ⟨user, first, layered⟩ := Except.bind_eq_ok_iff.mp layered
  obtain ⟨here, second, -⟩ := Except.bind_eq_ok_iff.mp layered
  exact ⟨⟨assigned, user, here, assigns, first, second⟩⟩

/-- Where every section of every layer is a table, each setting is that of the topmost layer that
sets its key; loading succeeds just if all these are right, and else one of them is to blame. -/
theorem loadExtended_overrides (files : FileTree) (env : Environment) :
    (∀ r, loadExtended files env = .ok r → Nonempty (Sources files env)) ∧
    ∀ s : Sources files env, (∀ layer ∈ s.layers, Sectioned layer) →
      (∀ c env', loadExtended files env = .ok (c, env') ↔
        env' = s.environment ∧ c.ReadFrom s.layers ∧ c.InRange) ∧
      (∀ c env', loadExtended files env = .ok (c, env') → ∀ switches : CommonSwitches,
        ∃ format, switches.effectiveFormat c.general.defaultFormat = .ok format) ∧
      ∀ e, loadExtended files env = .error e →
        (∃ keys, e = .wrongValue keys ∧ Misread s.layers keys) ∨
          ∃ c : Config, c.ReadFrom s.layers ∧ ¬ c.InRange ∧ c.check = .error e := by
  refine ⟨fun r => nonempty_sources, fun s tables => ?_⟩
  have orderly : ∀ layer ∈ s.layers, Orderly layer := fun layer member =>
    (tables layer member).orderly (s.canonical_layers layer member)
  refine ⟨fun c env' => s.loadExtended_eq_ok_iff orderly, fun c env' loaded => ?_,
    fun e => s.loadExtended_eq_error orderly⟩
  obtain ⟨-, -, range⟩ := (s.loadExtended_eq_ok_iff orderly).mp loaded
  exact range.exists_format

end DocumentMigration.Config

namespace DocumentMigration.Sample

open Json Config

/-- A file of settings with a batch size out of range and a path that is no text. -/
def workshop : FileTree where
  entries := [([".docmig"], .directory),
    ([".docmig", "config.toml"], .text
      "[migrate]\nmax_batch_size = 9000\nsummarize = true\n[store]\npath = 7\nurl = \"far\"\n"),
    ([".env"], .text "DOCMIG_MIGRATE__MAX_BATCH_SIZE=20\nDOCMIG_STORE__PATH=b.db\n")]

def bench : Environment := [("DOCMIG_STORE__PATH", "a.db")]

def workshopSources : Sources workshop bench where
  assigned := [("DOCMIG_MIGRATE__MAX_BATCH_SIZE", "20"), ("DOCMIG_STORE__PATH", "b.db")]
  user := []
  here := [
    ("migrate", .object [("max_batch_size", .number (.integer 9000 (by decide))),
      ("summarize", .bool true)]),
    ("store", .object [("path", .number (.integer 7 (by decide))), ("url", .string "far")])]
  assigns := by
    refine .file rfl (.assign (by decide) (by rw [VariableFile.nextLine?]; rfl) ?first
      (.assign (by decide) (by rw [VariableFile.nextLine?]; rfl) ?second (.done _)))
    all_goals rfl
  user_eq := rfl
  here_eq := by
    refine layerOf_text ⟨?sections, ⟨?migrate, trivial, trivial, trivial⟩,
      ⟨?store, trivial, trivial, trivial⟩, trivial⟩ (by decide +kernel)
    all_goals
      unfold Object.Sorted Object.keys
      decide

theorem loadExtended_overrides_in_workshop :
    loadExtended workshop bench = .ok
      ({ store := { path := "a.db", url := "far" },
         migrate := { maxBatchSize := 20, summarize := true } },
        bench ++ [("DOCMIG_MIGRATE__MAX_BATCH_SIZE", "20")]) := by
  obtain ⟨-, overrides⟩ := loadExtended_overrides workshop bench
  obtain ⟨loads, -⟩ := overrides workshopSources (by decide +kernel)
  refine (loads _ _).mpr ⟨by decide +kernel, ?_, ?_⟩
  · constructor <;> decide +kernel
  · constructor <;> decide +kernel

/-- A working directory with nothing but a file of variables. -/
def project : FileTree where
  entries := [([".env"], .text "DOCMIG_STORE__PATH=b.db\n")]

def shell : Environment := [("DOCMIG_STORE", "{path=a.db}")]

def projectSources : Sources project shell where
  assigned := [("DOCMIG_STORE__PATH", "b.db")]
  user := []
  here := []
  assigns := by
    refine .file rfl (.assign (by decide) (by rw [VariableFile.nextLine?]; rfl) ?_ (.done _))
    rfl
  user_eq := rfl
  here_eq := rfl

/-- The environment sets the path, and yet the path is that of the file of variables. -/
theorem path_of_shell_overridden :
    (∀ layer ∈ projectSources.layers, Sectioned layer) ∧
      Field.path.readIn [ofEnvironment shell] = .ok "a.db" ∧
      loadExtended project shell = .ok
        ({ store := { path := "b.db" } }, shell ++ [("DOCMIG_STORE__PATH", "b.db")]) := by
  refine ⟨by decide +kernel, by decide +kernel, ?_⟩
  rw [projectSources.loadExtended_eq]
  decide +kernel

end DocumentMigration.Sample
