import DocumentMigration.Proofs.Config.Overlay
import DocumentMigration.Proofs.Store.Action

/-!
What is read as settings from a layer, key by key. Reading succeeds when every key that is set has a
value of its kind, and fails at a key that has not.
-/
namespace DocumentMigration.Config

open Json

variable {α β : Type} {layer : Object} {layers : List Object} {name : String}

/-- One of the settings: where it stands, how it is read, and what it is if no layer sets it. -/
structure Field (α : Type) where
  name : String
  key : String
  known : name ∈ sectionNames
  unset : α
  read : Setting → Reading α
  /-- No table is told from another. -/
  read_blunt : ∀ keys v, read ⟨keys, blunt v⟩ = read ⟨keys, v⟩

namespace Field

def text (name key unset : String) (known : name ∈ sectionNames) : Field String where
  name := name
  key := key
  known := known
  unset := unset
  read := Setting.text
  read_blunt _ v := by cases v <;> rfl

def flag (name key : String) (unset : Bool) (known : name ∈ sectionNames) : Field Bool where
  name := name
  key := key
  known := known
  unset := unset
  read := Setting.flag
  read_blunt _ v := by cases v <;> rfl

def count (name key : String) (unset : Nat) (known : name ∈ sectionNames) : Field Nat where
  name := name
  key := key
  known := known
  unset := unset
  read := Setting.count
  read_blunt _ v := by cases v <;> rfl

def path : Field String := text "store" "path" ({} : StoreSettings).path (by decide)

def url : Field String := text "store" "url" ({} : StoreSettings).url (by decide)

def authToken : Field String := text "store" "auth_token" ({} : StoreSettings).authToken (by decide)

def maxBatchSize : Field Nat :=
  count "migrate" "max_batch_size" ({} : MigrateSettings).maxBatchSize (by decide)

def summarize : Field Bool :=
  flag "migrate" "summarize" ({} : MigrateSettings).summarize (by decide)

def assumeYes : Field Bool :=
  flag "migrate" "assume_yes" ({} : MigrateSettings).assumeYes (by decide)

def defaultFormat : Field String :=
  text "general" "default_format" ({} : GeneralSettings).defaultFormat (by decide)

/-- The setting as its topmost layer has it. -/
def readIn (f : Field α) (layers : List Object) : Reading α :=
  match topmost? f.name f.key layers with
  | some v => f.read ⟨[f.name, f.key], v⟩
  | none => .ok f.unset

theorem readIn_congr (f : Field α) {others : List Object}
    (same : (topmost? f.name f.key layers).map blunt = (topmost? f.name f.key others).map blunt) :
    f.readIn layers = f.readIn others := by
  have read (layers : List Object) :
      f.readIn layers = match (topmost? f.name f.key layers).map blunt with
        | some v => f.read ⟨[f.name, f.key], v⟩
        | none => .ok f.unset := by
    rw [readIn]
    cases topmost? f.name f.key layers with
    | none => rfl
    | some v => exact (f.read_blunt _ v).symm
  rw [read, read, same]

end Field

/-! Sections. -/

/-- The fields of a section are the keys that it sets, of those that are declared. -/
theorem fields_of_orderly (orderly : Orderly layer) (known : name ∈ sectionNames)
    (declared : List String) :
    ∃ found, fields name declared (Object.get? name layer) = .ok found ∧
      (found.map (·.1)).Nodup ∧ ∀ k s, (k, s) ∈ found ↔
        k ∈ declared ∧ ∃ v, setting? name k layer = some v ∧ s = ⟨[name, k], v⟩ := by
  rcases orderly.get?_cases known with absent | ⟨ms, present, sorted⟩
  · refine ⟨[], by rw [absent, fields], .nil, fun k s => ?_⟩
    simp [setting?, absent]
  · refine ⟨_, by rw [present, fields], ?_, fun k s => ?_⟩
    · rw [List.map_map]
      exact sorted.nodup.sublist (List.filter_sublist.map _)
    · have member (k : String) (v : Value) : (k, v) ∈ ms ↔ setting? name k layer = some v := by
        rw [setting?, present]
        exact ⟨Object.get?_of_mem sorted.nodup, Object.mem_of_get?⟩
      simp only [List.mem_map, List.mem_filter, Prod.exists, Prod.mk.injEq, member]
      constructor
      · rintro ⟨_, v, ⟨set, asked⟩, rfl, rfl⟩
        exact ⟨by simpa using asked, v, set, rfl⟩
      · rintro ⟨asked, v, set, rfl⟩
        exact ⟨k, v, ⟨set, by simpa using asked⟩, rfl, rfl⟩

namespace Field

variable {f : Field β} {assign : α → String → Setting → Reading α} {place : α → β}

/-- An assignment puts what it reads of a field into its place, and nothing else there. -/
structure Fills (f : Field β) (assign : α → String → Setting → Reading α) (place : α → β) :
    Prop where
  own : ∀ a s, (assign a f.key s).map place = f.read s
  other : ∀ a k s a', k ≠ f.key → assign a k s = .ok a' → place a' = place a

/-- Of the assignments, the one of the field decides what its place holds. -/
theorem Fills.of_foldlM (fills : f.Fills assign place) {found : List (String × Setting)}
    {a a' : α} (distinct : (found.map (·.1)).Nodup)
    (done : found.foldlM (fun a (k, s) => assign a k s) a = .ok a') :
    (∀ s, (f.key, s) ∈ found → f.read s = .ok (place a')) ∧
      ((∀ s, (f.key, s) ∉ found) → place a' = place a) := by
  induction found generalizing a with
  | nil =>
    cases done
    exact ⟨nofun, fun _ => rfl⟩
  | cons entry found ih =>
    obtain ⟨k, s⟩ := entry
    obtain ⟨new, distinct⟩ := List.nodup_cons.mp distinct
    rw [List.foldlM_cons] at done
    obtain ⟨b, first, done⟩ := Except.bind_eq_ok_iff.mp done
    have first : assign a k s = .ok b := first
    obtain ⟨read, kept⟩ := ih distinct done
    by_cases same : k = f.key
    · subst same
      have absent : ∀ s, (f.key, s) ∉ found := fun s member =>
        new (List.mem_map.mpr ⟨_, member, rfl⟩)
      constructor
      · intro s' member
        rcases List.mem_cons.mp member with equal | member
        · cases equal
          rw [kept absent, ← fills.own a s, first]
          rfl
        · exact absurd member (absent s')
      · intro unfound
        exact absurd List.mem_cons_self (unfound s)
    · constructor
      · intro s' member
        rcases List.mem_cons.mp member with equal | member
        · cases equal
          exact absurd rfl same
        · exact read s' member
      · intro unfound
        rw [kept fun s' member => unfound s' (List.mem_cons_of_mem _ member),
          fills.other a k s b same first]

theorem Fills.readIn_of_readSection (fills : f.Fills assign place) (orderly : Orderly layer)
    {declared : List String} (asked : f.key ∈ declared) {a a' : α} (unset : place a = f.unset)
    (done : readSection f.name declared assign a layer = .ok a') :
    f.readIn [layer] = .ok (place a') := by
  obtain ⟨found, listed, distinct, member⟩ := fields_of_orderly orderly f.known declared
  rw [readSection, listed] at done
  obtain ⟨read, kept⟩ := fills.of_foldlM distinct done
  rw [readIn, topmost?_singleton]
  cases set : setting? f.name f.key layer with
  | some v => exact read _ ((member _ _).mpr ⟨asked, v, set, rfl⟩)
  | none =>
    have absent (s : Setting) : (f.key, s) ∉ found := fun listed => by
      obtain ⟨-, v, present, -⟩ := (member _ _).mp listed
      rw [set] at present
      cases present
    rw [kept absent, unset]

theorem Fills.readIn_of_wrong (fills : f.Fills assign place) {v : Value} {a : α}
    {keys : List String} (set : setting? f.name f.key layer = some v)
    (wrong : assign a f.key ⟨[f.name, f.key], v⟩ = .error keys) :
    f.readIn [layer] = .error keys := by
  rw [readIn, topmost?_singleton, set]
  show f.read _ = _
  rw [← fills.own a, wrong]
  rfl

end Field

/-- A section that is not read has a key that is not. -/
theorem exists_of_readSection_eq_error (orderly : Orderly layer) (known : name ∈ sectionNames)
    {declared : List String} {assign : α → String → Setting → Reading α} {a : α}
    {keys : List String} (failed : readSection name declared assign a layer = .error keys) :
    ∃ k ∈ declared, ∃ v, setting? name k layer = some v ∧
      ∃ a, assign a k ⟨[name, k], v⟩ = .error keys := by
  obtain ⟨found, listed, -, member⟩ := fields_of_orderly orderly known declared
  rw [readSection, listed] at failed
  obtain ⟨⟨k, s⟩, inFound, a, wrong⟩ := Except.exists_of_foldlM_eq_error failed
  obtain ⟨asked, v, set, rfl⟩ := (member k s).mp inFound
  exact ⟨k, asked, v, set, a, wrong⟩

/-! The three sections. -/

theorem assignGeneral_keeps {g g' : GeneralSettings} {k : String} {s : Setting}
    (done : assignGeneral g k s = .ok g') :
    k ≠ "default_format" → g'.defaultFormat = g.defaultFormat := by
  unfold assignGeneral at done
  split at done
  · exact absurd rfl
  · cases done
    exact fun _ => rfl

theorem assignMigrate_keeps {m m' : MigrateSettings} {k : String} {s : Setting}
    (done : assignMigrate m k s = .ok m') :
    (k ≠ "max_batch_size" → m'.maxBatchSize = m.maxBatchSize) ∧
      (k ≠ "summarize" → m'.summarize = m.summarize) ∧
      (k ≠ "assume_yes" → m'.assumeYes = m.assumeYes) := by
  unfold assignMigrate at done
  split at done
  · obtain ⟨n, -, rfl⟩ := Except.map_eq_ok_iff.mp done
    exact ⟨absurd rfl, fun _ => rfl, fun _ => rfl⟩
  · obtain ⟨b, -, rfl⟩ := Except.map_eq_ok_iff.mp done
    exact ⟨fun _ => rfl, absurd rfl, fun _ => rfl⟩
  · obtain ⟨b, -, rfl⟩ := Except.map_eq_ok_iff.mp done
    exact ⟨fun _ => rfl, fun _ => rfl, absurd rfl⟩
  · cases done
    exact ⟨fun _ => rfl, fun _ => rfl, fun _ => rfl⟩

theorem assignStore_keeps {st st' : StoreSettings} {k : String} {s : Setting}
    (done : assignStore st k s = .ok st') :
    (k ≠ "path" → st'.path = st.path) ∧ (k ≠ "url" → st'.url = st.url) ∧
      (k ≠ "auth_token" → st'.authToken = st.authToken) := by
  unfold assignStore at done
  split at done
  · obtain ⟨t, -, rfl⟩ := Except.map_eq_ok_iff.mp done
    exact ⟨absurd rfl, fun _ => rfl, fun _ => rfl⟩
  · obtain ⟨t, -, rfl⟩ := Except.map_eq_ok_iff.mp done
    exact ⟨fun _ => rfl, absurd rfl, fun _ => rfl⟩
  · obtain ⟨t, -, rfl⟩ := Except.map_eq_ok_iff.mp done
    exact ⟨fun _ => rfl, fun _ => rfl, absurd rfl⟩
  · cases done
    exact ⟨fun _ => rfl, fun _ => rfl, fun _ => rfl⟩

theorem map_map_eq_self {put : β → α} {place : α → β} (same : ∀ b, place (put b) = b)
    (r : Reading β) : (r.map put).map place = r := by
  cases r with
  | error keys => rfl
  | ok b => exact congrArg Except.ok (same b)

namespace Field

theorem fills_defaultFormat : defaultFormat.Fills assignGeneral (·.defaultFormat) where
  own _ s := map_map_eq_self (fun _ => rfl) s.text
  other _ _ _ _ apart done := assignGeneral_keeps done apart

theorem fills_maxBatchSize : maxBatchSize.Fills assignMigrate (·.maxBatchSize) where
  own _ s := map_map_eq_self (fun _ => rfl) s.count
  other _ _ _ _ apart done := (assignMigrate_keeps done).1 apart

theorem fills_summarize : summarize.Fills assignMigrate (·.summarize) where
  own _ s := map_map_eq_self (fun _ => rfl) s.flag
  other _ _ _ _ apart done := (assignMigrate_keeps done).2.1 apart

theorem fills_assumeYes : assumeYes.Fills assignMigrate (·.assumeYes) where
  own _ s := map_map_eq_self (fun _ => rfl) s.flag
  other _ _ _ _ apart done := (assignMigrate_keeps done).2.2 apart

theorem fills_path : path.Fills assignStore (·.path) where
  own _ s := map_map_eq_self (fun _ => rfl) s.text
  other _ _ _ _ apart done := (assignStore_keeps done).1 apart

theorem fills_url : url.Fills assignStore (·.url) where
  own _ s := map_map_eq_self (fun _ => rfl) s.text
  other _ _ _ _ apart done := (assignStore_keeps done).2.1 apart

theorem fills_authToken : authToken.Fills assignStore (·.authToken) where
  own _ s := map_map_eq_self (fun _ => rfl) s.text
  other _ _ _ _ apart done := (assignStore_keeps done).2.2 apart

end Field

/-- The settings are, key by key, those of the topmost layers. -/
@[mk_iff]
structure ReadFrom (layers : List Object) (c : Config) : Prop where
  path : Field.path.readIn layers = .ok c.store.path
  url : Field.url.readIn layers = .ok c.store.url
  authToken : Field.authToken.readIn layers = .ok c.store.authToken
  maxBatchSize : Field.maxBatchSize.readIn layers = .ok c.migrate.maxBatchSize
  summarize : Field.summarize.readIn layers = .ok c.migrate.summarize
  assumeYes : Field.assumeYes.readIn layers = .ok c.migrate.assumeYes
  defaultFormat : Field.defaultFormat.readIn layers = .ok c.general.defaultFormat

/-- The topmost layer that sets some key has no value of its kind for it. -/
@[mk_iff]
inductive Misread (layers : List Object) (keys : List String) : Prop where
  | path : Field.path.readIn layers = .error keys → Misread layers keys
  | url : Field.url.readIn layers = .error keys → Misread layers keys
  | authToken : Field.authToken.readIn layers = .error keys → Misread layers keys
  | maxBatchSize : Field.maxBatchSize.readIn layers = .error keys → Misread layers keys
  | summarize : Field.summarize.readIn layers = .error keys → Misread layers keys
  | assumeYes : Field.assumeYes.readIn layers = .error keys → Misread layers keys
  | defaultFormat : Field.defaultFormat.readIn layers = .error keys → Misread layers keys

section OfLayer

variable {c : Config} {keys : List String}

theorem readFrom_of_ofLayer (orderly : Orderly layer) (read : ofLayer layer = .ok c) :
    c.ReadFrom [layer] := by
  obtain ⟨general, first, read⟩ := Except.bind_eq_ok_iff.mp read
  obtain ⟨migrate, second, read⟩ := Except.bind_eq_ok_iff.mp read
  obtain ⟨store, third, read⟩ := Except.bind_eq_ok_iff.mp read
  cases read
  exact {
    path := Field.fills_path.readIn_of_readSection orderly (by decide) rfl third
    url := Field.fills_url.readIn_of_readSection orderly (by decide) rfl third
    authToken := Field.fills_authToken.readIn_of_readSection orderly (by decide) rfl third
    maxBatchSize := Field.fills_maxBatchSize.readIn_of_readSection orderly (by decide) rfl second
    summarize := Field.fills_summarize.readIn_of_readSection orderly (by decide) rfl second
    assumeYes := Field.fills_assumeYes.readIn_of_readSection orderly (by decide) rfl second
    defaultFormat := Field.fills_defaultFormat.readIn_of_readSection orderly (by decide) rfl first }

theorem misread_of_ofLayer (orderly : Orderly layer) (failed : ofLayer layer = .error keys) :
    Misread [layer] keys := by
  rcases Except.bind_eq_error_iff.mp failed with general | ⟨_, -, failed⟩
  · obtain ⟨k, asked, v, set, g, wrong⟩ :=
      exists_of_readSection_eq_error orderly (by decide) general
    cases List.mem_singleton.mp asked
    exact .defaultFormat (Field.fills_defaultFormat.readIn_of_wrong set wrong)
  rcases Except.bind_eq_error_iff.mp failed with migrate | ⟨_, -, failed⟩
  · obtain ⟨k, asked, v, set, m, wrong⟩ :=
      exists_of_readSection_eq_error orderly (by decide) migrate
    simp only [List.mem_cons, List.not_mem_nil, or_false] at asked
    rcases asked with rfl | rfl | rfl
    · exact .maxBatchSize (Field.fills_maxBatchSize.readIn_of_wrong set wrong)
    · exact .summarize (Field.fills_summarize.readIn_of_wrong set wrong)
    · exact .assumeYes (Field.fills_assumeYes.readIn_of_wrong set wrong)
  rcases Except.bind_eq_error_iff.mp failed with store | ⟨_, -, done⟩
  · obtain ⟨k, asked, v, set, st, wrong⟩ :=
      exists_of_readSection_eq_error orderly (by decide) store
    simp only [List.mem_cons, List.not_mem_nil, or_false] at asked
    rcases asked with rfl | rfl | rfl
    · exact .path (Field.fills_path.readIn_of_wrong set wrong)
    · exact .url (Field.fills_url.readIn_of_wrong set wrong)
    · exact .authToken (Field.fills_authToken.readIn_of_wrong set wrong)
  · cases done

theorem ReadFrom.unique {d : Config} (first : c.ReadFrom layers) (second : d.ReadFrom layers) :
    c = d := by
  have eq {α : Type} {r : Reading α} {a b : α} (left : r = .ok a) (right : r = .ok b) : a = b :=
    Except.ok.inj (left.symm.trans right)
  obtain ⟨⟨_, _, _⟩, ⟨_, _, _⟩, ⟨_⟩⟩ := c
  obtain ⟨⟨_, _, _⟩, ⟨_, _, _⟩, ⟨_⟩⟩ := d
  cases eq first.path second.path
  cases eq first.url second.url
  cases eq first.authToken second.authToken
  cases eq first.maxBatchSize second.maxBatchSize
  cases eq first.summarize second.summarize
  cases eq first.assumeYes second.assumeYes
  cases eq first.defaultFormat second.defaultFormat
  rfl

theorem ReadFrom.not_misread (read : c.ReadFrom layers) : ¬ Misread layers keys := by
  rintro (wrong | wrong | wrong | wrong | wrong | wrong | wrong)
  · cases read.path.symm.trans wrong
  · cases read.url.symm.trans wrong
  · cases read.authToken.symm.trans wrong
  · cases read.maxBatchSize.symm.trans wrong
  · cases read.summarize.symm.trans wrong
  · cases read.assumeYes.symm.trans wrong
  · cases read.defaultFormat.symm.trans wrong

theorem ofLayer_eq_ok_iff (orderly : Orderly layer) :
    ofLayer layer = .ok c ↔ c.ReadFrom [layer] := by
  refine ⟨readFrom_of_ofLayer orderly, fun read => ?_⟩
  cases ended : ofLayer layer with
  | ok d => rw [read.unique (readFrom_of_ofLayer orderly ended)]
  | error keys => exact absurd (misread_of_ofLayer orderly ended) read.not_misread

end OfLayer

/-! Several layers. -/

section Merged

variable {base : Object} {others : List Object} {c : Config} {keys : List String}

theorem Field.readIn_merged (f : Field α) (orderly : ∀ layer ∈ layers, Orderly layer) :
    f.readIn [merged layers] = f.readIn layers := by
  apply f.readIn_congr
  rw [topmost?_singleton, merged, orderly_nil.setting?_foldl_overlayMembers orderly f.known,
    topmost?_cons]
  exact congrArg _ (Option.or_none)

/-- A layer that was made of several counts as these. -/
theorem Field.readIn_append_foldl (f : Field α) (below : List Object) (under : Orderly base)
    (atop : ∀ layer ∈ layers, Orderly layer) :
    f.readIn (below ++ [layers.foldl overlayMembers base]) =
      f.readIn (below ++ base :: layers) := by
  apply f.readIn_congr
  rw [topmost?_append, topmost?_append, Option.map_or, Option.map_or, topmost?_singleton,
    under.setting?_foldl_overlayMembers atop f.known]

theorem readFrom_congr (same : ∀ {α : Type} (f : Field α), f.readIn layers = f.readIn others) :
    c.ReadFrom layers ↔ c.ReadFrom others := by
  simp only [readFrom_iff, same]

theorem misread_congr (same : ∀ {α : Type} (f : Field α), f.readIn layers = f.readIn others) :
    Misread layers keys ↔ Misread others keys := by
  simp only [misread_iff, same]

theorem ofLayer_merged_eq_ok_iff (orderly : ∀ layer ∈ layers, Orderly layer) :
    ofLayer (merged layers) = .ok c ↔ c.ReadFrom layers :=
  (ofLayer_eq_ok_iff (orderly_nil.foldl_overlayMembers orderly)).trans
    (readFrom_congr fun f => f.readIn_merged orderly)

theorem misread_of_ofLayer_merged (orderly : ∀ layer ∈ layers, Orderly layer)
    (failed : ofLayer (merged layers) = .error keys) : Misread layers keys :=
  (misread_congr fun f => f.readIn_merged orderly).mp
    (misread_of_ofLayer (orderly_nil.foldl_overlayMembers orderly) failed)

end Merged

end DocumentMigration.Config
