import DocumentMigration.Files.Tree
import DocumentMigration.Proofs.Store.Action

/-!
What is left in a tree of files by those who write in it: directories stay directories, a location
that led somewhere still leads there, and what was written is found again.
-/
namespace DocumentMigration

open DocumentMigration.Action

namespace FileTree

variable {t t' t'' : FileTree} {place : List String} {entry : FileEntry} {location : String}

section Entries

theorem lookup_entry (other p : List String) (old : FileEntry)
    (entries : List (List String × FileEntry)) :
    ((p, old) :: entries).lookup other = if other = p then some old else entries.lookup other := by
  rw [List.lookup_cons]
  by_cases same : other = p
  · simp [same]
  · rw [beq_false_of_ne same, if_neg same]

theorem lookup_map_at {entries : List (List String × FileEntry)} (other : List String) :
    (entries.map fun e => if e.1 = place then (place, entry) else e).lookup other =
      if other = place ∧ (entries.lookup other).isSome then some entry
      else entries.lookup other := by
  induction entries with
  | nil => simp
  | cons e entries ih =>
    obtain ⟨p, old⟩ := e
    rw [List.map_cons, lookup_entry]
    by_cases here : p = place
    · rw [if_pos here, lookup_entry, ih, here]
      by_cases same : other = place <;> simp [same]
    · rw [if_neg here, lookup_entry, ih]
      by_cases found : other = p
      · simp [found, here]
      · simp only [if_neg found]

theorem isSome_lookup_iff {entries : List (List String × FileEntry)} {other : List String} :
    (entries.lookup other).isSome ↔ entries.any (·.1 = other) := by
  induction entries with
  | nil => simp
  | cons e entries ih =>
    rw [lookup_entry, List.any_cons, Bool.or_eq_true, ← ih, decide_eq_true_iff]
    by_cases same : other = e.1
    · simp [same]
    · simp [same, Ne.symm same]

/-- A place holds what was put there last. -/
theorem entry?_put (inside : place ≠ []) (other : List String) :
    entry? (t.put place entry) other = if other = place then some entry else t.entry? other := by
  unfold entry? put
  by_cases root : other = []
  · simp [root, Ne.symm inside]
  · simp only [List.isEmpty_iff, if_neg root]
    split
    · next taken =>
      rw [lookup_map_at]
      by_cases same : other = place
      · rw [if_pos ⟨same, isSome_lookup_iff.mpr (same ▸ taken)⟩, if_pos same]
      · rw [if_neg fun both => same both.1, if_neg same]
    · next free =>
      rw [List.lookup_append, lookup_entry]
      by_cases same : other = place
      · have absent : t.entries.lookup other = none := by
          rw [← Option.not_isSome_iff_eq_none, isSome_lookup_iff, same]
          exact free
        rw [absent, Option.none_or, if_pos same, if_pos same]
      · rw [if_neg same, if_neg same, List.lookup_nil, Option.or_none]

end Entries

/-- Nothing is gone, and directories are still directories. -/
structure Extends (t t' : FileTree) : Prop where
  here : t'.here = t.here
  present : ∀ place, (t.entry? place).isSome → (t'.entry? place).isSome
  folder : ∀ place, t.isFolder place → t'.isFolder place

namespace Extends

theorem refl (t : FileTree) : t.Extends t := ⟨rfl, fun _ => id, fun _ => id⟩

theorem trans (first : t.Extends t') (later : t'.Extends t'') : t.Extends t'' where
  here := later.here.trans first.here
  present place := later.present place ∘ first.present place
  folder place := later.folder place ∘ first.folder place

/-- A directory may be put anywhere, anything else where no directory is. -/
theorem put (inside : place ≠ []) (fits : entry = .directory ∨ t.isFolder place = false) :
    t.Extends (t.put place entry) where
  here := by
    unfold FileTree.put
    split <;> rfl
  present other found := by
    rw [entry?_put inside]
    split
    · rfl
    · exact found
  folder other folder := by
    by_cases same : other = place
    · rcases fits with rfl | free
      · rw [isFolder, entry?_put inside, if_pos same]
      · rw [same, free] at folder
        cases folder
    · rw [isFolder, entry?_put inside, if_neg same]
      exact folder

theorem follow? {parts place target : List String} (h : t.Extends t')
    (led : t.follow? place parts = some target) : t'.follow? place parts = some target := by
  induction parts generalizing place with
  | nil => exact led
  | cons part parts ih =>
    rw [FileTree.follow?] at led ⊢
    by_cases folder : t.isFolder place
    · rw [folder, Bool.not_true, if_neg Bool.false_ne_true] at led
      rw [h.folder place folder, Bool.not_true, if_neg Bool.false_ne_true]
      split at led
      · next stays =>
        rw [if_pos stays]
        exact ih led
      · next moves =>
        rw [if_neg moves]
        split at led
        · next up =>
          rw [if_pos up]
          exact ih led
        · next down =>
          rw [if_neg down]
          split at led
          · next found =>
            rw [if_pos (h.present _ found)]
            exact ih led
          · cases led
    · simp [folder] at led

theorem start (h : t.Extends t') (location : String) : t'.start location = t.start location := by
  rw [FileTree.start, FileTree.start, h.here]

/-- A location that led somewhere still leads there. -/
theorem place? (h : t.Extends t') (led : t.place? location = some place) :
    t'.place? location = some place := by
  unfold FileTree.place? at led ⊢
  split at led
  · cases led
  · next stated =>
    rw [if_neg stated, h.start]
    exact h.follow? led

/-- A directory is found at its location as before. -/
theorem isDirectory (h : t.Extends t') (directory : t.isDirectory location) :
    t'.isDirectory location := by
  unfold FileTree.isDirectory at? at directory ⊢
  rcases led : t.place? location with _ | place
  · rw [led] at directory
    cases directory
  · rw [led] at directory
    rw [h.place? led]
    exact h.folder place directory

end Extends

section Writing

theorem run_write (location : String) (entry : FileEntry) (t : FileTree) :
    (write location entry).run t = match t.target? location with
      | some place => (.ok (), t.put place entry)
      | none => (.error .refused, t) := by
  rw [write, run_bind, run_get]
  dsimp only
  cases t.target? location <;> rfl

theorem extends_makeDirectories (steps place : List String) (t : FileTree) :
    t.Extends ((makeDirectories place steps).run t).2 := by
  induction steps generalizing place t with
  | nil => exact .refl t
  | cons step rest ih =>
    rw [makeDirectories, run_bind, run_get]
    dsimp only
    split
    · exact ih place.dropLast t
    · split
      · exact ih (place ++ [step]) t
      · exact .refl t
      · next free =>
        cases holdsName step
        · exact .refl t
        · have grown : t.Extends (t.put (place ++ [step]) .directory) :=
            .put (by simp) (.inl rfl)
          exact grown.trans (ih _ _)

theorem extends_makeParents (location : String) (t : FileTree) :
    t.Extends ((makeParents location).run t).2 := by
  unfold makeParents
  dsimp only
  split
  · exact .refl t
  · exact extends_makeDirectories _ _ t

theorem follow?_append (t : FileTree) (place parts later : List String) :
    t.follow? place (parts ++ later) = (t.follow? place parts).bind (t.follow? · later) := by
  induction parts generalizing place with
  | nil => rfl
  | cons part parts ih =>
    rw [List.cons_append, follow?, follow?]
    split
    · rfl
    · simp only [ih]
      split_ifs <;> rfl

/-- The last part of a location that can be written is a name in a directory. -/
theorem target?_eq_some {place : List String} (aimed : t.target? location = some place) :
    ∃ folder name, place = folder ++ [name] ∧
      Location.parts location = (Location.parts location).dropLast ++ [name] ∧
      (name ≠ "" ∧ name ≠ "." ∧ name ≠ "..") ∧
      t.follow? (t.start location) (Location.parts location).dropLast = some folder ∧
      t.isFolder folder ∧ t.isFolder place = false := by
  unfold target? at aimed
  dsimp only at aimed
  split at aimed
  any_goals cases aimed
  next name empty dot up last =>
    split at aimed
    · cases aimed
    · next folder led =>
      split at aimed
      · next free =>
        cases aimed
        simp only [Bool.and_eq_true, Bool.not_eq_true'] at free
        exact ⟨folder, name, rfl, (List.dropLast_append_getLast? name last).symm,
          ⟨empty, dot, up⟩, led, free.1.1, free.1.2⟩
      · cases aimed

theorem extends_put_target {place : List String} (aimed : t.target? location = some place)
    (entry : FileEntry) : t.Extends (t.put place entry) := by
  obtain ⟨folder, name, rfl, -, -, -, -, free⟩ := target?_eq_some aimed
  exact .put (by simp) (.inr free)

/-- A location that was written leads to its place. -/
theorem place?_put {place : List String} (aimed : t.target? location = some place)
    (entry : FileEntry) : (t.put place entry).place? location = some place := by
  have grown := extends_put_target aimed entry
  obtain ⟨folder, name, rfl, split, ⟨named, dot, up⟩, led, inside, -⟩ := target?_eq_some aimed
  have here : entry? (t.put (folder ++ [name]) entry) (folder ++ [name]) = some entry := by
    rw [entry?_put (by simp), if_pos rfl]
  have stated : location.isEmpty = false := by
    rw [Bool.eq_false_iff]
    intro empty
    rw [String.isEmpty_iff] at empty
    have whole : Location.parts "" = [""] := by decide
    rw [empty, whole] at split
    exact named (List.singleton_inj.mp split).symm
  rw [place?, stated, if_neg Bool.false_ne_true, split, follow?_append, grown.start,
    grown.follow? led]
  simp [follow?, grown.folder _ inside, named, dot, up, here]

theorem ne_nil_of_target? {place : List String} (aimed : t.target? location = some place) :
    place ≠ [] := by
  obtain ⟨folder, name, rfl, -⟩ := target?_eq_some aimed
  simp

/-- What was written is found at its location. -/
theorem at?_put {place : List String} (aimed : t.target? location = some place)
    (entry : FileEntry) : (t.put place entry).at? location = some entry := by
  rw [at?, place?_put aimed, Option.bind_some, entry?_put (ne_nil_of_target? aimed), if_pos rfl]

/-- Directories are only made where nothing is. -/
theorem entry?_makeDirectories (steps place : List String) {t : FileTree} {other : List String}
    (present : (t.entry? other).isSome) :
    entry? ((makeDirectories place steps).run t).2 other = t.entry? other := by
  induction steps generalizing place t with
  | nil => rfl
  | cons step rest ih =>
    rw [makeDirectories, run_bind, run_get]
    dsimp only
    split
    · exact ih place.dropLast present
    · split
      · exact ih (place ++ [step]) present
      · rfl
      · next free =>
        cases holdsName step
        · rfl
        · have apart : other ≠ place ++ [step] := by
            rintro rfl
            rw [free] at present
            cases present
          have kept : entry? (t.put (place ++ [step]) .directory) other = t.entry? other := by
            rw [entry?_put (by simp), if_neg apart]
          exact (ih _ (kept ▸ present)).trans kept

theorem entry?_makeParents (location : String) {other : List String}
    (present : (t.entry? other).isSome) :
    entry? ((makeParents location).run t).2 other = t.entry? other := by
  unfold makeParents
  dsimp only
  split
  · rfl
  · exact entry?_makeDirectories _ _ present

end Writing

end FileTree

end DocumentMigration
