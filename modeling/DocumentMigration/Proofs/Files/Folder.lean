import DocumentMigration.Proofs.Files.Tree

/-!
Files that lie in a directory, by the location of the directory and their own names. Locations of
different names lead to different places, and a file is written to its place without any directory
being made.
-/
namespace DocumentMigration

open DocumentMigration.Action

namespace Location

variable {folder name : String}

/-- A location that is no more than a name, which may be empty or of dots. -/
def IsPlain (name : String) : Prop := '/' ∉ name.toList

theorem isAbsolute_of_isPlain (plain : IsPlain name) : isAbsolute name = false := by
  rw [isAbsolute, decide_eq_false_iff_not]
  exact fun slash => plain (List.mem_of_head? slash)

theorem parts_of_isPlain (plain : IsPlain name) : parts name = [name] := by
  rw [parts, List.splitOn_eq_singleton plain, List.map_singleton, String.ofList_toList]

theorem parts_of_toList {front : List Char} {location : String}
    (split : location.toList = front ++ '/' :: name.toList) :
    parts location = parts (String.ofList front) ++ parts name := by
  rw [parts, split, List.splitOn_append_cons_self, List.map_append, parts, parts,
    String.toList_ofList]

theorem isAbsolute_of_toList {location : String} {rest : List Char} (stated : folder ≠ "")
    (split : location.toList = folder.toList ++ rest) :
    isAbsolute location = isAbsolute folder := by
  have nonempty : folder.toList ≠ [] := by simpa using stated
  rw [isAbsolute, isAbsolute, split, List.head?_append_of_ne_nil _ nonempty]

/-- A name stands last in the location that it has in a folder. -/
theorem parts_join (plain : IsPlain name) (stated : folder ≠ "") :
    ∃ front, parts (join folder name) = front ++ [name] ∧
      (parts folder = front ∨ parts folder = front ++ [""]) ∧
      isAbsolute (join folder name) = isAbsolute folder := by
  have empty : folder.isEmpty = false := by simpa using stated
  rw [join, isAbsolute_of_isPlain plain, empty, Bool.or_false, if_neg Bool.false_ne_true]
  split
  · next slash =>
    obtain ⟨front, whole⟩ := List.getLast?_eq_some_iff.mp slash
    have split : (folder ++ name).toList = front ++ '/' :: name.toList := by
      rw [String.toList_append, whole, List.append_assoc, List.singleton_append]
    have alone : parts folder = parts (String.ofList front) ++ parts "" := parts_of_toList whole
    refine ⟨parts (String.ofList front), ?_, .inr alone, ?_⟩
    · rw [parts_of_toList split, parts_of_isPlain plain]
    · exact isAbsolute_of_toList stated String.toList_append
  · have split : (folder ++ "/" ++ name).toList = folder.toList ++ '/' :: name.toList := by
      simp [String.toList_append]
    refine ⟨parts folder, ?_, .inl rfl, isAbsolute_of_toList stated split⟩
    rw [parts_of_toList split, parts_of_isPlain plain, String.ofList_toList]

end Location

namespace FileTree

variable {t t' : FileTree} {folder name : String} {place parts target : List String}

/-- The place of a directory, in which each name has a location and a place. -/
structure Holds (t : FileTree) (folder : String) (place : List String) : Prop where
  led : t.place? folder = some place
  directory : t.isFolder place

theorem exists_holds (directory : t.isDirectory folder) : ∃ place, t.Holds folder place := by
  unfold isDirectory at? at directory
  rcases led : t.place? folder with _ | place
  · rw [led] at directory
    cases directory
  · rw [led] at directory
    exact ⟨place, led, directory⟩

theorem isFolder_iff : t.isFolder place ↔ t.entry? place = some .directory := by
  unfold isFolder
  split <;> simp_all

/-- What leads to a directory starts at one. -/
theorem isFolder_of_follow? (led : t.follow? place parts = some target)
    (directory : t.isFolder target) : t.isFolder place := by
  cases parts with
  | nil =>
    cases led
    exact directory
  | cons part parts =>
    by_contra missing
    rw [follow?, Bool.eq_false_iff.mpr missing] at led
    cases led

/-- Making the directories that lead to one changes nothing. -/
theorem makeDirectories_of_follow? (led : t.follow? place parts = some target)
    (directory : t.isFolder target) :
    (makeDirectories place (parts.filter fun part => part ≠ "" && part ≠ ".")).run t =
      (.ok (), t) := by
  induction parts generalizing place with
  | nil => rfl
  | cons part parts ih =>
    have here := isFolder_of_follow? led directory
    rw [follow?, here, Bool.not_true, if_neg Bool.false_ne_true] at led
    split at led
    · next stays =>
      rw [List.filter_cons_of_neg (by simpa [imp_iff_not_or] using stays)]
      exact ih led
    · next moves =>
      rw [List.filter_cons_of_pos (by simpa using moves), makeDirectories, run_bind, run_get]
      dsimp only
      split at led
      · next up =>
        rw [if_pos up]
        exact ih led
      · next down =>
        split at led
        · rw [if_neg down, isFolder_iff.mp (isFolder_of_follow? led directory)]
          exact ih led
        · cases led

namespace Holds

variable (holds : t.Holds folder place)
include holds

theorem isDirectory : t.isDirectory folder := by
  rw [FileTree.isDirectory, at?, holds.led]
  exact holds.directory

theorem of_extends (grown : t.Extends t') : t'.Holds folder place :=
  ⟨grown.place? holds.led, grown.folder place holds.directory⟩

theorem exists_front (plain : Location.IsPlain name) :
    ∃ front, Location.parts (Location.join folder name) = front ++ [name] ∧
      t.follow? (t.start (Location.join folder name)) front = some place := by
  have led := holds.led
  unfold place? at led
  split at led
  · cases led
  next stated =>
    have stated : folder ≠ "" := by simpa using stated
    obtain ⟨front, split, whole, absolute⟩ := Location.parts_join plain stated
    refine ⟨front, split, ?_⟩
    rw [start, absolute]
    rcases whole with same | slash
    · rwa [same] at led
    · -- The empty part at the end asks for a directory and stays in it.
      rw [slash, follow?_append] at led
      obtain ⟨last, first, led⟩ := Option.bind_eq_some_iff.mp led
      have stays : t.isFolder last = true ∧ last = place := by
        simpa [follow?] using led
      rw [← stays.2]
      exact first

variable (plain : Location.IsPlain name)
include plain

/-- A file that may be written to the location of a name gets the place under the name. -/
theorem eq_of_target? (aimed : t.target? (Location.join folder name) = some target) :
    target = place ++ [name] := by
  obtain ⟨front, split, led⟩ := holds.exists_front plain
  obtain ⟨inside, last, rfl, whole, -, ledInside, -⟩ := target?_eq_some aimed
  rw [split, List.dropLast_concat] at ledInside whole
  rw [List.singleton_inj.mp (List.append_inj' whole rfl).2]
  rw [Option.some.inj (led.symm.trans ledInside)]

variable (named : name ≠ "" ∧ name ≠ "." ∧ name ≠ "..")
include named

/-- What stands at the location of a name is what stands under the name. -/
theorem at?_join : t.at? (Location.join folder name) = t.entry? (place ++ [name]) := by
  obtain ⟨front, split, led⟩ := holds.exists_front plain
  have stated : ¬ (Location.join folder name).isEmpty := by
    intro empty
    have whole : [] ++ [""] = front ++ [name] := by
      rw [← split, String.isEmpty_iff.mp empty]
      decide
    obtain ⟨-, last⟩ := List.append_inj' whole rfl
    exact named.1 (List.singleton_inj.mp last).symm
  have here : t.follow? place [name] =
      if (t.entry? (place ++ [name])).isSome then some (place ++ [name]) else none := by
    simp [follow?, holds.directory, named]
  rw [at?, place?, if_neg stated, split, follow?_append, led, Option.bind_some, here]
  cases found : t.entry? (place ++ [name]) with
  | none => rfl
  | some entry => exact found

/-- The directories that the file of a name needs are there. -/
theorem makeParents_join : ((makeParents (Location.join folder name)).run t).2 = t := by
  obtain ⟨front, split, led⟩ := holds.exists_front plain
  have steps : (Location.steps (Location.join folder name)).dropLast =
      front.filter fun part => part ≠ "" && part ≠ "." := by
    rw [Location.steps, split, List.filter_append, List.filter_cons_of_pos (by simp [named]),
      List.filter_nil, List.dropLast_concat]
  unfold makeParents
  dsimp only
  rw [steps]
  split
  · rfl
  · exact congrArg Prod.snd (makeDirectories_of_follow? led holds.directory)

end Holds

end FileTree

end DocumentMigration
