import Mathlib.Data.List.FinRange
import Mathlib.Data.List.Induction
import Mathlib.Data.Fintype.EquivFin
import Mathlib.Order.Monotone.Defs

/-!
Lists split into groups of alike items. The groups follow each other as their first items do, and
each has its items in the order of the list. Such groups come of putting one item after the other
into the first group that takes it, or into a new group at the end.
-/
namespace DocumentMigration

variable {α γ δ κ : Type}

/-- The group of every item of a list. -/
structure Grouping (alike : α → α → Prop) (as : List α) (groups : Nat) where
  slot : Fin as.length → Fin groups
  first : Fin groups → Fin as.length
  slot_first : ∀ g, slot (first g) = g
  first_le : ∀ i, first (slot i) ≤ i
  ordered : StrictMono first
  slot_eq_iff : ∀ i j, slot i = slot j ↔ alike as[i] as[j]

namespace Grouping

variable {alike : α → α → Prop} {as : List α} {groups : Nat}

/-- The items of one group, in the order of the list. -/
def members (p : Grouping alike as groups) (g : Fin groups) : List α :=
  ((List.finRange as.length).filter (p.slot · = g)).map as.get

theorem mem_members {p : Grouping alike as groups} {g : Fin groups} {a : α}
    (member : a ∈ p.members g) : alike as[p.first g] a := by
  obtain ⟨i, inGroup, rfl⟩ := List.mem_map.mp member
  have slot : p.slot i = g := by simpa using inGroup
  exact (p.slot_eq_iff _ _).mp ((p.slot_first g).trans slot.symm)

/-- Every item is in one group, and in it once. -/
theorem perm_members (p : Grouping alike as groups) :
    ((List.finRange groups).flatMap p.members).Perm as := by
  have indexes : ((List.finRange groups).flatMap fun g =>
      (List.finRange as.length).filter (p.slot · = g)).Perm (List.finRange as.length) := by
    refine (List.perm_ext_iff_of_nodup ?_ (List.nodup_finRange _)).mpr fun i => by simp
    refine List.nodup_flatMap.mpr ⟨fun g _ => (List.nodup_finRange _).filter _, ?_⟩
    refine (List.nodup_finRange groups).imp fun {g h} other i inFirst inSecond => other ?_
    have slot : p.slot i = g := by simpa using inFirst
    have again : p.slot i = h := by simpa using inSecond
    exact slot.symm.trans again
  have items := indexes.map as.get
  rwa [List.map_flatMap, List.map_get_finRange] at items

end Grouping

/-- The groups that a list falls into, each made from its first item and all its items. -/
def Groups (alike : α → α → Prop) (build : α → List α → γ) (as : List α) (groups : List γ) : Prop :=
  ∃ count, ∃ p : Grouping alike as count,
    groups = (List.finRange count).map fun g => build as[p.first g] (p.members g)

namespace Groups

variable {alike same : α → α → Prop} {build : α → List α → γ} {as : List α} {groups : List γ}

theorem congr (h : Groups alike build as groups)
    (iff : ∀ a ∈ as, ∀ b ∈ as, (alike a b ↔ same a b)) : Groups same build as groups := by
  obtain ⟨count, p, built⟩ := h
  refine ⟨count, { p with slot_eq_iff := fun i j => (p.slot_eq_iff i j).trans ?_ }, built⟩
  exact iff _ (List.getElem_mem _) _ (List.getElem_mem _)

/-- As many groups for a finer relation leave nothing to tell apart. -/
theorem same_of_finer (coarse : Groups alike build as groups)
    (fine : Groups same build as groups) (finer : ∀ a ∈ as, ∀ b ∈ as, same a b → alike a b) :
    ∀ a ∈ as, ∀ b ∈ as, alike a b → same a b := by
  obtain ⟨count, p, built⟩ := coarse
  obtain ⟨count', q, built'⟩ := fine
  have counted := congrArg List.length (built.symm.trans built')
  rw [List.length_map, List.length_map, List.length_finRange, List.length_finRange] at counted
  subst counted
  -- Every fine group lies in a coarse one, and every coarse one has a fine one in it: with as many
  -- of both this is one to one.
  let around (g : Fin count) : Fin count := p.slot (q.first g)
  have slot (i : Fin as.length) : around (q.slot i) = p.slot i := by
    refine (p.slot_eq_iff _ _).mpr (finer _ (List.getElem_mem _) _ (List.getElem_mem _) ?_)
    exact (q.slot_eq_iff _ _).mp (q.slot_first _)
  have onto : Function.Surjective around := fun g => ⟨_, (slot (p.first g)).trans (p.slot_first g)⟩
  have apart := Finite.injective_iff_surjective.mpr onto
  intro a first b second both
  obtain ⟨i, hi, rfl⟩ := List.mem_iff_getElem.mp first
  obtain ⟨j, hj, rfl⟩ := List.mem_iff_getElem.mp second
  have coarsely : p.slot ⟨i, hi⟩ = p.slot ⟨j, hj⟩ := (p.slot_eq_iff _ _).mpr both
  rw [← slot, ← slot] at coarsely
  exact (q.slot_eq_iff ⟨i, hi⟩ ⟨j, hj⟩).mp (apart coarsely)

theorem exists_of_mem (h : Groups alike build as groups) {g : γ} (member : g ∈ groups) :
    ∃ a ∈ as, ∃ members, g = build a members := by
  obtain ⟨count, p, rfl⟩ := h
  obtain ⟨i, -, rfl⟩ := List.mem_map.mp member
  exact ⟨_, List.getElem_mem _, _, rfl⟩

theorem map (h : Groups alike build as groups) (f : γ → δ) :
    Groups alike (fun a members => f (build a members)) as (groups.map f) := by
  obtain ⟨count, p, built⟩ := h
  refine ⟨count, p, ?_⟩
  rw [built, List.map_map]
  rfl

/-- A list made of one part for each group has the items of all its groups. -/
theorem perm_flatMap (h : Groups alike build as groups) {f : γ → List δ} {item : α → δ}
    (parts : ∀ a members, f (build a members) = members.map item) :
    (groups.flatMap f).Perm (as.map item) := by
  obtain ⟨count, p, rfl⟩ := h
  rw [List.flatMap_map]
  simp only [parts]
  rw [← List.map_flatMap]
  exact p.perm_members.map item

end Groups

section Firsts

variable {ι : Type} [DecidableEq κ] {key : ι → κ} {is : List ι} {i h : ι}

/-- The first item of every key. -/
def firsts (key : ι → κ) : List ι → List ι
  | [] => []
  | i :: is => i :: (firsts key is).filter (key · ≠ key i)

theorem firsts_sublist (key : ι → κ) (is : List ι) : (firsts key is).Sublist is := by
  induction is with
  | nil => exact .slnil
  | cons i is ih => exact (List.filter_sublist.trans ih).cons_cons i

theorem nodup_map_firsts (key : ι → κ) (is : List ι) : ((firsts key is).map key).Nodup := by
  induction is with
  | nil => exact .nil
  | cons i is ih =>
    refine List.nodup_cons.mpr ⟨fun again => ?_, ih.sublist (List.filter_sublist.map key)⟩
    obtain ⟨h, kept, same⟩ := List.mem_map.mp again
    have other : key h ≠ key i := by simpa using (List.mem_filter.mp kept).2
    exact other same

theorem mem_map_firsts {k : κ} : k ∈ (firsts key is).map key ↔ k ∈ is.map key := by
  induction is with
  | nil => rfl
  | cons i is ih =>
    by_cases same : k = key i
    · simp [firsts, same]
    · rw [firsts, List.map_cons, List.map_cons, List.mem_cons, List.mem_cons, ← ih]
      refine or_congr_right ⟨fun kept => ?_, fun kept => ?_⟩
      · exact (List.filter_sublist.map key).subset kept
      · obtain ⟨h, member, rfl⟩ := List.mem_map.mp kept
        exact List.mem_map_of_mem (List.mem_filter.mpr ⟨member, by simpa using same⟩)

/-- One item stands for a key, and all others for other keys. -/
theorem exists_firsts_eq_append (key : ι → κ) (member : i ∈ is) :
    ∃ h before after, firsts key is = before ++ h :: after ∧ h ∈ is ∧ key h = key i ∧
      ∀ j ∈ before ++ after, j ∈ is ∧ key j ≠ key i := by
  have known : key i ∈ (firsts key is).map key := mem_map_firsts.mpr (List.mem_map_of_mem member)
  obtain ⟨h, first, same⟩ := List.mem_map.mp known
  obtain ⟨before, after, split⟩ := List.append_of_mem first
  have listed : ∀ j ∈ before ++ h :: after, j ∈ is := by
    rw [← split]
    exact fun _ kept => (firsts_sublist key is).subset kept
  have distinct := nodup_map_firsts key is
  rw [split, List.map_append, List.map_cons, List.nodup_middle, List.nodup_cons,
    ← List.map_append] at distinct
  refine ⟨h, before, after, split, listed h (by simp), same, fun j other => ⟨?_, ?_⟩⟩
  · exact listed j (List.mem_append.mpr ((List.mem_append.mp other).imp_right (.tail h)))
  · exact fun again => distinct.1 (List.mem_map.mpr ⟨j, other, again.trans same.symm⟩)

/-- No item stands before the first one of its key. -/
theorem first_of_pairwise {before : ι → ι → Prop} (ordered : is.Pairwise before)
    (first : h ∈ firsts key is) (member : i ∈ is) (same : key h = key i) : h = i ∨ before h i := by
  induction is with
  | nil => cases member
  | cons j is ih =>
    obtain ⟨ahead, ordered⟩ := List.pairwise_cons.mp ordered
    rcases List.mem_cons.mp first with rfl | later
    · exact (List.mem_cons.mp member).imp Eq.symm (ahead i)
    · obtain ⟨later, other⟩ := List.mem_filter.mp later
      rcases List.mem_cons.mp member with rfl | member
      · exact absurd same (by simpa using other)
      · exact ih ordered later member

theorem firsts_append_singleton (key : ι → κ) (is : List ι) (i : ι) :
    firsts key (is ++ [i]) =
      firsts key is ++ if key i ∈ is.map key then [] else [i] := by
  induction is with
  | nil => rfl
  | cons j is ih =>
    rw [List.cons_append, firsts, ih, List.filter_append, firsts, List.cons_append]
    by_cases head : key i = key j
    · simp [head]
    · by_cases tail : key i ∈ is.map key <;> simp [head, tail]

theorem eraseDups_filter [DecidableEq α] (p : α → Bool) (as : List α) :
    (as.filter p).eraseDups = as.eraseDups.filter p := by
  -- Of the rest, the copies of the head go before the next step, so the induction is on the length.
  induction hn : as.length using Nat.strong_induction_on generalizing as with
  | _ n ih =>
    cases as with
    | nil => rfl
    | cons a as =>
      have shorter : (as.filter fun b => !b == a).length < n := by
        rw [← hn, List.length_cons]
        exact Nat.lt_succ_of_le (List.length_filter_le _ _)
      have rest := ih _ shorter _ rfl
      rw [List.eraseDups_cons, List.filter_cons, List.filter_cons]
      by_cases kept : p a
      · rw [if_pos kept, if_pos kept, List.eraseDups_cons, ← rest, List.filter_comm]
      · have copies : (as.filter fun b => !b == a).filter p = as.filter p := by
          rw [List.filter_filter]
          refine List.filter_congr fun b _ => ?_
          by_cases copy : b = a <;> simp_all
        rw [if_neg kept, if_neg kept, ← rest, copies]

theorem eraseDups_concat [DecidableEq α] (as : List α) (a : α) :
    (as ++ [a]).eraseDups = as.eraseDups ++ if a ∈ as then [] else [a] := by
  rw [List.eraseDups_append]
  by_cases old : a ∈ as <;> simp [List.removeAll, List.eraseDups_cons, old]

/-- The keys of the first items are the keys in the order in which they come up. -/
theorem map_firsts (key : ι → κ) (is : List ι) :
    (firsts key is).map key = (is.map key).eraseDups := by
  induction is with
  | nil => rfl
  | cons i is ih =>
    rw [firsts, List.map_cons, List.map_cons, List.eraseDups_cons, eraseDups_filter, ← ih,
      List.filter_map]
    congr 2
    refine List.filter_congr fun j _ => ?_
    by_cases same : key j = key i <;> simp [same]

theorem find?_of_mem_firsts (first : h ∈ firsts key is) :
    is.find? (fun i => key i = key h) = some h := by
  induction is with
  | nil => cases first
  | cons i is ih =>
    rcases List.mem_cons.mp first with rfl | later
    · exact List.find?_cons_of_pos (by simp)
    · obtain ⟨later, other⟩ := List.mem_filter.mp later
      have another : key i ≠ key h := Ne.symm (by simpa using other)
      rw [List.find?_cons_of_neg (by simpa using another)]
      exact ih later

/-- Behind the first items of a list stand those that bring a new key. -/
theorem firsts_append (key : ι → κ) (is js : List ι) :
    firsts key (is ++ js) =
      firsts key is ++ (firsts key js).filter fun j => key j ∉ is.map key := by
  induction is with
  | nil => simp [firsts]
  | cons i is ih =>
    rw [List.cons_append, firsts, ih, List.filter_append, firsts, List.cons_append,
      List.filter_filter]
    congr 2
    refine List.filter_congr fun j _ => ?_
    simp [not_or]

end Firsts

namespace Grouping

variable [DecidableEq κ] {key : α → κ} {as : List α} {groups : Nat}

/-- The positions of the first items of every key. -/
def heads (key : α → κ) (as : List α) : List (Fin as.length) :=
  firsts (fun i => key as[i]) (List.finRange as.length)

theorem key_mem_heads (key : α → κ) (i : Fin as.length) :
    key as[i] ∈ (heads key as).map fun h => key as[h] :=
  mem_map_firsts.mpr (List.mem_map_of_mem (List.mem_finRange i))

/-- Items are alike that have one key. -/
def ofKeys (key : α → κ) (as : List α) :
    Grouping (fun a b => key a = key b) as (heads key as).length where
  slot i := ⟨((heads key as).map fun h => key as[h]).idxOf (key as[i]), by
    have found := List.idxOf_lt_length_of_mem (key_mem_heads key i)
    rwa [List.length_map] at found⟩
  first g := (heads key as)[g]
  slot_first g := by
    have known := (nodup_map_firsts (fun i => key as[i]) (List.finRange as.length)).idxOf_getElem g
      (by rw [List.length_map]; exact g.isLt)
    rw [List.getElem_map] at known
    exact Fin.ext known
  first_le i := by
    have found := List.getElem_idxOf (List.idxOf_lt_length_of_mem (key_mem_heads key i))
    rw [List.getElem_map] at found
    refine (first_of_pairwise (List.pairwise_lt_finRange as.length) (List.getElem_mem _)
      (List.mem_finRange i) found).elim le_of_eq le_of_lt
  ordered := by
    intro g h less
    have sorted := (List.pairwise_lt_finRange as.length).sublist
      (firsts_sublist (fun i => key as[i]) (List.finRange as.length))
    exact List.pairwise_iff_getElem.mp sorted _ _ _ _ less
  slot_eq_iff i j := by
    exact Fin.ext_iff.trans (List.idxOf_inj (key_mem_heads key i))

theorem members_eq_filter (p : Grouping (fun a b => key a = key b) as groups) (g : Fin groups) :
    p.members g =
      ((List.finRange as.length).filter fun i => key as[p.first g] = key as[i]).map as.get := by
  refine congrArg (List.map as.get) (List.filter_congr fun i _ => decide_eq_decide.mpr ?_)
  rw [← p.slot_eq_iff, p.slot_first]
  exact eq_comm

end Grouping

section Place

/-- Puts an item into the first group that takes it, or into a new group at the end. -/
def place (takes : γ → α → Bool) (extend : γ → α → γ) (new : α → γ) (a : α) : List γ → List γ
  | [] => [new a]
  | g :: rest => if takes g a then extend g a :: rest else g :: place takes extend new a rest

variable [DecidableEq κ] {key : α → κ} {takes : γ → α → Bool} {extend : γ → α → γ} {new : α → γ}
  {build : α → List α → γ}

/-- Among groups of different keys, the one of the key of an item takes it. -/
theorem place_map {ι : Type} {keyOf : ι → κ} {group : ι → γ} {hs : List ι} {a : α}
    (distinct : (hs.map keyOf).Nodup)
    (takes_iff : ∀ h ∈ hs, takes (group h) a = decide (keyOf h = key a)) :
    place takes extend new a (hs.map group) =
      hs.map (fun h => if keyOf h = key a then extend (group h) a else group h) ++
        if key a ∈ hs.map keyOf then [] else [new a] := by
  induction hs with
  | nil => rfl
  | cons h hs ih =>
    obtain ⟨apart, distinct⟩ := List.nodup_cons.mp distinct
    rw [List.map_cons, place, takes_iff h List.mem_cons_self]
    by_cases same : keyOf h = key a
    · have rest : hs.map (fun h => if keyOf h = key a then extend (group h) a else group h) =
          hs.map group := by
        refine List.map_congr_left fun other member => if_neg fun again => apart ?_
        rw [same, ← again]
        exact List.mem_map_of_mem member
      simp [same, rest]
    · rw [ih distinct fun other member => takes_iff other (List.mem_cons_of_mem h member)]
      simp [same, Ne.symm same]

variable (takes_build : ∀ a members b, takes (build a members) b = decide (key a = key b))
  (extend_build : ∀ a members b, extend (build a members) b = build a (members ++ [b]))
  (new_eq : ∀ a, new a = build a [a])

include takes_build extend_build new_eq

/-- One group for every key, with all items of the key. -/
theorem foldl_place {ι : Type} (item : ι → α) (is : List ι) :
    is.foldl (fun groups i => place takes extend new (item i) groups) [] =
      (firsts (fun i => key (item i)) is).map fun h =>
        build (item h) ((is.filter fun i => key (item h) = key (item i)).map item) := by
  induction is using List.reverseRecOn with
  | nil => rfl
  | append_singleton is i ih =>
    have known : key (item i) ∈ (firsts (fun i => key (item i)) is).map (fun i => key (item i)) ↔
        key (item i) ∈ is.map (fun i => key (item i)) := mem_map_firsts
    rw [List.foldl_append, ih, List.foldl_cons, List.foldl_nil,
      place_map (nodup_map_firsts _ is) fun h _ => takes_build _ _ _, firsts_append_singleton,
      List.map_append]
    congr 1
    · refine List.map_congr_left fun h _ => ?_
      by_cases same : key (item h) = key (item i) <;> simp [same, extend_build]
    · by_cases old : key (item i) ∈ is.map (fun i => key (item i))
      · rw [if_pos (known.mpr old), if_pos old, List.map_nil]
      · have alone : is.filter (fun j => key (item i) = key (item j)) = [] := by
          refine List.filter_eq_nil_iff.mpr fun j member same => old ?_
          rw [of_decide_eq_true same]
          exact List.mem_map_of_mem member
        rw [if_neg (mt known.mp old), if_neg old, new_eq, List.map_singleton, List.filter_append,
          alone]
        simp

/-- Placing the items of a list groups them by their keys. -/
theorem groups_foldl_place (as : List α) :
    Groups (fun a b => key a = key b) build as
      (as.foldl (fun groups a => place takes extend new a groups) []) := by
  -- The items are taken by their positions, of which no two are the same.
  have placed : as.foldl (fun groups a => place takes extend new a groups) [] =
      (Grouping.heads key as).map fun h => build as[h]
        (((List.finRange as.length).filter fun i => key as[h] = key as[i]).map as.get) := by
    conv_lhs => rw [← List.map_get_finRange as, List.foldl_map]
    exact foldl_place takes_build extend_build new_eq as.get (List.finRange as.length)
  refine ⟨_, Grouping.ofKeys key as, ?_⟩
  rw [placed]
  conv_lhs => rw [← List.map_get_finRange (Grouping.heads key as), List.map_map]
  refine List.map_congr_left fun g _ => ?_
  rw [Grouping.members_eq_filter]
  rfl

end Place

end DocumentMigration
