import DocumentMigration.Record.Script
import DocumentMigration.Proofs.Store.Action

/-!
Parts of records, as they are written and as they are read. A record is read from the members that
its fields have, and whatever is read has the property that its fields are read with.
-/
namespace DocumentMigration

open Json

/-- The value, unless it is the null that stands for an absent one. -/
def Json.Value.given : Value → Option Value
  | .null => none
  | v => some v

theorem Json.Value.bind_given_eq_self_iff {o : Option Value} :
    o.bind given = o ↔ o ≠ some .null := by
  rcases o with _ | v
  · simp
  · cases v <;> simp [given]

namespace Record

variable {α β : Type} {item : Value → Decoded α} {v : Value}

/-! Written parts, read again. -/

@[simp] theorem text_string (s : String) : text (.string s) = .ok s := rfl

@[simp] theorem boolean_bool (b : Bool) : boolean (.bool b) = .ok b := rfl

@[simp] theorem document_object (ms : Object) : document (.object ms) = .ok ms := rfl

@[simp] theorem any_value (v : Value) : any v = .ok v := rfl

@[simp] theorem nullable_any (v : Value) : nullable any v = .ok v.given := by
  cases v <;> rfl

@[simp] theorem nullable_string (s : String) : nullable text (.string s) = .ok (some s) := rfl

@[simp] theorem nullable_object (ms : Object) :
    nullable document (.object ms) = .ok (some ms) := rfl

theorem count_nat {n : Nat} (small : n < 2 ^ (64 : Nat)) : count (.nat n) = .ok n := by
  obtain ⟨range, same⟩ := Value.exists_nat_eq small
  rw [same]
  rfl

theorem each_map {write : α → Value} {kept : α → α} (xs : List α)
    (reads : ∀ x ∈ xs, item (write x) = .ok (kept x)) :
    each item (.array (xs.map write)) = .ok (xs.map kept) := by
  unfold each
  induction xs with
  | nil => rfl
  | cons x xs ih =>
    obtain ⟨first, rest⟩ := List.forall_mem_cons.mp reads
    exact Except.mapM_cons_eq_ok_iff.mpr ⟨kept x, xs.map kept, rfl, first, ih rest⟩

/-- Items that are read as they were written make the list that was written. -/
theorem each_map_self {write : α → Value} (xs : List α)
    (reads : ∀ x ∈ xs, item (write x) = .ok x) :
    each item (.array (xs.map write)) = .ok xs := by
  simpa using each_map xs reads

@[simp] theorem each_text (texts : List String) : each text (.ofStrings texts) = .ok texts :=
  each_map_self texts fun _ _ => rfl

@[simp] theorem each_any (xs : List Value) : each any (.array xs) = .ok xs := by
  have same : each any (.array (xs.map id)) = .ok xs := each_map_self xs fun _ _ => rfl
  rwa [List.map_id] at same

/-! What is read has a property. -/

/-- If anything is read, it has the property. -/
def Yields (P : α → Prop) (d : Decoded α) : Prop := ∀ a, d = .ok a → P a

namespace Yields

variable {P : α → Prop} {Q : β → Prop}

theorem pure {a : α} (h : P a) : Yields P (Pure.pure a) := by
  rintro _ ⟨⟩
  exact h

theorem bind {d : Decoded α} {f : α → Decoded β} (first : Yields P d)
    (next : ∀ a, P a → Yields Q (f a)) : Yields Q (d >>= f) := by
  intro b done
  obtain ⟨a, read, done⟩ := Except.bind_eq_ok_iff.mp done
  exact next a (first a read) b done

/-- A part that says nothing about the whole. -/
theorem skip {d : Decoded α} {f : α → Decoded β} (next : ∀ a, Yields Q (f a)) :
    Yields Q (d >>= f) :=
  bind (P := fun _ => True) (fun _ _ => trivial) fun a _ => next a

end Yields

variable {P : α → Prop} {Q : β → Prop}

theorem yields_each (reads : ∀ v, Yields P (item v)) (v : Value) :
    Yields (fun xs => ∀ x ∈ xs, P x) (each item v) := by
  intro xs done x member
  cases v with
  | array vs =>
    obtain ⟨w, -, read⟩ := Except.exists_of_mem_mapM done member
    exact reads w x read
  | _ => cases done

theorem yields_nullable (reads : ∀ v, Yields P (item v)) (v : Value) :
    Yields (fun o => ∀ a ∈ o, P a) (nullable item v) := by
  intro o done a given
  cases v with
  | null => cases done; cases given
  | _ =>
    obtain ⟨b, read, rfl⟩ := Except.map_eq_ok_iff.mp done
    cases given
    exact reads _ a read

theorem yields_nullable_any (v : Value) : Yields (· ≠ some Value.null) (nullable any v) := by
  rw [nullable_any]
  rintro _ ⟨⟩
  cases v <;> simp [Value.given]

theorem yields_count (v : Value) : Yields (· < 2 ^ (64 : Nat)) (count v) := by
  intro n done
  cases v with
  | number k =>
    rcases k with ⟨_ | _, range⟩ | _ <;> cases done
    exact Int.ofNat_lt.mp range.2
  | _ => cases done

theorem yields_member (reads : ∀ v, Yields P (item v)) (ms : Object) (field : String) :
    Yields (fun o => ∀ a ∈ o, P a) (member ms field item) := by
  intro o done a found
  unfold member at done
  split at done
  · obtain ⟨b, read, rfl⟩ := Except.map_eq_ok_iff.mp done
    cases found
    exact reads _ a read
  · cases done
    cases found

/-- A list that is left out is empty. -/
theorem forall_mem_getD {o : Option (List α)} (h : ∀ xs ∈ o, ∀ x ∈ xs, P x) :
    ∀ x ∈ o.getD [], P x := by
  cases o with
  | none => nofun
  | some xs => exact h xs rfl

theorem join_ne_some {o : Option (Option α)} {a : α} (h : ∀ b ∈ o, b ≠ some a) :
    o.join ≠ some a := fun same => h _ (Option.join_eq_some_iff.mp same) rfl

theorem yields_required {field : String} {o : Option α} (h : ∀ a ∈ o, P a) :
    Yields P (required field o) := by
  rintro a done
  cases o with
  | none => cases done
  | some b =>
    cases done
    exact h a rfl

/-- If the reader takes its items, what it makes of them has the property. -/
def ItemReader.Yields (P : α → Prop) (r : ItemReader α) : Prop :=
  ∀ items, Record.Yields (fun result => P result.1) (r.run items)

namespace ItemReader.Yields

theorem pure {a : α} (h : P a) : Yields P (Pure.pure a) := fun _ => .pure h

theorem bind {r : ItemReader α} {f : α → ItemReader β} (first : Yields P r)
    (next : ∀ a, P a → Yields Q (f a)) : Yields Q (r >>= f) := by
  intro items
  rw [StateT.run_bind]
  exact .bind (first items) fun result h => next result.1 h result.2

theorem skip {r : ItemReader α} {f : α → ItemReader β} (next : ∀ a, Yields Q (f a)) :
    Yields Q (r >>= f) :=
  bind (P := fun _ => True) (fun _ _ _ => trivial) fun a _ => next a

end ItemReader.Yields

theorem nextItem_run (expected : String) (v : Value) (rest : List Value) (taken : Nat) :
    (nextItem expected item).run ⟨v :: rest, taken⟩ =
      (item v).map fun a => (a, ⟨rest, taken + 1⟩) := by
  show (item v >>= _) >>= _ = _
  cases item v <;> rfl

theorem nextItemOr_run (default : α) (v : Value) (rest : List Value) (taken : Nat) :
    (nextItemOr default item).run ⟨v :: rest, taken⟩ =
      (item v).map fun a => (a, ⟨rest, taken + 1⟩) := by
  show (item v >>= _) >>= _ = _
  cases item v <;> rfl

theorem yields_nextItem (expected : String) (reads : ∀ v, Yields P (item v)) :
    ItemReader.Yields P (nextItem expected item) := by
  rintro ⟨_ | ⟨v, rest⟩, taken⟩ result done
  · cases done
  · rw [nextItem_run] at done
    obtain ⟨a, read, rfl⟩ := Except.map_eq_ok_iff.mp done
    exact reads v a read

theorem yields_nextItemOr {default : α} (h : P default) (reads : ∀ v, Yields P (item v)) :
    ItemReader.Yields P (nextItemOr default item) := by
  rintro ⟨_ | ⟨v, rest⟩, taken⟩ result done
  · cases done
    exact h
  · rw [nextItemOr_run] at done
    obtain ⟨a, read, rfl⟩ := Except.map_eq_ok_iff.mp done
    exact reads v a read

theorem yields_record {name : String} {members : Object → Decoded α} {items : ItemReader α}
    (asMembers : ∀ ms, Yields P (members ms)) (asItems : ItemReader.Yields P items) (v : Value) :
    Yields P (record name members items v) := by
  intro a done
  cases v with
  | object ms => exact asMembers ms a done
  | array xs =>
    obtain ⟨⟨b, left⟩, read, done⟩ := Except.bind_eq_ok_iff.mp done
    dsimp only at done
    split at done <;> cases done
    exact asItems _ _ read
  | _ => cases done

/-! Records read, written and read again. -/

/-- A record that was read is read again from what is written for it. -/
def Settles (decode : Value → Decoded α) (encode : α → Value) : Prop :=
  ∀ v a, decode v = .ok a → decode (encode a) = .ok a

theorem Settles.of_yields {decode : Value → Decoded α} {encode : α → Value}
    (reads : ∀ v, Yields P (decode v)) (writes : ∀ a, P a → decode (encode a) = .ok a) :
    Settles decode encode :=
  fun v a read => writes a (reads v a read)

end Record

end DocumentMigration
