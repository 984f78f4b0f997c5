import Slim.Forwarder
import Slim.RawPool

/-!
# Connections at a given index: `forwarder.rs`, `tables/connection_table.rs`

The connection table is a pool behind a lock.  A call of `on_connection_established` with an
index compares it with the capacity, and the index that is equal to the capacity passes.  The
call then panics at the first access, after it has counted the new element.  The lock is
released, so the table that the other calls find may be one that such a call has left.  Its two
sequences still have the length of its capacity, whatever the count is.
-/

namespace Slim

namespace RawPool

variable {T : Type}

/-! ## What holds of every table -/

/-- The bitmap and the slots have the length of the capacity. -/
structure Sized (p : RawPool T) : Prop where
  bitmap_length : p.bitmap.length = p.capacity
  pool_length : p.pool.length = p.capacity

theorem sized_withCapacity (capacity : Nat) : (withCapacity capacity : RawPool T).Sized :=
  ⟨List.length_replicate, List.length_replicate⟩

theorem Sized.reserve {p : RawPool T} (hs : p.Sized) : p.reserve.2.Sized := by
  have hgrown : (resizeWith p.pool (2 * p.capacity)).length = 2 * p.capacity := by
    rw [resizeWith, List.length_append, List.length_take, List.length_replicate, hs.pool_length]
    omega
  have hbits : (p.bitmap ++ List.replicate p.capacity false).length = 2 * p.capacity := by
    rw [List.length_append, List.length_replicate, hs.bitmap_length]
    omega
  unfold RawPool.reserve
  split
  · dsimp only
    split
    · exact ⟨hbits, hgrown⟩
    · exact ⟨hbits, hgrown⟩
  · exact hs

theorem Sized.insertAt {p : RawPool T} (hs : p.Sized) (element : T) (index : Nat) :
    (p.insertAt element index).2.Sized := by
  have hbitmap := hs.bitmap_length
  have hpool := hs.pool_length
  unfold RawPool.insertAt
  split
  · exact hs
  · dsimp only
    split
    · split
      · constructor <;> simpa
      · constructor <;> simpa
    · exact ⟨hbitmap, hpool⟩

theorem Sized.insert {p : RawPool T} (hs : p.Sized) (element : T) : (p.insert element).2.Sized := by
  have hreserved := hs.reserve
  unfold RawPool.insert
  rcases hreserve : p.reserve with ⟨_ | _, reserved⟩
  · rw [hreserve] at hreserved
    exact hreserved
  · rw [hreserve] at hreserved
    dsimp only
    rcases reserved.bitmap.findIdx? fun bit => !bit with _ | index
    · exact hreserved
    · have hput := Sized.insertAt hreserved element index
      dsimp only
      rcases hinsert : reserved.insertAt element index with ⟨_ | _ | _, left⟩
      all_goals
        rw [hinsert] at hput
        exact hput

theorem Sized.remove {p : RawPool T} (hs : p.Sized) (index : Nat) : (p.remove index).2.Sized := by
  have hbitmap := hs.bitmap_length
  have hpool := hs.pool_length
  unfold RawPool.remove
  split
  · dsimp only
    split
    · split
      · constructor <;> simpa
      · constructor <;> simpa
    · constructor <;> simpa
  · exact hs

theorem Sized.step {p : RawPool T} (hs : p.Sized) (call : PoolCall T) : (p.step call).Sized := by
  cases call with
  | insert element => exact hs.insert element
  | insertAt element index => exact hs.insertAt element index
  | remove index => exact hs.remove index

/-- Panics included, every run keeps the lengths. -/
theorem sized_run (capacity : Nat) (calls : List (PoolCall T)) :
    (Runs.run step (withCapacity capacity) calls).Sized :=
  Runs.run_invariant (P := fun _ _ => True) (fun _ call hs _ => hs.step call) calls _
    (Runs.along_of_forall calls _ fun _ _ => trivial) (sized_withCapacity capacity)

/-! ## The three cases of an index -/

theorem Sized.insertAt_of_lt {p : RawPool T} (hs : p.Sized) (element : T) {index : Nat}
    (hindex : index < p.capacity) :
    ∃ left, p.insertAt element index = (.ok true, left) ∧ left.get index = some element ∧
      SameBut index p left := by
  have hbitmap : index < p.bitmap.length := by rwa [hs.bitmap_length]
  have hpool : index < p.pool.length := by rwa [hs.pool_length]
  unfold RawPool.insertAt
  rw [if_neg (Nat.lt_asymm hindex)]
  dsimp only
  rw [if_pos hbitmap, if_pos hpool]
  refine ⟨_, rfl, ?_, ?_⟩
  · simp [get, hpool]
  · intro other hother
    simp only [get, List.getElem?_set_ne hother.symm]

theorem insertAt_of_gt (p : RawPool T) (element : T) {index : Nat} (hindex : p.capacity < index) :
    p.insertAt element index = (.ok false, p) := if_pos hindex

/-- The index is counted before it is found to be out of bounds. -/
theorem Sized.insertAt_capacity {p : RawPool T} (hs : p.Sized) (element : T) :
    p.insertAt element p.capacity =
      (.error (.indexOutOfBounds p.capacity), { p with len := p.len + 1 }) := by
  have hbit : p.isSet p.capacity = false := by
    rw [isSet, List.getElem?_eq_none (Nat.le_of_eq hs.bitmap_length)]
    rfl
  unfold RawPool.insertAt
  rw [if_neg (Nat.lt_irrefl _), hbit]
  dsimp only
  rw [if_neg (by rw [hs.bitmap_length]; exact Nat.lt_irrefl _)]
  rfl

/-! ## `on_connection_established` -/

def onConnectionEstablished (table : RawPool T) (conn : T) (existingIndex : Option Nat) :
    Except Panic (Option Nat) × RawPool T :=
  match existingIndex with
  | none =>
      match table.insert conn with
      | (.error panic, left) => (.error panic, left)
      | (.ok index, left) => (.ok (some index), left)
  | some index =>
      match table.insertAt conn index with
      | (.error panic, left) => (.error panic, left)
      | (.ok inserted, left) => (.ok (if inserted then existingIndex else none), left)

end RawPool

/-- The forwarder's connection table is changed in this way. -/
theorem Forwarder.onConnectionEstablished_raw {T : Type} {f g : Forwarder T} {conn : T}
    {existingIndex index : Option Nat}
    (hok : f.onConnectionEstablished conn existingIndex = .ok (index, g)) :
    f.connectionTable.raw.onConnectionEstablished conn existingIndex =
      (.ok index, g.connectionTable.raw) := by
  unfold Forwarder.onConnectionEstablished at hok
  unfold RawPool.onConnectionEstablished
  rcases existingIndex with _ | index
  · cases hok
    simp only [Pool.insert_raw]
    rfl
  · by_cases hindex : index < f.connectionTable.capacity
    · simp only [Pool.insertAt, Nat.lt_asymm hindex, hindex, if_false, dif_pos] at hok
      cases hok
      simp only [f.connectionTable.insertAt_raw conn hindex]
    · by_cases hbeyond : f.connectionTable.capacity < index
      · simp only [Pool.insertAt, hbeyond, if_true] at hok
        cases hok
        simp only [f.connectionTable.raw.insertAt_of_gt conn hbeyond]
      · simp only [Pool.insertAt, hbeyond, hindex, if_false, dif_neg, not_false_eq_true] at hok
        cases hok

namespace RawPool

variable {T : Type}

/-- The call puts the connection at the index if it is below the capacity, and otherwise refuses
    it and leaves the table alone. -/
structure Reestablishes (table : RawPool T) (conn : T) (index : Nat) : Prop where
  inside : index < table.capacity →
    ∃ left, table.onConnectionEstablished conn (some index) = (.ok (some index), left) ∧
      left.get index = some conn ∧ SameBut index table left
  outside : table.capacity ≤ index →
    table.onConnectionEstablished conn (some index) = (.ok none, table)

/-- In every table that calls can reach, the panicking ones among them, a connection can be
    re-established at any index but the one that is equal to the capacity. -/
theorem reestablishes_iff (calls : List (PoolCall T)) (conn : T) (index : Nat) :
    (Runs.run step (withCapacity 100) calls).Reestablishes conn index ↔
      index ≠ (Runs.run step (withCapacity 100) calls).capacity := by
  have hsized := sized_run 100 calls
  generalize Runs.run step (withCapacity 100) calls = table at hsized ⊢
  constructor
  · rintro hreestablishes rfl
    have hreturns := hreestablishes.outside (Nat.le_refl _)
    simp only [onConnectionEstablished, hsized.insertAt_capacity] at hreturns
    cases hreturns
  · intro hne
    constructor
    · intro hindex
      obtain ⟨left, hleft, hget, hsame⟩ := hsized.insertAt_of_lt conn hindex
      refine ⟨left, ?_, hget, hsame⟩
      simp only [onConnectionEstablished, hleft, if_true]
    · intro hindex
      have hbeyond : table.capacity < index := Nat.lt_of_le_of_ne hindex hne.symm
      simp only [onConnectionEstablished, table.insertAt_of_gt conn hbeyond]
      rfl

/-- The first index beyond a new table: the call panics, and the table counts one connection. -/
theorem reestablish_panics :
    let table := Runs.run step (withCapacity 100) ([] : List (PoolCall Char))
    table.onConnectionEstablished 'a' (some 100) =
        (.error (.indexOutOfBounds 100), { table with len := 1 }) ∧
      ¬ table.Reestablishes 'a' 100 := by
  have hpanics := (sized_withCapacity 100).insertAt_capacity 'a'
  have hcalled : (withCapacity 100).onConnectionEstablished 'a' (some 100) =
      (.error (.indexOutOfBounds 100), { withCapacity 100 with len := 1 }) := by
    unfold onConnectionEstablished
    simp only [show (withCapacity 100).insertAt 'a' 100 = _ from hpanics]
    rfl
  refine ⟨hcalled, fun hreestablishes => ?_⟩
  have hreturns := hreestablishes.outside (Nat.le_refl 100)
  cases hcalled.symm.trans hreturns

end RawPool

end Slim
