import Mathlib.Order.Bounds.Defs
import Slim.Pool
import Slim.Runs

/-!
# The fields of a pool: `tables/pool.rs`

`Pool` carries the proof that its fields agree.  Here are the same operations on the bare
fields, with every access that checks its bounds and with what a panic leaves behind, since a
lock around the pool is released when a call panics.  On the fields of a `Pool` the operations
do what those of `Pool` do.  So the fields agree after every run of calls that stays inside the
pool, and nothing panics there.

`max_set` is another matter.  The scan of `remove` for the new highest slot leaves out the slot
next to the freed one, and it leaves `max_set` alone if it finds nothing.
-/

namespace Slim

/-- The panics of a pool: an access beyond its end, the two `expect`s of `insert`, the
    subtraction from `len`, and the assertion after the resizing. -/
inductive RawPool.Panic where
  | indexOutOfBounds (index : Nat)
  | insertAtFailed
  | poolIsFull
  | subtractWithOverflow
  | assertionFailed
deriving DecidableEq, Repr

structure RawPool (T : Type) where
  bitmap : List Bool
  pool : List (Option T)
  len : Nat
  capacity : Nat
  maxSet : Nat
deriving DecidableEq, Repr

namespace RawPool

variable {T : Type}

def withCapacity (capacity : Nat) : RawPool T where
  bitmap := List.replicate capacity false
  pool := List.replicate capacity none
  len := 0
  capacity := capacity
  maxSet := 0

def get (p : RawPool T) (index : Nat) : Option T := p.pool[index]?.join

/-- `bitmap.get(index).unwrap_or(false)`. -/
def isSet (p : RawPool T) (index : Nat) : Bool := p.bitmap[index]?.getD false

/-- `Vec::resize_with`. -/
def resizeWith (slots : List (Option T)) (length : Nat) : List (Option T) :=
  slots.take length ++ List.replicate (length - slots.length) none

/-- The resizing at the start of `insert`, with its assertion. -/
def reserve (p : RawPool T) : Except Panic Unit × RawPool T :=
  if p.len = p.capacity then
    let grown : RawPool T :=
      { p with
        pool := resizeWith p.pool (2 * p.capacity)
        bitmap := p.bitmap ++ List.replicate p.capacity false
        capacity := 2 * p.capacity }
    if grown.len < grown.capacity then (.ok (), grown) else (.error .assertionFailed, grown)
  else (.ok (), p)

/-- An index that is equal to the capacity passes the check, and is counted. -/
def insertAt (p : RawPool T) (element : T) (index : Nat) : Except Panic Bool × RawPool T :=
  if p.capacity < index then (.ok false, p)
  else
    let counted := { p with len := if p.isSet index then p.len else p.len + 1 }
    if index < counted.bitmap.length then
      let marked := { counted with bitmap := counted.bitmap.set index true }
      if index < marked.pool.length then
        (.ok true,
          { marked with
            pool := marked.pool.set index (some element)
            maxSet := if marked.maxSet < index then index else marked.maxSet })
      else (.error (.indexOutOfBounds index), marked)
    else (.error (.indexOutOfBounds index), counted)

def insert (p : RawPool T) (element : T) : Except Panic Nat × RawPool T :=
  match p.reserve with
  | (.error panic, p) => (.error panic, p)
  | (.ok (), p) =>
      match p.bitmap.findIdx? fun bit => !bit with
      | none => (.error .poolIsFull, p)
      | some index =>
          match p.insertAt element index with
          | (.error panic, p) => (.error panic, p)
          | (.ok false, p) => (.error .insertAtFailed, p)
          | (.ok true, p) => (.ok index, p)

/-- The scan runs over `(0..(index - 1)).rev()`. -/
def remove (p : RawPool T) (index : Nat) : Except Panic Bool × RawPool T :=
  if p.isSet index then
    let unmarked := { p with bitmap := p.bitmap.set index false }
    if index < unmarked.pool.length then
      let freed := { unmarked with pool := unmarked.pool.set index none }
      if freed.len = 0 then (.error .subtractWithOverflow, freed)
      else
        (.ok true,
          { freed with
            len := freed.len - 1
            maxSet :=
              if index = freed.maxSet ∧ index ≠ 0 then
                (Pool.lastSetBelow freed.bitmap (index - 1)).getD freed.maxSet
              else freed.maxSet })
    else (.error (.indexOutOfBounds index), unmarked)
  else (.ok false, p)

/-! ## The iterator -/

/-- The bits that are left, and the index of the first of them. -/
structure Iter where
  bits : List Bool
  currentIndex : Nat

/-- The loop of `next`: a set bit ends the call, with the element of its slot. -/
def nextFrom (p : RawPool T) : List Bool → Nat → Option T × Iter
  | [], index => (none, ⟨[], index⟩)
  | false :: bits, index => nextFrom p bits (index + 1)
  | true :: bits, index => (p.get index, ⟨bits, index + 1⟩)

def next (p : RawPool T) (iter : Iter) : Option T × Iter := nextFrom p iter.bits iter.currentIndex

/-- What the calls of `next` return up to the first `none`, which ends the iteration. -/
def collect (p : RawPool T) : Nat → Iter → List T
  | 0, _ => []
  | fuel + 1, iter =>
      match p.next iter with
      | (none, _) => []
      | (some element, iter) => element :: collect p fuel iter

/-- A call for each bit and one more are enough. -/
def iter (p : RawPool T) : List T := p.collect (p.bitmap.length + 1) ⟨p.bitmap, 0⟩

/-! ## `ConnectionTable::for_each` -/

def forEach (p : RawPool T) : List (Nat × T) :=
  (List.range (p.maxSet + 1)).filterMap fun index => (p.get index).map (index, ·)

end RawPool

/-! ## The fields of a pool -/

namespace Pool

variable {T : Type}

/-- The fields alone. -/
def raw (p : Pool T) : RawPool T := ⟨p.bitmap, p.pool, p.len, p.capacity, p.maxSet⟩

@[simp] theorem get_raw (p : Pool T) (index : Nat) : p.raw.get index = p.get index := rfl

theorem exists_raw_withCapacity {capacity : Nat} (hpos : 0 < capacity) :
    ∃ p : Pool T, RawPool.withCapacity capacity = p.raw := ⟨withCapacity capacity hpos, rfl⟩

theorem reserve_raw (p : Pool T) : p.raw.reserve = (.ok (), p.reserve.raw) := by
  have hpos := p.capacity_pos
  unfold RawPool.reserve reserve
  by_cases hfull : p.len = p.capacity
  · have hresize : RawPool.resizeWith p.pool (2 * p.capacity) =
        p.pool ++ List.replicate p.capacity none := by
      rw [RawPool.resizeWith, p.pool_length, List.take_of_length_le (by rw [p.pool_length]; omega)]
      congr 2
      omega
    rw [if_pos (show p.raw.len = p.raw.capacity from hfull), if_pos hfull]
    simp only [raw, grow, hresize]
    rw [if_pos (by omega)]
  · rw [if_neg (show ¬ p.raw.len = p.raw.capacity from hfull), if_neg hfull]

theorem insertAt_raw (p : Pool T) (element : T) {index : Nat} (hindex : index < p.capacity) :
    p.raw.insertAt element index = (.ok true, (p.place element index hindex).raw) := by
  have hbitmap : index < p.bitmap.length := by rw [p.bitmap_length]; exact hindex
  have hpool : index < p.pool.length := by rw [p.pool_length]; exact hindex
  unfold RawPool.insertAt
  rw [if_neg (show ¬ p.raw.capacity < index from Nat.lt_asymm hindex)]
  simp only [raw, hbitmap, hpool, if_true, place, RawPool.isSet]
  rfl

theorem insert_raw (p : Pool T) (element : T) :
    p.raw.insert element = (.ok (p.insert element).2, (p.insert element).1.raw) := by
  have hlt := firstUnset_lt (len_lt_capacity_reserve p)
  have hfound : p.reserve.raw.bitmap.findIdx? (fun bit => !bit) = some p.reserve.firstUnset := by
    rw [List.findIdx?_eq_some_iff_findIdx_eq]
    exact ⟨by rw [← p.reserve.bitmap_length] at hlt; exact hlt, rfl⟩
  simp only [RawPool.insert, reserve_raw, hfound, insertAt_raw p.reserve element hlt]
  rfl

theorem mem_of_getD_eq_true {bits : List Bool} {index : Nat}
    (hbit : bits[index]?.getD false = true) : true ∈ bits := by
  rcases hget : bits[index]? with _ | bit
  · rw [hget] at hbit
    cases hbit
  · rw [hget] at hbit
    exact List.mem_of_getElem? (hget.trans (congrArg some hbit))

theorem remove_raw (p : Pool T) (index : Nat) :
    p.raw.remove index = (.ok (p.remove index).1, (p.remove index).2.raw) := by
  unfold RawPool.remove remove
  by_cases hset : p.bitmap[index]?.getD false = true
  · have hindex : index < p.pool.length := by
      rw [p.pool_length]
      by_contra hle
      rw [bitmap_getElem?, p.get_of_capacity_le (Nat.not_lt.1 hle)] at hset
      cases hset
    have hlen : p.len ≠ 0 := by
      rw [p.len_eq, ← Nat.pos_iff_ne_zero, List.count_pos_iff]
      exact mem_of_getD_eq_true hset
    rw [if_pos (show p.raw.isSet index = true from hset), dif_pos hset]
    simp only [raw, hindex, if_true, hlen, if_false, release, maxSetAfterRemove]
    rfl
  · rw [if_neg (show ¬ p.raw.isSet index = true from hset), dif_neg hset]

theorem forEach_raw (p : Pool T) : p.raw.forEach = p.forEach := rfl

end Pool

/-! ## What the iterator yields -/

namespace RawPool

variable {T : Type}

theorem collect_unset (p : RawPool T) (fuel : Nat) (bits : List Bool) (index : Nat) :
    p.collect fuel ⟨false :: bits, index⟩ = p.collect fuel ⟨bits, index + 1⟩ := by
  cases fuel with
  | zero => rfl
  | succ fuel => rfl

theorem collect_set {p : RawPool T} {index : Nat} {element : T}
    (hget : p.get index = some element) (fuel : Nat) (bits : List Bool) :
    p.collect (fuel + 1) ⟨true :: bits, index⟩ = element :: p.collect fuel ⟨bits, index + 1⟩ := by
  simp only [collect, next, nextFrom, hget]

/-- Along slots that the bits describe the iterator yields what is in them. -/
theorem collect_slots (p : RawPool T) : ∀ (slots : List (Option T)) (index fuel : Nat),
    slots.length < fuel → (∀ j, p.pool[index + j]? = slots[j]?) →
      p.collect fuel ⟨slots.map Option.isSome, index⟩ = slots.filterMap id := by
  intro slots
  induction slots with
  | nil =>
      intro index fuel hfuel _
      obtain ⟨fuel, rfl⟩ := Nat.exists_eq_succ_of_ne_zero (Nat.ne_zero_of_lt hfuel)
      rfl
  | cons slot slots ih =>
      intro index fuel hfuel hslots
      have hfirst : p.get index = slot := by
        rw [get, ← Nat.add_zero index, hslots 0]
        rfl
      have hrest : ∀ j, p.pool[index + 1 + j]? = slots[j]? := by
        intro j
        rw [Nat.add_assoc, Nat.add_comm 1 j, hslots (j + 1)]
        rfl
      rcases slot with _ | element
      · rw [List.map_cons, Option.isSome_none, collect_unset]
        exact ih (index + 1) fuel (Nat.lt_of_succ_lt hfuel) hrest
      · obtain ⟨fuel, rfl⟩ := Nat.exists_eq_succ_of_ne_zero (Nat.ne_zero_of_lt hfuel)
        rw [List.map_cons, Option.isSome_some, collect_set hfirst,
          ih (index + 1) fuel (Nat.lt_of_succ_lt_succ hfuel) hrest]
        rfl

end RawPool

theorem Pool.iter_raw {T : Type} (p : Pool T) : p.raw.iter = p.pool.filterMap id := by
  have hbits : p.raw.bitmap = p.pool.map Option.isSome := p.bitmap_eq
  have hlength : p.pool.length < p.raw.bitmap.length + 1 := by
    rw [hbits, List.length_map]
    exact Nat.lt_succ_self _
  have hslots := p.raw.collect_slots p.pool 0 _ hlength fun j => by rw [Nat.zero_add]; rfl
  rwa [← hbits] at hslots

/-! ## Runs -/

inductive PoolCall (T : Type) where
  | insert (element : T)
  | insertAt (element : T) (index : Nat)
  | remove (index : Nat)

namespace RawPool

variable {T : Type}

/-- What a call leaves, and whether it panics. -/
def exec (p : RawPool T) : PoolCall T → Except Panic Unit × RawPool T
  | .insert element => ((p.insert element).1.map fun _ => (), (p.insert element).2)
  | .insertAt element index =>
      ((p.insertAt element index).1.map fun _ => (), (p.insertAt element index).2)
  | .remove index => ((p.remove index).1.map fun _ => (), (p.remove index).2)

def step (p : RawPool T) (call : PoolCall T) : RawPool T := (p.exec call).2

/-- An element is put below the capacity. -/
def Inside (p : RawPool T) : PoolCall T → Prop
  | .insertAt _ index => index < p.capacity
  | _ => True

def Returns (p : RawPool T) (call : PoolCall T) : Prop := (p.exec call).1 = .ok ()

end RawPool

namespace Pool

variable {T : Type}

/-- A call that stays inside the pool returns, and leaves the fields of a pool. -/
theorem exec_raw (p : Pool T) {call : PoolCall T} (hinside : p.raw.Inside call) :
    p.raw.Returns call ∧ ∃ q : Pool T, p.raw.step call = q.raw := by
  cases call with
  | insert element =>
      simp only [RawPool.Returns, RawPool.step, RawPool.exec, insert_raw]
      exact ⟨rfl, _, rfl⟩
  | insertAt element index =>
      simp only [RawPool.Returns, RawPool.step, RawPool.exec, p.insertAt_raw element hinside]
      exact ⟨rfl, _, rfl⟩
  | remove index =>
      simp only [RawPool.Returns, RawPool.step, RawPool.exec, remove_raw]
      exact ⟨rfl, _, rfl⟩

theorem exists_raw_step {reached : RawPool T} {call : PoolCall T}
    (hreached : ∃ p : Pool T, reached = p.raw) (hinside : reached.Inside call) :
    ∃ q : Pool T, reached.step call = q.raw := by
  obtain ⟨p, rfl⟩ := hreached
  exact (p.exec_raw hinside).2

end Pool

namespace RawPool

variable {T : Type} {p : Pool T} {index : Nat}

/-- The pool has an element in the slot. -/
def Occupied (p : RawPool T) (index : Nat) : Prop := (p.get index).isSome = true

/-- Only this slot has changed. -/
def SameBut (index : Nat) (p q : RawPool T) : Prop :=
  ∀ other, other ≠ index → q.get other = p.get other

/-- The fields agree, and so does what the next call does. -/
structure Bookkeeping (p : RawPool T) : Prop where
  bitmap_length : p.bitmap.length = p.capacity
  pool_length : p.pool.length = p.capacity
  bit_iff : ∀ index : Nat,
    p.bitmap[index]? = some true ↔ ∃ element, p.pool[index]? = some (some element)
  len_eq : p.len = p.bitmap.count true
  insert : ∀ element, ∃ index q, p.insert element = (.ok index, q) ∧ ¬ p.Occupied index ∧
    (∀ lower, lower < index → p.Occupied lower) ∧ q.get index = some element ∧ SameBut index p q
  insertAt : ∀ element index, index < p.capacity → ∃ q, p.insertAt element index = (.ok true, q) ∧
    q.get index = some element ∧ SameBut index p q
  remove : ∀ index, ∃ removed q, p.remove index = (.ok removed, q) ∧
    (removed = true ↔ p.Occupied index) ∧ q.get index = none ∧ SameBut index p q
  iter : p.iter = p.pool.filterMap id

theorem bookkeeping_raw (p : Pool T) : p.raw.Bookkeeping where
  bitmap_length := p.bitmap_length
  pool_length := p.pool_length
  bit_iff := by
    intro index
    have hbits : p.raw.bitmap = p.raw.pool.map Option.isSome := p.bitmap_eq
    rw [hbits, List.getElem?_map]
    rcases p.raw.pool[index]? with _ | _ | element <;> simp
  len_eq := p.len_eq
  insert := by
    intro element
    refine ⟨_, _, p.insert_raw element, ?_, ?_, ?_, ?_⟩
    · simp [Occupied, Pool.get_insert_index]
    · intro lower hlower
      exact Pool.isSome_get_of_lt_insert_index hlower
    · rw [Pool.get_raw, Pool.get_insert, if_pos rfl]
    · intro other hother
      rw [Pool.get_raw, Pool.get_insert, if_neg hother, Pool.get_raw]
  insertAt := by
    intro element index hinside
    have hindex : index < p.capacity := hinside
    refine ⟨_, p.insertAt_raw element hindex, ?_, ?_⟩
    · rw [Pool.get_raw, Pool.get_place, if_pos rfl]
    · intro other hother
      rw [Pool.get_raw, Pool.get_place, if_neg hother, Pool.get_raw]
  remove := by
    intro index
    refine ⟨_, _, p.remove_raw index, ?_, ?_, ?_⟩
    · rw [Pool.remove_fst]
      rfl
    · rw [Pool.get_raw, Pool.get_remove, if_pos rfl]
    · intro other hother
      rw [Pool.get_raw, Pool.get_remove, if_neg hother, Pool.get_raw]
  iter := p.iter_raw

/-- A run that stays inside the pool reaches the fields of a pool. -/
theorem exists_raw_run {capacity : Nat} (hpos : 0 < capacity) {calls : List (PoolCall T)}
    (hinside : Runs.Along step Inside (withCapacity capacity) calls) :
    ∃ p : Pool T, Runs.run step (withCapacity capacity) calls = p.raw := by
  apply Runs.run_invariant (I := fun reached => ∃ p : Pool T, reached = p.raw) ?_ calls _ hinside
    (Pool.exists_raw_withCapacity hpos)
  intro reached call hreached hcall
  exact Pool.exists_raw_step hreached hcall

/-- After every sequence of calls that stay inside the pool the fields agree, and none of the
    calls has panicked. -/
theorem bookkeeping_of_calls (capacity : Nat) (hpos : 0 < capacity) (calls : List (PoolCall T))
    (hinside : Runs.Along step Inside (withCapacity capacity) calls) :
    Runs.Along step Returns (withCapacity capacity) calls ∧
      (Runs.run step (withCapacity capacity) calls).Bookkeeping := by
  constructor
  · apply Runs.along_of_invariant (I := fun reached => ∃ p : Pool T, reached = p.raw) ?_ ?_ calls _
      hinside (Pool.exists_raw_withCapacity hpos)
    · intro reached call hreached hcall
      exact Pool.exists_raw_step hreached hcall
    · rintro _ call ⟨p, rfl⟩ hcall
      exact (p.exec_raw hcall).1
  · obtain ⟨p, hp⟩ := exists_raw_run hpos hinside
    rw [hp]
    exact bookkeeping_raw p

/-- A pool of two slots that grows, with a slot written twice and a slot freed. -/
theorem bookkeeping_of_calls_sample :
    let calls :=
      [.insert 'a', .insert 'b', .insert 'c', .insertAt 'd' 3, .insertAt 'e' 1, .remove 0]
    Runs.Along step Inside (withCapacity 2) calls ∧
      (Runs.run step (withCapacity 2) calls).Bookkeeping ∧
      (Runs.run step (withCapacity 2) calls).iter = ['e', 'c', 'd'] := by
  have hinside : Runs.Along step Inside (withCapacity 2)
      [.insert 'a', .insert 'b', .insert 'c', .insertAt 'd' 3, .insertAt 'e' 1, .remove 0] := by
    refine ⟨trivial, trivial, trivial, ?_, ?_, trivial, trivial⟩
    · show 3 < 4
      decide
    · show 1 < 4
      decide
  exact ⟨hinside, (bookkeeping_of_calls 2 (by decide) _ hinside).2, rfl⟩

/-! ## Is `max_set` the greatest occupied index? -/

def Empty (p : RawPool T) : Prop := ∀ index, ¬ p.Occupied index

/-- `max_set` is the greatest occupied index, unless there is none. -/
def MaxSetExact (p : RawPool T) : Prop :=
  ¬ p.Empty → IsGreatest {index | p.Occupied index} p.maxSet

/-- `for_each` visits every element once. -/
def VisitsEachOnce (p : RawPool T) : Prop :=
  p.forEach.Nodup ∧ ∀ index element, (index, element) ∈ p.forEach ↔ p.get index = some element

/-- The calls after which `max_set` is wrong: the highest element is removed and the slot below
    it is occupied, or an element is put below a `max_set` that was left over in an empty pool. -/
def Spoils (p : RawPool T) : PoolCall T → Prop
  | .insert _ => p.Empty ∧ 0 < p.maxSet
  | .insertAt _ index => p.Empty ∧ index < p.maxSet
  | .remove index =>
      index = p.maxSet ∧ p.Occupied index ∧ ∃ below, below + 1 = index ∧ p.Occupied below

/-- An element is put into a slot. -/
theorem MaxSetExact.put_iff {p q : RawPool T} (hexact : p.MaxSetExact)
    (hoccupied : ∀ other, q.Occupied other ↔ other = index ∨ p.Occupied other)
    (hmaxSet : q.maxSet = max p.maxSet index) :
    q.MaxSetExact ↔ ¬ (p.Empty ∧ index < p.maxSet) := by
  have hfilled : ¬ q.Empty := fun hempty => hempty index ((hoccupied index).2 (.inl rfl))
  simp only [MaxSetExact, hfilled, not_false_eq_true, forall_const, IsGreatest, mem_upperBounds,
    Set.mem_ofPred_eq, hoccupied, hmaxSet]
  by_cases hempty : p.Empty
  · -- the only element is the new one
    simp only [hempty, hempty _, or_false, true_and, Nat.not_lt, forall_eq]
    omega
  · obtain ⟨htop, hbound⟩ := hexact hempty
    refine iff_of_true ⟨?_, ?_⟩ fun hspoilt => hempty hspoilt.1
    · rcases Nat.le_total p.maxSet index with hle | hle
      · exact .inl (Nat.max_eq_right hle)
      · exact .inr (by rwa [Nat.max_eq_left hle])
    · rintro other (rfl | hother)
      · exact Nat.le_max_right _ _
      · exact Nat.le_trans (hbound hother) (Nat.le_max_left _ _)

theorem occupied_remove (p : Pool T) (index other : Nat) :
    (p.remove index).2.raw.Occupied other ↔ other ≠ index ∧ p.raw.Occupied other := by
  by_cases hsame : other = index <;> simp [Occupied, Pool.get_remove, hsame]

theorem maxSet_remove (hthere : p.raw.Occupied index) :
    (p.remove index).2.raw.maxSet = p.maxSetAfterRemove index :=
  Pool.maxSet_remove_of_isSome hthere

/-- The slot below the highest element is left out of the scan. -/
theorem not_maxSetExact_remove {below : Nat} (hlast : index = p.maxSet)
    (hthere : p.raw.Occupied index) (hindex : below + 1 = index) (hbelow : p.raw.Occupied below) :
    ¬ (p.remove index).2.raw.MaxSetExact := by
  intro hafter
  have hleft : (p.remove index).2.raw.Occupied below :=
    (occupied_remove p index below).2 ⟨by omega, hbelow⟩
  obtain ⟨htop, hbound⟩ := hafter fun hempty => hempty below hleft
  have hle : below ≤ (p.remove index).2.raw.maxSet := hbound hleft
  have hne := ((occupied_remove p index _).1 htop).1
  rw [maxSet_remove hthere, Pool.maxSetAfterRemove, if_pos ⟨hlast, by omega⟩] at hle hne
  rcases hscan : Pool.lastSetBelow (p.bitmap.set index false) (index - 1) with _ | found
  · rw [hscan] at hne
    exact hne hlast.symm
  · obtain ⟨hlt, -, -⟩ := Pool.lastSetBelow_spec hscan
    rw [hscan, Option.getD_some] at hle
    omega

/-- If the slot below it is free, the scan finds the highest element that is left. -/
theorem maxSetExact_remove_last (hlast : index = p.maxSet) (hthere : p.raw.Occupied index)
    (hbound : ∀ other, p.raw.Occupied other → other ≤ p.maxSet)
    (hbelow : ∀ below, below + 1 = index → ¬ p.raw.Occupied below) :
    (p.remove index).2.raw.MaxSetExact := by
  intro hfilled
  obtain ⟨other, hother⟩ := not_forall_not.1 hfilled
  have hreached : ∀ other, (p.remove index).2.raw.Occupied other →
      other < index - 1 ∧ (p.bitmap.set index false)[other]?.getD false = true := by
    intro other hother
    obtain ⟨hne, hbefore⟩ := (occupied_remove p index other).1 hother
    have hle := hbound other hbefore
    have hnext : other + 1 ≠ index := fun heq => hbelow other heq hbefore
    exact ⟨by omega, (p.bit_set_of_ne hne false).trans hbefore⟩
  have hlt := (hreached other hother).1
  rw [maxSet_remove hthere, Pool.maxSetAfterRemove, if_pos ⟨hlast, by omega⟩]
  rcases hscan : Pool.lastSetBelow (p.bitmap.set index false) (index - 1) with _ | found
  · have hbit := Pool.lastSetBelow_eq_none hscan other hlt
    rw [(hreached other hother).2] at hbit
    cases hbit
  · obtain ⟨hfound, hset, hhighest⟩ := Pool.lastSetBelow_spec hscan
    have hne : found ≠ index := by omega
    rw [Option.getD_some]
    constructor
    · exact (occupied_remove p index found).2 ⟨hne, (p.bit_set_of_ne hne false).symm.trans hset⟩
    · intro lower hlower
      exact hhighest lower (hreached lower hlower).1 (hreached lower hlower).2

/-- An element is taken out of its slot. -/
theorem maxSetExact_remove_iff (hexact : p.raw.MaxSetExact) (index : Nat) :
    (p.remove index).2.raw.MaxSetExact ↔ ¬ p.raw.Spoils (.remove index) := by
  by_cases hthere : p.raw.Occupied index
  · obtain ⟨htop, hbound⟩ := hexact fun hempty => hempty index hthere
    by_cases hlast : index = p.maxSet
    · constructor
      · rintro hafter ⟨-, -, below, hindex, hbelow⟩
        exact not_maxSetExact_remove hlast hthere hindex hbelow hafter
      · intro hsafe
        apply maxSetExact_remove_last hlast hthere
        · intro other hother
          exact hbound hother
        · intro below hindex hbelow
          exact hsafe ⟨hlast, hthere, below, hindex, hbelow⟩
    · -- the highest element stays
      refine iff_of_true ?_ fun hspoilt => hlast hspoilt.1
      intro _
      rw [maxSet_remove hthere, Pool.maxSetAfterRemove, if_neg fun hboth => hlast hboth.1]
      refine ⟨(occupied_remove p index _).2 ⟨Ne.symm hlast, htop⟩, ?_⟩
      intro other hother
      exact hbound ((occupied_remove p index other).1 hother).2
  · rw [Pool.remove_of_not_isSome hthere]
    exact iff_of_true hexact fun hspoilt => hthere hspoilt.2.1

theorem maxSetExact_place_iff (hexact : p.raw.MaxSetExact) (element : T)
    (hindex : index < p.capacity) :
    (p.place element index hindex).raw.MaxSetExact ↔ ¬ (p.raw.Empty ∧ index < p.raw.maxSet) := by
  apply hexact.put_iff
  · intro other
    by_cases hsame : other = index <;> simp [Occupied, Pool.get_place, hsame]
  · exact p.maxSet_place element index hindex

/-- An empty pool is filled from slot 0. -/
theorem insert_index_of_empty (hempty : p.raw.Empty) (element : T) :
    (p.insert element).2 = 0 := by
  by_contra hpos
  exact hempty 0 (Pool.isSome_get_of_lt_insert_index (Nat.pos_of_ne_zero hpos))

theorem maxSetExact_insert_iff (hexact : p.raw.MaxSetExact) (element : T) :
    (p.insert element).1.raw.MaxSetExact ↔ ¬ p.raw.Spoils (.insert element) := by
  have hiff : (p.insert element).1.raw.MaxSetExact ↔
      ¬ (p.raw.Empty ∧ (p.insert element).2 < p.raw.maxSet) := by
    apply hexact.put_iff
    · intro other
      by_cases hsame : other = (p.insert element).2 <;> simp [Occupied, Pool.get_insert, hsame]
    · have hmaxSet := p.reserve.maxSet_place element p.reserve.firstUnset
        (Pool.firstUnset_lt p.len_lt_capacity_reserve)
      rwa [Pool.maxSet_reserve] at hmaxSet
  rw [hiff]
  apply not_congr
  apply and_congr_right
  intro hempty
  rw [insert_index_of_empty hempty]

/-- One call keeps `max_set` right exactly if it is none of those that `Spoils` describes. -/
theorem maxSetExact_step_iff (hexact : p.raw.MaxSetExact) {call : PoolCall T}
    (hinside : p.raw.Inside call) : (p.raw.step call).MaxSetExact ↔ ¬ p.raw.Spoils call := by
  cases call with
  | insert element =>
      simp only [step, exec, Pool.insert_raw]
      exact maxSetExact_insert_iff hexact element
  | insertAt element index =>
      simp only [step, exec, p.insertAt_raw element hinside]
      exact maxSetExact_place_iff hexact element hinside
  | remove index =>
      simp only [step, exec, Pool.remove_raw]
      exact maxSetExact_remove_iff hexact index

/-- What `for_each` visits, if `max_set` is right. -/
theorem visitsEachOnce_of_maxSetExact (hexact : p.raw.MaxSetExact) :
    p.raw.VisitsEachOnce := by
  rw [VisitsEachOnce, Pool.forEach_raw]
  refine ⟨p.nodup_elementsAt List.nodup_range, ?_⟩
  intro index element
  rw [Pool.forEach, Pool.mem_elementsAt, List.mem_range, Pool.get_raw, and_iff_right_iff_imp]
  intro hget
  have hoccupied : p.raw.Occupied index := by
    rw [Occupied, Pool.get_raw, hget]
    rfl
  have hle : index ≤ p.maxSet := (hexact fun hempty => hempty index hoccupied).2 hoccupied
  omega

/-- From beginning to end of a run `max_set` is the greatest occupied index, and `for_each` visits
    every element once, exactly if no call of the run removes the highest element from above
    another one or puts an element below the `max_set` of an emptied pool. -/
theorem max_set_exact_iff (capacity : Nat) (hpos : 0 < capacity) (calls : List (PoolCall T))
    (hinside : Runs.Along step Inside (withCapacity capacity) calls) :
    (∀ done, done <+: calls →
      (Runs.run step (withCapacity capacity) done).MaxSetExact ∧
        (Runs.run step (withCapacity capacity) done).VisitsEachOnce) ↔
      Runs.Along step (fun p call => ¬ p.Spoils call) (withCapacity capacity) calls := by
  have hempty : (withCapacity capacity : RawPool T).Empty := by
    intro index
    simp only [Occupied, get, withCapacity, List.getElem?_replicate]
    split <;> simp
  have halways := Runs.always_iff (J := fun reached => ∃ p : Pool T, reached = p.raw)
    (I := MaxSetExact) (K := fun p call => ¬ p.Spoils call)
    (fun _ _ hreached hcall => Pool.exists_raw_step hreached hcall)
    (by
      rintro _ call ⟨p, rfl⟩ hexact hcall
      exact maxSetExact_step_iff hexact hcall)
    calls _ hinside (Pool.exists_raw_withCapacity hpos) (fun hfilled => absurd hempty hfilled)
  rw [← halways]
  apply forall₂_congr
  intro done hdone
  rw [and_iff_left_iff_imp]
  intro hexact
  obtain ⟨rest, rfl⟩ := hdone
  obtain ⟨p, hp⟩ := exists_raw_run hpos ((Runs.along_append done rest _).1 hinside).1
  rw [hp] at hexact ⊢
  exact visitsEachOnce_of_maxSetExact hexact

/-- The second of two elements is removed: `max_set` stays at the freed slot.  The third of three
    is removed: `max_set` goes down to the first one, and `for_each` does not visit the second.
    The elements are removed from below: `max_set` stays, and is too high for the next element. -/
theorem max_set_wrong :
    let two := Runs.run step (withCapacity 4) [.insert 'a', .insert 'b', .remove 1]
    let three := Runs.run step (withCapacity 4) [.insert 'a', .insert 'b', .insert 'c', .remove 2]
    let emptied := Runs.run step (withCapacity 4)
      [.insert 'a', .insert 'b', .remove 0, .remove 1, .insert 'c']
    (two.get two.maxSet = none ∧ ¬ two.MaxSetExact) ∧
      (three.get 1 = some 'b' ∧ three.forEach = [(0, 'a')] ∧ ¬ three.VisitsEachOnce) ∧
      emptied.pool = [some 'c', none, none, none] ∧ emptied.maxSet = 1 ∧ ¬ emptied.MaxSetExact := by
  refine ⟨⟨rfl, ?_⟩, ⟨rfl, rfl, ?_⟩, rfl, rfl, ?_⟩
  · intro hexact
    exact Bool.false_ne_true (hexact fun hempty => hempty 0 rfl).1
  · rintro ⟨-, hvisits⟩
    exact absurd ((hvisits 1 'b').2 rfl) (by decide)
  · intro hexact
    exact Bool.false_ne_true (hexact fun hempty => hempty 0 rfl).1

/-- Elements are removed from the top, with a free slot below the last one. -/
theorem max_set_exact_sample :
    let calls := [.insert 'a', .insertAt 'b' 2, .remove 2, .insert 'c']
    Runs.Along step Inside (withCapacity 4) calls ∧
      ∀ done, done <+: calls →
        (Runs.run step (withCapacity 4) done).MaxSetExact ∧
          (Runs.run step (withCapacity 4) done).VisitsEachOnce := by
  have hinside : Runs.Along step Inside (withCapacity 4)
      [.insert 'a', .insertAt 'b' 2, .remove 2, .insert 'c'] := by
    refine ⟨trivial, ?_, trivial, trivial, trivial⟩
    show 2 < 4
    decide
  refine ⟨hinside, (max_set_exact_iff 4 (by decide) _ hinside).2 ⟨?_, ?_, ?_, ?_, trivial⟩⟩
  · rintro ⟨-, hlt⟩
    exact absurd hlt (by decide)
  · rintro ⟨hempty, -⟩
    exact hempty 0 rfl
  · rintro ⟨-, -, below, hindex, hbelow⟩
    obtain rfl : below = 1 := by omega
    cases hbelow
  · rintro ⟨hempty, -⟩
    exact hempty 0 rfl

end RawPool

end Slim
