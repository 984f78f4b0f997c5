import Mathlib.Data.List.Perm.Subperm
import Mathlib.Data.List.Nodup
import Mathlib.Data.List.Range
import Mathlib.Tactic.Linarith

/-!
# The pool of `tables/pool.rs`

A pool stores elements in numbered slots.  `bitmap` says which slots are taken,
`len` how many, and `maxSet` is meant to be the highest taken slot.  The proof
fields hold for every pool the constructor and the operations build, so `insert`
always finds a free slot and its two panics cannot be reached; nothing is assumed
about `maxSet`, which `remove` does not keep exact.

`insert_at` compares the index with `capacity` by `<` and then accesses the slot,
so the index equal to the capacity panics.
-/

namespace Slim

/-- The ways in which the modelled code panics. -/
inductive PoolPanic where
  | indexOutOfBounds (index : Nat)
deriving DecidableEq, Repr

structure Pool (T : Type) where
  bitmap : List Bool
  pool : List (Option T)
  len : Nat
  capacity : Nat
  maxSet : Nat
  capacity_pos : 0 < capacity
  pool_length : pool.length = capacity
  bitmap_eq : bitmap = pool.map Option.isSome
  len_eq : len = bitmap.count true

namespace Pool

variable {T : Type}

def withCapacity (capacity : Nat) (hpos : 0 < capacity) : Pool T where
  bitmap := List.replicate capacity false
  pool := List.replicate capacity none
  len := 0
  capacity := capacity
  maxSet := 0
  capacity_pos := hpos
  pool_length := List.length_replicate
  bitmap_eq := by simp
  len_eq := by simp [List.count_replicate]

def get (p : Pool T) (index : Nat) : Option T := p.pool[index]?.join

/-- What a caller does through `get_mut`: change the element of a slot, if any. -/
def modify (p : Pool T) (index : Nat) (f : T → T) : Pool T where
  bitmap := p.bitmap
  pool := p.pool.modify index (Option.map f)
  len := p.len
  capacity := p.capacity
  maxSet := p.maxSet
  capacity_pos := p.capacity_pos
  pool_length := by rw [List.length_modify, p.pool_length]
  bitmap_eq := by
    rw [p.bitmap_eq]
    refine List.ext_getElem? fun i => ?_
    simp only [List.getElem?_map, List.getElem?_modify]
    rcases p.pool[i]? with _ | slot
    · rfl
    · by_cases h : index = i <;> simp [h]
  len_eq := p.len_eq

theorem bitmap_length (p : Pool T) : p.bitmap.length = p.capacity := by
  rw [p.bitmap_eq, List.length_map, p.pool_length]

theorem bitmap_getElem? (p : Pool T) (index : Nat) :
    p.bitmap[index]?.getD false = (p.get index).isSome := by
  rw [p.bitmap_eq, get, List.getElem?_map]
  rcases p.pool[index]? with _ | slot
  · rfl
  · rfl

theorem get_of_capacity_le (p : Pool T) {index : Nat} (hindex : p.capacity ≤ index) :
    p.get index = none := by
  rw [get, List.getElem?_eq_none (by rw [p.pool_length]; exact hindex)]
  rfl

/-! ## Insertion -/

variable {p : Pool T} {index : Nat} {element : T}

/-- The resizing at the start of `insert`. -/
def grow (p : Pool T) : Pool T where
  bitmap := p.bitmap ++ List.replicate p.capacity false
  pool := p.pool ++ List.replicate p.capacity none
  len := p.len
  capacity := 2 * p.capacity
  maxSet := p.maxSet
  capacity_pos := by have := p.capacity_pos; omega
  pool_length := by rw [List.length_append, p.pool_length, List.length_replicate]; omega
  bitmap_eq := by rw [p.bitmap_eq]; simp
  len_eq := by rw [p.len_eq]; simp [List.count_replicate]

def reserve (p : Pool T) : Pool T := if p.len = p.capacity then p.grow else p

theorem get_grow (p : Pool T) (index : Nat) : p.grow.get index = p.get index := by
  by_cases hindex : index < p.pool.length
  · simp [get, grow, List.getElem?_append_left hindex]
  · have hnone : p.pool[index]? = none := List.getElem?_eq_none (by omega)
    simp only [get, grow, List.getElem?_append_right (Nat.not_lt.mp hindex), hnone,
      List.getElem?_replicate]
    split <;> rfl

theorem get_reserve (p : Pool T) (index : Nat) : p.reserve.get index = p.get index := by
  unfold reserve
  split
  · exact get_grow p index
  · rfl

theorem maxSet_reserve (p : Pool T) : p.reserve.maxSet = p.maxSet := by
  unfold reserve
  split <;> rfl

theorem len_le_capacity (p : Pool T) : p.len ≤ p.capacity := by
  rw [p.len_eq, ← bitmap_length]
  exact List.count_le_length

theorem len_lt_capacity_reserve (p : Pool T) : p.reserve.len < p.reserve.capacity := by
  have hle := len_le_capacity p
  have hpos := p.capacity_pos
  unfold reserve
  split
  · simp only [grow]; omega
  · omega

/-- The position of the first unset bit. -/
def firstUnset (p : Pool T) : Nat := p.bitmap.findIdx fun bit => !bit

theorem firstUnset_lt (hfree : p.len < p.capacity) : p.firstUnset < p.capacity := by
  rw [← bitmap_length, firstUnset, List.findIdx_lt_length]
  by_contra hno
  -- with every bit set, `len` would be the capacity
  have hall : ∀ bit ∈ p.bitmap, true = bit := by
    intro bit hbit
    rcases hval : bit with _ | _
    · exact absurd ⟨bit, hbit, by simp [hval]⟩ hno
    · rfl
  have hcount : p.bitmap.count true = p.bitmap.length := List.count_eq_length.2 hall
  rw [← p.len_eq, bitmap_length] at hcount
  omega

theorem get_firstUnset (p : Pool T) : p.get p.firstUnset = none := by
  by_cases hlt : p.firstUnset < p.bitmap.length
  · have hbit : (!p.bitmap[p.firstUnset]) = true := List.findIdx_getElem (w := hlt)
    have hfalse : p.bitmap[p.firstUnset] = false := by simpa only [Bool.not_eq_true'] using hbit
    have hsome := bitmap_getElem? p p.firstUnset
    rw [List.getElem?_eq_getElem hlt, Option.getD_some, hfalse] at hsome
    exact Option.isNone_iff_eq_none.mp (by simpa using hsome.symm)
  · exact get_of_capacity_le p (by rw [← bitmap_length]; omega)

/-- Every slot below the first unset bit is taken. -/
theorem isSome_get_of_lt_firstUnset (hlt : index < p.firstUnset) :
    (p.get index).isSome = true := by
  have hlen : index < p.bitmap.length := lt_of_lt_of_le hlt List.findIdx_le_length
  have hbit := List.not_of_lt_findIdx hlt
  rw [← bitmap_getElem?, List.getElem?_eq_getElem hlen, Option.getD_some]
  simpa using hbit

theorem count_set_true {bits : List Bool} (hindex : index < bits.length) :
    (bits.set index true).count true =
      if bits[index]?.getD false = true then bits.count true else bits.count true + 1 := by
  rw [List.getElem?_eq_getElem hindex, Option.getD_some, List.count_set hindex]
  rcases hbit : bits[index] with _ | _
  · simp
  · have hpos : 0 < bits.count true := by
      rw [List.count_pos_iff]
      exact hbit ▸ List.getElem_mem hindex
    simp only [beq_self_eq_true, if_true]
    omega

/-- The body of `insert_at` for an index inside the pool. -/
def place (p : Pool T) (element : T) (index : Nat) (hindex : index < p.capacity) : Pool T where
  bitmap := p.bitmap.set index true
  pool := p.pool.set index (some element)
  len := if p.bitmap[index]?.getD false then p.len else p.len + 1
  capacity := p.capacity
  maxSet := if p.maxSet < index then index else p.maxSet
  capacity_pos := p.capacity_pos
  pool_length := by rw [List.length_set, p.pool_length]
  bitmap_eq := by rw [List.map_set, ← p.bitmap_eq]; rfl
  len_eq := by
    rw [count_set_true (by rw [bitmap_length]; exact hindex), p.len_eq]

def insertAt (p : Pool T) (element : T) (index : Nat) : Except PoolPanic (Bool × Pool T) :=
  if p.capacity < index then
    .ok (false, p)
  else if hindex : index < p.capacity then
    .ok (true, p.place element index hindex)
  else
    .error (.indexOutOfBounds index)

def insert (p : Pool T) (element : T) : Pool T × Nat :=
  (p.reserve.place element p.reserve.firstUnset (firstUnset_lt (len_lt_capacity_reserve p)),
    p.reserve.firstUnset)

theorem get_place (p : Pool T) (element : T) (index : Nat) (hindex : index < p.capacity)
    (other : Nat) :
    (p.place element index hindex).get other = if other = index then some element
      else p.get other := by
  simp only [get, place, List.getElem?_set, p.pool_length, hindex, if_true]
  by_cases h : other = index
  · simp [h]
  · rw [if_neg (fun heq => h heq.symm), if_neg h]

theorem get_insert (p : Pool T) (element : T) (index : Nat) :
    (p.insert element).1.get index =
      if index = (p.insert element).2 then some element else p.get index := by
  rw [insert, get_place, get_reserve]

/-- `insert` hands out a free slot. -/
theorem get_insert_index (p : Pool T) (element : T) : p.get (p.insert element).2 = none := by
  rw [← get_reserve]
  exact get_firstUnset p.reserve

/-- `insert` hands out the lowest free slot. -/
theorem isSome_get_of_lt_insert_index
    (hlt : index < (p.insert element).2) : (p.get index).isSome = true := by
  rw [← get_reserve]
  exact isSome_get_of_lt_firstUnset hlt

theorem get_modify (p : Pool T) (index : Nat) (f : T → T) (other : Nat) :
    (p.modify index f).get other =
      if other = index then (p.get other).map f else p.get other := by
  simp only [get, modify, List.getElem?_modify]
  by_cases h : index = other
  · subst h
    rcases p.pool[index]? with _ | slot <;> simp
  · rw [if_neg fun heq => h heq.symm]
    simp [h]

/-! ## Removal -/

theorem count_set_false {bits : List Bool} (hbit : bits[index]?.getD false = true) :
    (bits.set index false).count true = bits.count true - 1 := by
  have hindex : index < bits.length := by
    by_contra hle
    rw [List.getElem?_eq_none (by omega)] at hbit
    cases hbit
  rw [List.getElem?_eq_getElem hindex, Option.getD_some] at hbit
  rw [List.count_set hindex, hbit]
  simp

/-- The highest set position below `bound`, searched from the top. -/
def lastSetBelow (bits : List Bool) : Nat → Option Nat
  | 0 => none
  | i + 1 => if bits[i]?.getD false then some i else lastSetBelow bits i

/-- `max_set` after slot `index` is freed.  The loop of `remove` runs over
    `(0..(index - 1)).rev()`, so position `index - 1` is not among those searched. -/
def maxSetAfterRemove (p : Pool T) (index : Nat) : Nat :=
  if index = p.maxSet ∧ index ≠ 0 then
    (lastSetBelow (p.bitmap.set index false) (index - 1)).getD p.maxSet
  else p.maxSet

/-- `remove` for a slot whose bit is set. -/
def release (p : Pool T) (index : Nat) (hbit : p.bitmap[index]?.getD false = true) : Pool T where
  bitmap := p.bitmap.set index false
  pool := p.pool.set index none
  len := p.len - 1
  capacity := p.capacity
  maxSet := p.maxSetAfterRemove index
  capacity_pos := p.capacity_pos
  pool_length := by rw [List.length_set, p.pool_length]
  bitmap_eq := by rw [List.map_set, ← p.bitmap_eq]; rfl
  len_eq := by rw [count_set_false hbit, p.len_eq]

def remove (p : Pool T) (index : Nat) : Bool × Pool T :=
  if hbit : p.bitmap[index]?.getD false = true then (true, p.release index hbit)
  else (false, p)

theorem remove_fst (p : Pool T) (index : Nat) : (p.remove index).1 = (p.get index).isSome := by
  rw [← bitmap_getElem?]
  unfold remove
  split
  next hbit => exact hbit.symm
  next hbit => simpa using hbit

theorem get_remove (p : Pool T) (index other : Nat) :
    (p.remove index).2.get other = if other = index then none else p.get other := by
  unfold remove
  split
  next hbit =>
    simp only [get, release, List.getElem?_set]
    by_cases h : other = index
    · subst h
      simp only [if_true]
      split <;> rfl
    · rw [if_neg (fun heq => h heq.symm), if_neg h]
  next hbit =>
    by_cases h : other = index
    · subst h
      rw [bitmap_getElem?] at hbit
      rw [if_pos rfl]
      exact Option.isNone_iff_eq_none.mp (by simpa using hbit)
    · rw [if_neg h]

theorem remove_of_not_isSome (hfree : ¬ (p.get index).isSome = true) :
    p.remove index = (false, p) := by
  rw [remove, dif_neg (by rw [bitmap_getElem?]; exact hfree)]

theorem maxSet_remove_of_isSome (hsome : (p.get index).isSome = true) :
    (p.remove index).2.maxSet = p.maxSetAfterRemove index := by
  have hbit : p.bitmap[index]?.getD false = true := by rw [bitmap_getElem?]; exact hsome
  rw [remove, dif_pos hbit]
  rfl

/-! ## Does `max_set` cover the taken slots?

`max_set` covers a pool when no taken slot lies above it.  `insert` keeps this.
`remove` looks for the new highest slot among the positions below `index - 1`, so
it overlooks the slot next to the freed one. -/

def Covered (p : Pool T) : Prop := ∀ index, (p.get index).isSome = true → index ≤ p.maxSet

/-- Freeing slot `index` moves `max_set` below a slot that stays taken. -/
def Uncovers (p : Pool T) (index : Nat) : Prop :=
  index = p.maxSet ∧ (∃ below, below + 1 = index ∧ (p.get below).isSome = true) ∧
    ∃ lower, lower + 1 < index ∧ (p.get lower).isSome = true

theorem covered_withCapacity (capacity : Nat) (hpos : 0 < capacity) :
    (withCapacity capacity hpos : Pool T).Covered := by
  intro index hsome
  simp only [get, withCapacity, List.getElem?_replicate] at hsome
  split at hsome <;> cases hsome

theorem maxSet_place (p : Pool T) (element : T) (index : Nat) (hindex : index < p.capacity) :
    (p.place element index hindex).maxSet = max p.maxSet index := by
  simp only [place]
  split <;> omega

theorem Covered.place (hcovered : p.Covered) (element : T) (index : Nat)
    (hindex : index < p.capacity) : (p.place element index hindex).Covered := by
  intro other hsome
  rw [maxSet_place]
  rw [get_place] at hsome
  by_cases h : other = index
  · omega
  · rw [if_neg h] at hsome
    have := hcovered other hsome
    omega

theorem Covered.insert (hcovered : p.Covered) (element : T) :
    (p.insert element).1.Covered := by
  refine Covered.place (p := p.reserve) (fun index hsome => ?_) element p.reserve.firstUnset
    (firstUnset_lt (len_lt_capacity_reserve p))
  rw [get_reserve] at hsome
  rw [maxSet_reserve]
  exact hcovered index hsome

theorem Covered.modify (hcovered : p.Covered) (index : Nat) (f : T → T) :
    (p.modify index f).Covered := by
  intro other hsome
  rw [get_modify] at hsome
  refine hcovered other ?_
  split at hsome
  · simpa using hsome
  · exact hsome

theorem lastSetBelow_spec {bits : List Bool} {bound found : Nat}
    (hfound : lastSetBelow bits bound = some found) :
    found < bound ∧ bits[found]?.getD false = true ∧
      ∀ i, i < bound → bits[i]?.getD false = true → i ≤ found := by
  induction bound with
  | zero => cases hfound
  | succ bound ih =>
      simp only [lastSetBelow] at hfound
      by_cases hbit : bits[bound]?.getD false = true
      · rw [if_pos hbit] at hfound
        cases hfound
        exact ⟨Nat.lt_succ_self _, hbit, fun i hi _ => Nat.lt_succ_iff.mp hi⟩
      · rw [if_neg hbit] at hfound
        obtain ⟨hlt, hset, hmax⟩ := ih hfound
        refine ⟨by omega, hset, fun i hi hseti => ?_⟩
        rcases Nat.lt_succ_iff_lt_or_eq.mp hi with hlow | rfl
        · exact hmax i hlow hseti
        · exact absurd hseti hbit

theorem lastSetBelow_eq_none {bits : List Bool} {bound : Nat}
    (hnone : lastSetBelow bits bound = none) :
    ∀ i, i < bound → bits[i]?.getD false = false := by
  induction bound with
  | zero =>
      intro i hi
      exact absurd hi (Nat.not_lt_zero i)
  | succ bound ih =>
      intro i hi
      simp only [lastSetBelow] at hnone
      split at hnone
      next => cases hnone
      next hbit =>
        rcases Nat.lt_succ_iff_lt_or_eq.mp hi with hlow | rfl
        · exact ih hnone i hlow
        · exact Bool.eq_false_of_not_eq_true hbit

/-- The other bits are as they were. -/
theorem bit_set_of_ne (p : Pool T) {other : Nat} (hne : other ≠ index) (bit : Bool) :
    (p.bitmap.set index bit)[other]?.getD false = (p.get other).isSome := by
  rw [List.getElem?_set_ne hne.symm, bitmap_getElem?]

/-- A removal keeps `max_set` covering unless it is one that `Uncovers` describes. -/
theorem Covered.remove (hcovered : p.Covered)
    (hsafe : ¬ p.Uncovers index) : (p.remove index).2.Covered := by
  intro other hother
  have hbefore := hother
  rw [get_remove] at hbefore
  by_cases hsame : other = index
  · simp [hsame] at hbefore
  rw [if_neg hsame] at hbefore
  have hle := hcovered other hbefore
  by_cases hsome : (p.get index).isSome = true
  · rw [maxSet_remove_of_isSome hsome, maxSetAfterRemove]
    split
    next htop =>
      rcases hfound : lastSetBelow (p.bitmap.set index false) (index - 1) with _ | found
      · exact hle
      · obtain ⟨hlt, hset, hmax⟩ := lastSetBelow_spec hfound
        rw [Option.getD_some]
        have hfoundSet : (p.get found).isSome = true := by
          rw [← p.bit_set_of_ne (show found ≠ index by omega) false]
          exact hset
        -- the slot next to the freed one is free, or the removal uncovers it
        by_cases hadjacent : other + 1 = index
        · exact absurd ⟨htop.1, ⟨other, hadjacent, hbefore⟩, ⟨found, by omega, hfoundSet⟩⟩ hsafe
        · exact hmax other (by omega) (by rw [p.bit_set_of_ne hsame]; exact hbefore)
    next htop => exact hle
  · rw [remove_of_not_isSome hsome]
    exact hle

/-! ## Scanning -/

/-- The elements at these places, with their places. -/
def elementsAt (p : Pool T) (places : List Nat) : List (Nat × T) :=
  places.filterMap fun index => (p.get index).map (index, ·)

/-- The calls that `for_each` of the connection table makes. -/
def forEach (p : Pool T) : List (Nat × T) := p.elementsAt (List.range (p.maxSet + 1))

/-- Everything that is in the pool. -/
def live (p : Pool T) : List (Nat × T) := p.elementsAt (List.range p.capacity)

theorem mem_elementsAt {places : List Nat} :
    (index, element) ∈ p.elementsAt places ↔ index ∈ places ∧ p.get index = some element := by
  simp only [elementsAt, List.mem_filterMap, Option.map_eq_some_iff, Prod.mk.injEq]
  constructor
  · rintro ⟨place, hplace, found, hfound, rfl, rfl⟩
    exact ⟨hplace, hfound⟩
  · rintro ⟨hplace, hfound⟩
    exact ⟨index, hplace, element, hfound, rfl, rfl⟩

theorem mem_live :
    (index, element) ∈ p.live ↔ p.get index = some element := by
  rw [live, mem_elementsAt, List.mem_range, and_iff_right_iff_imp]
  intro hfound
  by_contra hbeyond
  rw [p.get_of_capacity_le (Nat.not_lt.1 hbeyond)] at hfound
  cases hfound

theorem nodup_elementsAt (p : Pool T) {places : List Nat} (hplaces : places.Nodup) :
    (p.elementsAt places).Nodup := by
  apply hplaces.filterMap
  intro first second item hfirst hsecond
  simp only [Option.mem_def, Option.map_eq_some_iff] at hfirst hsecond
  obtain ⟨_, -, rfl⟩ := hfirst
  obtain ⟨_, -, hitem⟩ := hsecond
  exact (congrArg Prod.fst hitem).symm

/-- The scan visits nothing twice, and nothing that is not there. -/
theorem forEach_subperm_live (p : Pool T) : p.forEach.Subperm p.live := by
  apply List.subperm_of_subset (p.nodup_elementsAt List.nodup_range)
  rintro ⟨index, element⟩ hmem
  exact mem_live.2 (mem_elementsAt.1 hmem).2

/-- The scan is complete exactly if `max_set` covers the pool. -/
theorem forEach_perm_live_iff (p : Pool T) : p.forEach.Perm p.live ↔ p.Covered := by
  constructor
  · intro hperm index hsome
    obtain ⟨element, hfound⟩ := Option.isSome_iff_exists.1 hsome
    have hmem := hperm.mem_iff.2 (mem_live.2 hfound)
    have hrange := List.mem_range.1 (mem_elementsAt.1 hmem).1
    omega
  · intro hcovered
    apply p.forEach_subperm_live.perm_of_length_le
    apply List.Subperm.length_le
    apply List.subperm_of_subset (p.nodup_elementsAt List.nodup_range)
    rintro ⟨index, element⟩ hmem
    have hfound := mem_live.1 hmem
    refine mem_elementsAt.2 ⟨List.mem_range.2 ?_, hfound⟩
    have hle := hcovered index (by rw [hfound]; rfl)
    omega

end Pool

end Slim
