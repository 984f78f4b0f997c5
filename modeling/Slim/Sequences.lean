import Mathlib.Data.List.Flatten
import Mathlib.Data.List.Perm.Basic
import Mathlib.Data.List.Perm.Subperm

/-!
# Vector removal, circular search, chunks and loops that may fail

Loops over a vector that occur in several places.  `swapRemove` is the
standard library's removal that fills the hole with the last element.
`circularScan` is the loop that probes the positions `start`, `start + 1`, … of a
range of `n` positions, wraps at the end, and gives up when it is back at `start`.
`chunks` cuts a vector into pieces of one size, the last of which may be shorter.
`tryEach` changes the elements in place and stops at the first error.
-/

namespace Sequences

/-! ## Removal by swapping in the last element -/

section SwapRemove

variable {α : Type}

def swapRemove (l : List α) (i : Nat) : List α :=
  match l.getLast? with
  | none => []
  | some last => (l.set i last).dropLast

theorem swapRemove_perm {l : List α} {i : Nat} (hi : i < l.length) :
    (swapRemove l i).Perm (l.eraseIdx i) := by
  rcases List.eq_nil_or_concat l with rfl | ⟨init, last, rfl⟩
  · simp at hi
  · rw [List.concat_eq_append] at hi ⊢
    have hlast : (init ++ [last]).getLast? = some last := by simp
    simp only [swapRemove, hlast]
    by_cases hinit : i < init.length
    · rw [List.set_append_left i last hinit, List.dropLast_concat,
        List.eraseIdx_append_of_lt_length hinit]
      exact (List.set_perm_cons_eraseIdx hinit last).trans (List.perm_append_singleton last _).symm
    · -- the removed element is the last one
      have hi' : i = init.length := by simp at hi; omega
      subst hi'
      simp [List.eraseIdx_append_of_length_le]

variable [DecidableEq α]

/-- Search for `a` and remove its first occurrence with `swapRemove`. -/
def swapRemoveFirst (l : List α) (a : α) : List α :=
  match l.idxOf? a with
  | none => l
  | some i => swapRemove l i

theorem swapRemoveFirst_perm (l : List α) (a : α) : (swapRemoveFirst l a).Perm (l.erase a) := by
  rw [List.erase_eq_eraseIdx, swapRemoveFirst]
  rcases hidx : l.idxOf? a with _ | i
  · exact List.Perm.refl l
  · obtain ⟨hi, -, -⟩ := List.idxOf?_eq_some_iff.mp hidx
    exact swapRemove_perm hi

theorem swapRemoveFirst_of_notMem {l : List α} {a : α} (ha : a ∉ l) : swapRemoveFirst l a = l := by
  rw [swapRemoveFirst, List.idxOf?_eq_none_iff.2 ha]

theorem count_swapRemoveFirst (l : List α) (a b : α) :
    (swapRemoveFirst l a).count b = l.count b - if b = a then 1 else 0 := by
  rw [(swapRemoveFirst_perm l a).count_eq]
  by_cases hb : b = a
  · subst hb; simp
  · simp [List.count_erase_of_ne hb, hb]

theorem mem_of_mem_swapRemoveFirst {l : List α} {a b : α} (hb : b ∈ swapRemoveFirst l a) :
    b ∈ l :=
  List.mem_of_mem_erase ((swapRemoveFirst_perm l a).mem_iff.1 hb)

theorem mem_swapRemoveFirst_iff {l : List α} (hnodup : l.Nodup) (a b : α) :
    b ∈ swapRemoveFirst l a ↔ b ≠ a ∧ b ∈ l := by
  rw [(swapRemoveFirst_perm l a).mem_iff, hnodup.mem_erase_iff]

theorem nodup_swapRemoveFirst {l : List α} (hnodup : l.Nodup) (a : α) :
    (swapRemoveFirst l a).Nodup :=
  (swapRemoveFirst_perm l a).nodup_iff.2 (hnodup.erase a)

end SwapRemove

/-! ## Circular search -/

section CircularScan

variable {α : Type} {n start : Nat}

/-- The search loop at position `i`, for at most `fuel` rounds. -/
def circularScan (n start : Nat) (probe : Nat → Option α) : Nat → Nat → Option α
  | 0, _ => none
  | fuel + 1, i =>
      match probe i with
      | some a => some a
      | none =>
          let next := (i + 1) % n
          if next = start then none else circularScan n start probe fuel next

theorem add_mod_eq_start_iff {k : Nat} (hstart : start < n) (hpos : 0 < k) (hk : k ≤ n) :
    (start + k) % n = start ↔ k = n := by
  by_cases hwrap : start + k < n
  · rw [Nat.mod_eq_of_lt hwrap]; omega
  · rw [Nat.mod_eq_sub_mod (by omega), Nat.mod_eq_of_lt (by omega)]; omega

/-- After `k` rounds without success the loop probes the remaining `n - k`
    positions in circular order.  Any fuel from `n - k` on gives the same result,
    so the loop stops by itself after at most `n` rounds. -/
theorem circularScan_eq_findSome (probe : Nat → Option α) (hstart : start < n) :
    ∀ (fuel k : Nat), k < n → n - k ≤ fuel →
      circularScan n start probe fuel ((start + k) % n) =
        (List.range' k (n - k)).findSome? fun j => probe ((start + j) % n) := by
  intro fuel
  induction fuel with
  | zero => intro k hk hfuel; omega
  | succ fuel ih =>
      intro k hk hfuel
      obtain ⟨rest, hrest⟩ : ∃ rest, n - k = rest + 1 := ⟨n - k - 1, by omega⟩
      rw [hrest, List.range'_succ, List.findSome?_cons]
      have hnext : ((start + k) % n + 1) % n = (start + (k + 1)) % n := by
        rw [Nat.mod_add_mod, Nat.add_assoc]
      rcases hprobe : probe ((start + k) % n) with _ | a
      · simp only [circularScan, hprobe, hnext]
        have hback := add_mod_eq_start_iff hstart (Nat.succ_pos k) hk
        by_cases hlast : k + 1 = n
        · have hzero : rest = 0 := by omega
          rw [if_pos (hback.2 hlast), hzero]
          rfl
        · have hrest' : rest = n - (k + 1) := by omega
          rw [if_neg fun h => hlast (hback.1 h), hrest']
          exact ih (k + 1) (by omega) (by omega)
      · simp only [circularScan, hprobe]

/-- Every position of the range is reached from `start`. -/
theorem exists_offset {i : Nat} (hstart : start < n) (hi : i < n) :
    ∃ k, k < n ∧ (start + k) % n = i := by
  refine ⟨(i + n - start) % n, Nat.mod_lt _ (by omega), ?_⟩
  rw [Nat.add_mod_mod, Nat.add_sub_cancel' (by omega), Nat.add_mod_right, Nat.mod_eq_of_lt hi]

/-- The whole search, started at `start` with fuel for one turn. -/
def circularSearch (n start : Nat) (probe : Nat → Option α) : Option α :=
  circularScan n start probe n start

theorem circularSearch_eq_findSome (probe : Nat → Option α) (hstart : start < n) :
    circularSearch n start probe =
      (List.range' 0 n).findSome? fun j => probe ((start + j) % n) := by
  have hscan := circularScan_eq_findSome probe hstart n 0 (by omega) (by omega)
  rwa [Nat.add_zero, Nat.mod_eq_of_lt hstart] at hscan

theorem circularSearch_eq_none_iff (probe : Nat → Option α) (hstart : start < n) :
    circularSearch n start probe = none ↔ ∀ i, i < n → probe i = none := by
  rw [circularSearch_eq_findSome probe hstart, List.findSome?_eq_none_iff]
  constructor
  · intro hnone i hi
    obtain ⟨k, hk, rfl⟩ := exists_offset hstart hi
    exact hnone k (by simpa using hk)
  · intro hnone k _
    exact hnone _ (Nat.mod_lt _ (by omega))

theorem exists_of_circularSearch {probe : Nat → Option α} (hstart : start < n) {a : α}
    (hfound : circularSearch n start probe = some a) : ∃ i, i < n ∧ probe i = some a := by
  rw [circularSearch_eq_findSome probe hstart] at hfound
  obtain ⟨k, -, hprobe⟩ := List.exists_of_findSome?_eq_some hfound
  exact ⟨_, Nat.mod_lt _ (by omega), hprobe⟩

/-- The position the search starts from is the first to be probed. -/
theorem circularSearch_of_start {probe : Nat → Option α} (hstart : start < n) {a : α}
    (hprobe : probe start = some a) : circularSearch n start probe = some a := by
  obtain ⟨m, rfl⟩ : ∃ m, n = m + 1 := ⟨n - 1, by omega⟩
  simp only [circularSearch, circularScan, hprobe]

/-- A loop whose test ignores the position finds what the test finds at once. -/
theorem circularSearch_const (result : Option α) (hstart : start < n) :
    circularSearch n start (fun _ => result) = result := by
  rcases result with _ | a
  · exact (circularSearch_eq_none_iff _ hstart).2 fun _ _ => rfl
  · exact circularSearch_of_start hstart rfl

end CircularScan

/-! ## Chunks -/

section Chunks

variable {α β : Type} {size : Nat}

def chunksUpTo (size : Nat) : Nat → List α → List (List α)
  | 0, _ => []
  | _ + 1, [] => []
  | fuel + 1, a :: rest => (a :: rest).take size :: chunksUpTo size fuel ((a :: rest).drop size)

def chunks (size : Nat) (l : List α) : List (List α) := chunksUpTo size l.length l

theorem flatten_chunksUpTo (hsize : 0 < size) :
    ∀ (fuel : Nat) (l : List α), l.length ≤ fuel → (chunksUpTo size fuel l).flatten = l := by
  intro fuel
  induction fuel with
  | zero =>
      intro l hl
      simp_all [chunksUpTo]
  | succ fuel ih =>
      intro l hl
      rcases l with _ | ⟨a, rest⟩
      · rfl
      · have hrest : ((a :: rest).drop size).length ≤ fuel := by
          simp only [List.length_drop, List.length_cons] at hl ⊢
          omega
        rw [chunksUpTo, List.flatten_cons, ih _ hrest, List.take_append_drop]

theorem flatten_chunks (hsize : 0 < size) (l : List α) : (chunks size l).flatten = l :=
  flatten_chunksUpTo hsize l.length l (Nat.le_refl _)

theorem ne_nil_of_mem_chunksUpTo (hsize : 0 < size) :
    ∀ (fuel : Nat) (l : List α), ∀ chunk ∈ chunksUpTo size fuel l, chunk ≠ [] := by
  intro fuel
  induction fuel with
  | zero => simp [chunksUpTo]
  | succ fuel ih =>
      intro l
      rcases l with _ | ⟨a, rest⟩
      · simp [chunksUpTo]
      · rw [chunksUpTo, List.forall_mem_cons]
        refine ⟨?_, ih _⟩
        simp only [ne_eq, List.take_eq_nil_iff, reduceCtorEq, or_false]
        omega

theorem ne_nil_of_mem_chunks (hsize : 0 < size) {l chunk : List α}
    (hchunk : chunk ∈ chunks size l) : chunk ≠ [] :=
  ne_nil_of_mem_chunksUpTo hsize _ _ chunk hchunk

/-- Where every piece holds something, no piece can be left out without a loss. -/
theorem length_flatMap_eq_iff {f : β → List α} {kept pieces : List β}
    (hkept : kept.Sublist pieces) (hne : ∀ piece ∈ pieces, f piece ≠ []) :
    (kept.flatMap f).length = (pieces.flatMap f).length ↔ kept.length = pieces.length := by
  induction hkept with
  | slnil => simp
  | @cons kept pieces piece hkept ih =>
      rw [List.forall_mem_cons] at hne
      have hpiece := List.length_pos_iff.2 hne.1
      have hle := (hkept.flatMap f).length_le
      have hlength := hkept.length_le
      simp only [List.flatMap_cons, List.length_append, List.length_cons]
      constructor <;> omega
  | @cons_cons kept pieces piece hkept ih =>
      rw [List.forall_mem_cons] at hne
      simp only [List.flatMap_cons, List.length_append, List.length_cons, Nat.add_left_cancel_iff,
        Nat.add_right_cancel_iff, ih hne.2]

end Chunks

/-! ## Images of a list -/

section Images

variable {ι ε ω : Type} {items all : List ι} {carried : List ε}

/-- A part of the images of some elements has the views expected of all of them exactly if it
    leaves none out, these are all the elements, and the views are the expected ones. -/
theorem perm_map_iff_of_sublist {entry : ι → ε} {view : ε → ω} {expected : ι → ω}
    (hcarried : carried.Sublist (items.map entry)) (hitems : items.Subperm all) :
    (carried.map view).Perm (all.map expected) ↔
      carried.length = (items.map entry).length ∧ items.Perm all ∧
        (all.map fun item => view (entry item)).Perm (all.map expected) := by
  have hviews (hlength : carried.length = (items.map entry).length) :
      carried.map view = items.map fun item => view (entry item) := by
    rw [hcarried.eq_of_length hlength, List.map_map]
    rfl
  constructor
  · intro hperm
    have hsame := hperm.length_eq
    have hle := hcarried.length_le
    have hle' := hitems.length_le
    simp only [List.length_map] at hsame hle
    have hlength : carried.length = (items.map entry).length := by
      rw [List.length_map]
      omega
    have hall : items.Perm all := hitems.perm_of_length_le (by omega)
    rw [hviews hlength] at hperm
    exact ⟨hlength, hall, (hall.map _).symm.trans hperm⟩
  · rintro ⟨hlength, hall, hperm⟩
    rw [hviews hlength]
    exact (hall.map _).trans hperm

/-- If two images of a list agree up to the order, and one of them shows a mark only where the
    other one does, then they show it at the same places. -/
theorem mark_of_perm_map {f g : ι → ω} (mark : ω → Bool)
    (hperm : (items.map f).Perm (items.map g))
    (himp : ∀ item ∈ items, mark (f item) = true → mark (g item) = true) :
    ∀ item ∈ items, mark (g item) = true → mark (f item) = true := by
  have hcount := hperm.countP_eq mark
  rw [List.countP_map, List.countP_map] at hcount
  intro item hitem hmark
  by_contra hunmarked
  have hlt : items.countP (mark ∘ f) < items.countP (mark ∘ g) := by
    obtain ⟨before, after, rfl⟩ := List.append_of_mem hitem
    have hbefore := List.countP_mono_left (l := before) (p := mark ∘ f) (q := mark ∘ g)
      fun other hother => himp other (List.mem_append_left _ hother)
    have hafter := List.countP_mono_left (l := after) (p := mark ∘ f) (q := mark ∘ g)
      fun other hother => himp other (List.mem_append_right _ (List.mem_cons_of_mem _ hother))
    have hf : List.countP (mark ∘ f) (item :: after) = List.countP (mark ∘ f) after :=
      List.countP_cons_of_neg hunmarked
    have hg : List.countP (mark ∘ g) (item :: after) = List.countP (mark ∘ g) after + 1 :=
      List.countP_cons_of_pos hmark
    rw [List.countP_append, List.countP_append, hf, hg]
    omega
  omega

end Images

/-! ## Changing the elements until one fails -/

section TryEach

variable {α ε : Type}

/-- The loop that changes each element in place and stops at the first error. -/
def tryEach (change : α → Except ε Unit × α) : List α → Except ε Unit × List α
  | [] => (.ok (), [])
  | first :: rest =>
      match change first with
      | (.error error, left) => (.error error, left :: rest)
      | (.ok (), left) => ((tryEach change rest).1, left :: (tryEach change rest).2)

theorem tryEach_of_forall {change : α → Except ε Unit × α} {after : α → α} {l : List α}
    (hok : ∀ a ∈ l, change a = (.ok (), after a)) : tryEach change l = (.ok (), l.map after) := by
  induction l with
  | nil => rfl
  | cons first rest ih =>
      obtain ⟨hfirst, hrest⟩ := List.forall_mem_cons.1 hok
      simp only [tryEach, hfirst, ih hrest, List.map_cons]

theorem tryEach_of_exists {change : α → Except ε Unit × α} {l : List α}
    (hfails : ∃ a ∈ l, ∃ error, (change a).1 = .error error) :
    ∃ error, (tryEach change l).1 = .error error := by
  induction l with
  | nil => simp at hfails
  | cons first rest ih =>
      rcases hfirst : change first with ⟨error | _, left⟩
      · exact ⟨error, by simp only [tryEach, hfirst]⟩
      · simp only [List.mem_cons, exists_eq_or_imp, hfirst, reduceCtorEq, exists_false,
          false_or] at hfails
        obtain ⟨error, herror⟩ := ih hfails
        exact ⟨error, by simp only [tryEach, hfirst, herror]⟩

end TryEach

end Sequences
