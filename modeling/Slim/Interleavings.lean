import Mathlib.Data.List.TakeWhile

/-!
# Interleavings of two lists

`Interleaves xs ys zs` says that `zs` is made of `xs` and `ys`, each in its order.
The events of an interleaving before and after the first one of a kind are `before`
and `after`.
-/

namespace Interleavings

variable {α : Type}

inductive Interleaves : List α → List α → List α → Prop where
  | nil : Interleaves [] [] []
  | left (x : α) {xs ys zs : List α} : Interleaves xs ys zs → Interleaves (x :: xs) ys (x :: zs)
  | right (y : α) {xs ys zs : List α} : Interleaves xs ys zs → Interleaves xs (y :: ys) (y :: zs)

theorem Interleaves.symm {xs ys zs : List α} (hinter : Interleaves xs ys zs) :
    Interleaves ys xs zs := by
  induction hinter with
  | nil => exact .nil
  | left x _ ih => exact .right x ih
  | right y _ ih => exact .left y ih

theorem Interleaves.mem_iff {xs ys zs : List α} (hinter : Interleaves xs ys zs) (z : α) :
    z ∈ zs ↔ z ∈ xs ∨ z ∈ ys := by
  induction hinter with
  | nil => simp
  | left x _ ih => simp only [List.mem_cons, ih, or_assoc]
  | right y _ ih => simp only [List.mem_cons, ih, or_left_comm]

/-- The head of the second list stands behind a part of the first list. -/
theorem Interleaves.split_right {xs ys zs : List α} {y : α}
    (hinter : Interleaves xs (y :: ys) zs) :
    ∃ front back rest, xs = front ++ back ∧ zs = front ++ y :: rest ∧
      Interleaves back ys rest := by
  generalize hlist : y :: ys = list at hinter
  induction hinter with
  | nil => cases hlist
  | left x _ ih =>
      obtain ⟨front, back, rest, rfl, rfl, hrest⟩ := ih hlist
      exact ⟨x :: front, back, rest, rfl, rfl, hrest⟩
  | @right y' xs ys' zs hinter ih =>
      obtain ⟨rfl, rfl⟩ := List.cons.inj hlist
      exact ⟨[], xs, zs, rfl, rfl, hinter⟩

theorem Interleaves.split_left {xs ys zs : List α} {x : α}
    (hinter : Interleaves (x :: xs) ys zs) :
    ∃ front back rest, ys = front ++ back ∧ zs = front ++ x :: rest ∧
      Interleaves xs back rest := by
  obtain ⟨front, back, rest, hys, hzs, hrest⟩ := hinter.symm.split_right
  exact ⟨front, back, rest, hys, hzs, hrest.symm⟩

/-- An element of the first list that is the only one with `p` splits the interleaving
    into parts without `p`. -/
theorem Interleaves.split_at {p : α → Bool} {x : α} {tail : List α}
    (htail : ∀ y ∈ tail, p y = false) :
    ∀ {front xs ys zs : List α}, Interleaves xs ys zs → xs = front ++ x :: tail →
      (∀ y ∈ front, p y = false) → (∀ y ∈ ys, p y = false) →
      ∃ before after, zs = before ++ x :: after ∧ (∀ y ∈ before, p y = false) ∧
        ∀ y ∈ after, p y = false := by
  intro front
  induction front with
  | nil =>
      rintro xs ys zs hinter rfl _ hys
      obtain ⟨before, back, after, rfl, rfl, hafter⟩ := hinter.split_left
      rw [List.forall_mem_append] at hys
      refine ⟨before, after, rfl, hys.1, fun y hy => ?_⟩
      rcases (hafter.mem_iff y).1 hy with hmem | hmem
      · exact htail y hmem
      · exact hys.2 y hmem
  | cons z front ih =>
      rintro xs ys zs hinter rfl hfront hys
      obtain ⟨before, back, after, rfl, rfl, hafter⟩ := hinter.split_left
      rw [List.forall_mem_append] at hys
      rw [List.forall_mem_cons] at hfront
      obtain ⟨middle, rest, rfl, hmiddle, hrest⟩ := ih hafter rfl hfront.2 hys.2
      refine ⟨before ++ z :: middle, rest, by rw [List.append_assoc, List.cons_append], ?_, hrest⟩
      rw [List.forall_mem_append, List.forall_mem_cons]
      exact ⟨hys.1, hfront.1, hmiddle⟩

/-! ## Before and after an event -/

/-- The elements before the first one with `p`. -/
def before (p : α → Bool) (list : List α) : List α := list.takeWhile fun x => !p x

/-- The elements after the first one with `p`. -/
def after (p : α → Bool) (list : List α) : List α := (list.dropWhile fun x => !p x).tail

section Split

variable {p : α → Bool} {front back : List α} {x : α}

theorem before_append (hfront : ∀ y ∈ front, p y = false) (hx : p x = true) :
    before p (front ++ x :: back) = front := by
  rw [before, List.takeWhile_append_of_pos]
  · simp [hx]
  · intro y hy
    rw [hfront y hy]
    rfl

theorem after_append (hfront : ∀ y ∈ front, p y = false) (hx : p x = true) :
    after p (front ++ x :: back) = back := by
  rw [after, List.dropWhile_append_of_pos]
  · simp [hx]
  · intro y hy
    rw [hfront y hy]
    rfl

end Split

end Interleavings
