import Mathlib.Algebra.Group.Nat.Defs
import Mathlib.Data.List.Basic

/-!
# Rings of slots

A ring has a fixed number of slots.  Items are written into one slot after the other, and
after the last slot the first one is written again.  What the ring holds is said by the log
of everything written: the last items of the log, as many as there are slots, each in the
slot that its position in the log says.
-/

namespace Ring

variable {α : Type} {n : Nat} {log : List α} {slots : List (Option α)}

/-- The position is one of the last `n` of the log. -/
def Recent (n : Nat) (log : List α) (k : Nat) : Prop := k < log.length ∧ log.length ≤ k + n

/-- The slots of a ring of `n` slots into which the items of the log were written. -/
structure Holds (n : Nat) (log : List α) (slots : List (Option α)) : Prop where
  length_eq : slots.length = n
  kept : ∀ k a, log[k]? = some a → log.length ≤ k + n → slots[k % n]? = some (some a)
  free : ∀ p, log.length ≤ p → p < n → slots[p]? = some none

/-- Positions that are less than a round apart have different slots. -/
theorem eq_of_mod_eq {k l : Nat} (hle : k ≤ l) (hlt : l < k + n) (hmod : k % n = l % n) :
    k = l := by
  have hdvd : n ∣ l - k := Nat.dvd_of_mod_eq_zero (Nat.sub_mod_eq_zero_of_mod_eq hmod.symm)
  have hzero : l - k = 0 := Nat.eq_zero_of_dvd_of_lt hdvd (by omega)
  omega

theorem Recent.eq_of_mod_eq {k l : Nat} (hk : Recent n log k) (hl : Recent n log l)
    (hmod : k % n = l % n) : k = l := by
  obtain ⟨hkl, hkn⟩ := hk
  obtain ⟨hll, hln⟩ := hl
  rcases Nat.le_total k l with hle | hle
  · exact Ring.eq_of_mod_eq hle (by omega) hmod
  · exact (Ring.eq_of_mod_eq hle (by omega) hmod.symm).symm

theorem holds_nil (n : Nat) : Holds n ([] : List α) (List.replicate n none) where
  length_eq := List.length_replicate
  kept := by
    intro k a ha
    cases ha
  free := by
    intro p _ hp
    rw [List.getElem?_replicate, if_pos hp]

/-- One item is written. -/
theorem Holds.write (hs : Holds n log slots) (hpos : 0 < n) (a : α) :
    Holds n (log ++ [a]) (slots.set (log.length % n) (some a)) where
  length_eq := by rw [List.length_set, hs.length_eq]
  kept := by
    intro k b hb hrecent
    rw [List.length_append, List.length_singleton] at hrecent
    rcases Nat.lt_trichotomy k log.length with hlt | rfl | hgt
    · rw [List.getElem?_append_left hlt] at hb
      have hne : log.length % n ≠ k % n := by
        intro hmod
        have heq := eq_of_mod_eq (Nat.le_of_lt hlt) (by omega) hmod.symm
        omega
      rw [List.getElem?_set_ne hne]
      exact hs.kept k b hb (by omega)
    · rw [List.getElem?_append_right (Nat.le_refl _), Nat.sub_self] at hb
      cases hb
      apply List.getElem?_set_self
      rw [hs.length_eq]
      exact Nat.mod_lt _ hpos
    · rw [List.getElem?_eq_none (by rw [List.length_append, List.length_singleton]; omega)] at hb
      cases hb
  free := by
    intro p hp hlt
    rw [List.length_append, List.length_singleton] at hp
    have hmod : log.length % n = log.length := Nat.mod_eq_of_lt (by omega)
    rw [hmod, List.getElem?_set_ne (by omega)]
    exact hs.free p (by omega) hlt

/-- A slot that is taken holds one of the last items. -/
theorem Holds.exists_recent (hs : Holds n log slots) {p : Nat} {a : α}
    (hslot : slots[p]? = some (some a)) :
    ∃ k, log[k]? = some a ∧ Recent n log k ∧ k % n = p := by
  have hp : p < n := by
    rw [← hs.length_eq]
    exact (List.getElem?_eq_some_iff.1 hslot).1
  by_cases hfree : log.length ≤ p
  · rw [hs.free p hfree hp] at hslot
    cases hslot
  -- the last position of the log that belongs to the slot
  have hround := Nat.div_add_mod (log.length - 1 - p) n
  have hrest := Nat.mod_lt (log.length - 1 - p) (Nat.zero_lt_of_lt hp)
  have hlt : p + n * ((log.length - 1 - p) / n) < log.length := by omega
  have hmod : (p + n * ((log.length - 1 - p) / n)) % n = p := by
    rw [Nat.add_mul_mod_self_left, Nat.mod_eq_of_lt hp]
  have hitem := List.getElem?_eq_getElem hlt
  have hkept := hs.kept _ _ hitem (by omega)
  rw [hmod, hslot] at hkept
  refine ⟨_, ?_, ⟨hlt, by omega⟩, hmod⟩
  rw [hitem, Option.some.inj (Option.some.inj hkept)]

end Ring
