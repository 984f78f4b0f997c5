import Mathlib.Algebra.Group.Nat.Defs
import Mathlib.Tactic.Common

/-!
# Machine arithmetic

Arithmetic on 64-bit machine words, the size of `usize`, and counting in `u32`.  A debug
build stops at an overflow and a release build wraps around; everything that runs on such
words is parametrised by the build.
-/

namespace Machine

inductive Build where
  | debug
  | release
deriving DecidableEq, Repr

inductive Panic where
  | overflow
  | indexOutOfBounds
deriving DecidableEq, Repr

def USIZE_MAX : Nat := 2 ^ 64 - 1

namespace Build

def add (build : Build) (x y : Nat) : Except Panic Nat :=
  if x + y ≤ USIZE_MAX then .ok (x + y)
  else
    match build with
    | debug => .error .overflow
    | release => .ok ((x + y) % 2 ^ 64)

def sub (build : Build) (x y : Nat) : Except Panic Nat :=
  if y ≤ x then .ok (x - y)
  else
    match build with
    | debug => .error .overflow
    | release => .ok (x + 2 ^ 64 - y)

def mul (build : Build) (x y : Nat) : Except Panic Nat :=
  if x * y ≤ USIZE_MAX then .ok (x * y)
  else
    match build with
    | debug => .error .overflow
    | release => .ok ((x * y) % 2 ^ 64)

theorem add_ok (build : Build) {x y : Nat} (hle : x + y ≤ USIZE_MAX) :
    build.add x y = .ok (x + y) :=
  if_pos hle

theorem sub_ok (build : Build) {x y : Nat} (hle : y ≤ x) : build.sub x y = .ok (x - y) :=
  if_pos hle

theorem mul_ok (build : Build) {x y : Nat} (hle : x * y ≤ USIZE_MAX) :
    build.mul x y = .ok (x * y) :=
  if_pos hle

/-- A release build borrows. -/
theorem sub_release {x y : Nat} (hlt : x < y) : release.sub x y = .ok (x + 2 ^ 64 - y) :=
  if_neg (Nat.not_le.2 hlt)

/-- `x + 1` in `u32`. -/
def succ32 (build : Build) (x : UInt32) : Except Panic UInt32 :=
  if x.toNat + 1 < 2 ^ 32 then .ok (x + 1)
  else
    match build with
    | debug => .error .overflow
    | release => .ok (x + 1)

/-- `x - 1` in `u32`. -/
def pred32 (build : Build) (x : UInt32) : Except Panic UInt32 :=
  if 1 ≤ x.toNat then .ok (x - 1)
  else
    match build with
    | debug => .error .overflow
    | release => .ok (x - 1)

/-- A release build begins anew after the last number. -/
theorem succ32_release (x : UInt32) : release.succ32 x = .ok (x + 1) := by
  unfold succ32
  split
  next => rfl
  next => rfl

/-- Below the last number the successor is that of the natural numbers. -/
theorem toNat_succ32 {build : Build} {x next : UInt32} (hlt : x.toNat + 1 < 2 ^ 32)
    (hnext : build.succ32 x = .ok next) : next.toNat = x.toNat + 1 := by
  unfold succ32 at hnext
  rw [if_pos hlt] at hnext
  cases hnext
  rw [UInt32.toNat_add]
  exact Nat.mod_eq_of_lt hlt

end Build

/-- A computation that goes on after a step that does not fail. -/
theorem bind_ok {ε α β : Type} (a : α) (f : α → Except ε β) : (Except.ok a >>= f) = f a := rfl

/-- A computation that does not fail has a first step that does not fail. -/
theorem bind_eq_ok {ε α β : Type} {x : Except ε α} {f : α → Except ε β} {b : β}
    (hok : (x >>= f) = .ok b) : ∃ a, x = .ok a ∧ f a = .ok b := by
  cases x with
  | error e => cases hok
  | ok a => exact ⟨a, rfl, hok⟩

/-- Another report of a failure changes nothing where there is none. -/
theorem mapError_eq_ok {ε δ α : Type} {report : ε → δ} {x : Except ε α} {a : α}
    (hok : x.mapError report = .ok a) : x = .ok a := by
  cases x with
  | error e => cases hok
  | ok b =>
      cases hok
      rfl

/-- The same for a first step whose failure is reported as another one. -/
theorem mapError_bind_eq_ok {ε δ α β : Type} {report : ε → δ} {x : Except ε α}
    {f : α → Except δ β} {b : β} (hok : (x.mapError report >>= f) = .ok b) :
    ∃ a, x = .ok a ∧ f a = .ok b := by
  obtain ⟨a, ha, hrest⟩ := bind_eq_ok hok
  exact ⟨a, mapError_eq_ok ha, hrest⟩

end Machine
