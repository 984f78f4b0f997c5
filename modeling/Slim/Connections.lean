import Slim.HashMap
import Slim.Pool
import Slim.Sequences

/-!
# The connections of one agent type: `Connections` of `tables/subscription_table.rs`

A hash index over a pool of reference counters.  The two are inverse to each other
and no counter is zero; the structure carries both facts.  The proofs elsewhere
read a value of the type through one view, the counter of a connection (`refs`),
and through the searches `getOne` and `getAll`.
-/

namespace Slim

open Sequences

inductive SubscriptionTableError where
  | noMatch (name : String)
  | subscriptionNotFound
  | agentIdNotFound
  | connectionIdNotFound
deriving DecidableEq, Repr

/-- A connection of an agent type, with the number of references to it. -/
structure ConnId where
  connId : Nat
  counter : Nat
deriving DecidableEq, Repr

/-- `index` maps a connection to its slot in `pool`.  The proof fields say that
    the two are inverse to each other and that no counter is zero. -/
structure Connections where
  index : HashMap Nat Nat
  pool : Pool ConnId
  index_live : ∀ conn pos, index.get? conn = some pos →
    ∃ counter, pool.get pos = some ⟨conn, counter + 1⟩
  live_index : ∀ pos entry, pool.get pos = some entry → index.get? entry.connId = some pos

namespace Connections

def default : Connections where
  index := HashMap.empty
  pool := Pool.withCapacity 2 (by decide)
  index_live := by intro conn pos h; cases h
  live_index := by
    intro pos entry h
    simp only [Pool.get, Pool.withCapacity, List.getElem?_replicate] at h
    split at h <;> cases h

/-- The branch of `insert` for a connection that is not in the index yet. -/
def addNew (c : Connections) (conn : Nat) (hnone : c.index.get? conn = none) : Connections where
  index := c.index.insert conn (c.pool.insert ⟨conn, 1⟩).2
  pool := (c.pool.insert ⟨conn, 1⟩).1
  index_live := by
    intro other pos hindex
    rw [Pool.get_insert]
    by_cases hconn : other = conn
    · subst hconn
      rw [HashMap.get?_insert_self] at hindex
      rw [if_pos (Option.some.inj hindex).symm]
      exact ⟨0, rfl⟩
    · rw [HashMap.get?_insert_of_ne _ _ hconn] at hindex
      obtain ⟨counter, hlive⟩ := c.index_live other pos hindex
      have hfree : pos ≠ (c.pool.insert ⟨conn, 1⟩).2 := by
        rintro rfl
        rw [Pool.get_insert_index] at hlive
        cases hlive
      rw [if_neg hfree]
      exact ⟨counter, hlive⟩
  live_index := by
    intro pos entry hlive
    rw [Pool.get_insert] at hlive
    by_cases hpos : pos = (c.pool.insert ⟨conn, 1⟩).2
    · rw [if_pos hpos] at hlive
      cases hlive
      rw [HashMap.get?_insert_self, hpos]
    · rw [if_neg hpos] at hlive
      have hindex := c.live_index pos entry hlive
      have hne : entry.connId ≠ conn := by
        intro heq
        rw [heq, hnone] at hindex
        cases hindex
      rw [HashMap.get?_insert_of_ne _ _ hne]
      exact hindex

/-- Change the counter of the connection in slot `pos` to a positive number. -/
def setCounter (c : Connections) (pos counter : Nat) (hpos : 0 < counter) : Connections where
  index := c.index
  pool := c.pool.modify pos fun entry => { entry with counter := counter }
  index_live := by
    intro conn other hindex
    obtain ⟨old, hlive⟩ := c.index_live conn other hindex
    rw [Pool.get_modify, hlive]
    by_cases hsame : other = pos
    · rw [if_pos hsame]
      exact ⟨counter - 1, by simp; omega⟩
    · rw [if_neg hsame]
      exact ⟨old, rfl⟩
  live_index := by
    intro other entry hlive
    rw [Pool.get_modify] at hlive
    by_cases hsame : other = pos
    · rw [if_pos hsame] at hlive
      obtain ⟨old, hold, rfl⟩ := Option.map_eq_some_iff.mp hlive
      exact c.live_index other old hold
    · rw [if_neg hsame] at hlive
      exact c.live_index other entry hlive

theorem counter_pos (c : Connections) {pos : Nat} {entry : ConnId}
    (hlive : c.pool.get pos = some entry) : 0 < entry.counter := by
  obtain ⟨counter, hcounter⟩ := c.index_live _ _ (c.live_index pos entry hlive)
  rw [hlive, Option.some.injEq] at hcounter
  rw [hcounter]
  exact Nat.succ_pos counter

/-- The branch of `remove` that frees the slot of the connection. -/
def dropConn (c : Connections) (conn pos : Nat) (hindex : c.index.get? conn = some pos) :
    Connections where
  index := c.index.remove conn
  pool := (c.pool.remove pos).2
  index_live := by
    intro other otherPos hother
    by_cases hconn : other = conn
    · subst hconn
      rw [HashMap.get?_remove_self] at hother
      cases hother
    · rw [HashMap.get?_remove_of_ne _ hconn] at hother
      obtain ⟨counter, hlive⟩ := c.index_live other otherPos hother
      obtain ⟨counter', hlive'⟩ := c.index_live conn pos hindex
      have hpos : otherPos ≠ pos := by
        rintro rfl
        rw [hlive'] at hlive
        cases hlive
        exact hconn rfl
      rw [Pool.get_remove, if_neg hpos]
      exact ⟨counter, hlive⟩
  live_index := by
    intro otherPos entry hlive
    rw [Pool.get_remove] at hlive
    by_cases hpos : otherPos = pos
    · rw [if_pos hpos] at hlive
      cases hlive
    · rw [if_neg hpos] at hlive
      have hentry := c.live_index otherPos entry hlive
      have hne : entry.connId ≠ conn := by
        intro heq
        rw [heq, hindex] at hentry
        exact hpos (Option.some.inj hentry).symm
      rw [HashMap.get?_remove_of_ne _ hne]
      exact hentry

def insert (c : Connections) (conn : Nat) : Connections :=
  match hindex : c.index.get? conn with
  | none => c.addNew conn hindex
  | some pos =>
      match c.pool.get pos with
      | none => c -- "error retrieving the connection from the pool"
      | some entry => c.setCounter pos (entry.counter + 1) (Nat.succ_pos _)

def remove (c : Connections) (conn : Nat) : Except SubscriptionTableError Connections :=
  match hindex : c.index.get? conn with
  | none => .error .connectionIdNotFound
  | some pos =>
      match hlive : c.pool.get pos with
      | none => .error .connectionIdNotFound
      | some entry =>
          if hone : entry.counter = 1 then .ok (c.dropConn conn pos hindex)
          else
            .ok (c.setCounter pos (entry.counter - 1)
              (by have := c.counter_pos hlive; omega))

/-- The test of the loop of `get_one` at slot `i`. -/
def probe (c : Connections) (exceptConn i : Nat) : Option Nat :=
  match c.pool.get i with
  | none => none
  | some entry => if entry.connId ≠ exceptConn then some entry.connId else none

/-- `draw bound` is the value of `random_range(0..bound)`. -/
def getOne (c : Connections) (exceptConn : Nat) (draw : Nat → Nat) : Option Nat :=
  if c.index.len = 1 then
    if c.index.contains exceptConn then none
    else c.index.entries.head?.map Prod.fst
  else
    circularSearch (c.pool.maxSet + 1) (draw (c.pool.maxSet + 1)) (c.probe exceptConn)

def getAll (c : Connections) (exceptConn : Nat) (order : IterOrder (Nat × Nat)) :
    Option (List Nat) :=
  if c.index.len = 1 then
    if c.index.contains exceptConn then none
    else c.index.entries.head?.map fun entry => [entry.1]
  else
    let out := ((c.index.iter order).map Prod.fst).filter fun conn => decide (conn ≠ exceptConn)
    if out.isEmpty then none else some out

/-! ## The reference counters -/

/-- The counter of a connection, 0 when it is not in the pool. -/
def refs (c : Connections) (conn : Nat) : Nat :=
  match c.index.get? conn with
  | none => 0
  | some pos =>
      match c.pool.get pos with
      | none => 0
      | some entry => entry.counter

theorem refs_of_live {c : Connections} {pos : Nat} {entry : ConnId}
    (hlive : c.pool.get pos = some entry) : c.refs entry.connId = entry.counter := by
  simp only [refs, c.live_index pos entry hlive, hlive]

theorem refs_eq_zero_iff (c : Connections) (conn : Nat) :
    c.refs conn = 0 ↔ c.index.get? conn = none := by
  unfold refs
  rcases hindex : c.index.get? conn with _ | pos
  · simp
  · obtain ⟨counter, hlive⟩ := c.index_live conn pos hindex
    simp [hlive]

theorem contains_iff_refs_pos (c : Connections) (conn : Nat) :
    c.index.contains conn = true ↔ 0 < c.refs conn := by
  rw [Nat.pos_iff_ne_zero, Ne, refs_eq_zero_iff, HashMap.contains, Option.isSome_iff_ne_none]

/-- The slot of a counted connection. -/
theorem exists_live_of_refs_pos {c : Connections} {conn : Nat} (hpos : 0 < c.refs conn) :
    ∃ pos counter, c.index.get? conn = some pos ∧ c.pool.get pos = some ⟨conn, counter⟩ ∧
      c.refs conn = counter := by
  rcases hindex : c.index.get? conn with _ | pos
  · rw [← refs_eq_zero_iff] at hindex
    omega
  · obtain ⟨counter, hlive⟩ := c.index_live conn pos hindex
    exact ⟨pos, counter + 1, rfl, hlive, refs_of_live hlive⟩

theorem refs_addNew (c : Connections) (conn : Nat) (hnone : c.index.get? conn = none)
    (other : Nat) :
    (c.addNew conn hnone).refs other = c.refs other + if other = conn then 1 else 0 := by
  by_cases hconn : other = conn
  · subst hconn
    have hlive : (c.addNew other hnone).pool.get (c.pool.insert ⟨other, 1⟩).2 =
        some ⟨other, 1⟩ := by
      simp only [addNew, Pool.get_insert, if_true]
    have hzero := (refs_eq_zero_iff c other).2 hnone
    rw [hzero, if_pos rfl]
    exact refs_of_live hlive
  · rw [if_neg hconn, Nat.add_zero]
    have hindex : (c.addNew conn hnone).index.get? other = c.index.get? other :=
      HashMap.get?_insert_of_ne _ _ hconn
    rcases hother : c.index.get? other with _ | pos
    · rw [(refs_eq_zero_iff _ _).2 (hindex.trans hother), (refs_eq_zero_iff _ _).2 hother]
    · obtain ⟨counter, hlive⟩ := c.index_live other pos hother
      have hfree : pos ≠ (c.pool.insert ⟨conn, 1⟩).2 := by
        rintro rfl
        rw [Pool.get_insert_index] at hlive
        cases hlive
      have hlive' : (c.addNew conn hnone).pool.get pos = some ⟨other, counter + 1⟩ := by
        simp only [addNew, Pool.get_insert, if_neg hfree, hlive]
      exact (refs_of_live hlive').trans (refs_of_live hlive).symm

theorem refs_setCounter {c : Connections} {pos : Nat} {entry : ConnId}
    (hlive : c.pool.get pos = some entry) (counter : Nat) (hpos : 0 < counter) (other : Nat) :
    (c.setCounter pos counter hpos).refs other =
      if other = entry.connId then counter else c.refs other := by
  have hget : ∀ slot, (c.setCounter pos counter hpos).pool.get slot =
      if slot = pos then (c.pool.get slot).map fun e => { e with counter := counter }
      else c.pool.get slot := fun slot => Pool.get_modify _ _ _ _
  by_cases hother : other = entry.connId
  · subst hother
    rw [if_pos rfl]
    have hlive' : (c.setCounter pos counter hpos).pool.get pos =
        some { entry with counter := counter } := by
      rw [hget, if_pos rfl, hlive]
      rfl
    exact refs_of_live hlive'
  · rw [if_neg hother]
    rcases hindex : c.index.get? other with _ | slot
    · have hindex' : (c.setCounter pos counter hpos).index.get? other = none := hindex
      rw [(refs_eq_zero_iff _ _).2 hindex', (refs_eq_zero_iff _ _).2 hindex]
    · obtain ⟨old, hold⟩ := c.index_live other slot hindex
      have hslot : slot ≠ pos := by
        rintro rfl
        rw [hold] at hlive
        cases hlive
        exact hother rfl
      have hold' : (c.setCounter pos counter hpos).pool.get slot = some ⟨other, old + 1⟩ := by
        rw [hget, if_neg hslot, hold]
      exact (refs_of_live hold').trans (refs_of_live hold).symm

theorem refs_dropConn (c : Connections) (conn pos : Nat)
    (hindex : c.index.get? conn = some pos) (other : Nat) :
    (c.dropConn conn pos hindex).refs other = if other = conn then 0 else c.refs other := by
  by_cases hother : other = conn
  · rw [if_pos hother]
    apply (refs_eq_zero_iff _ _).2
    rw [hother]
    exact HashMap.get?_remove_self _ _
  · rw [if_neg hother]
    have hsame : (c.dropConn conn pos hindex).index.get? other = c.index.get? other :=
      HashMap.get?_remove_of_ne _ hother
    rcases hslot : c.index.get? other with _ | slot
    · rw [(refs_eq_zero_iff _ _).2 (hsame.trans hslot), (refs_eq_zero_iff _ _).2 hslot]
    · obtain ⟨counter, hlive⟩ := c.index_live other slot hslot
      obtain ⟨counter', hlive'⟩ := (c.dropConn conn pos hindex).index_live other slot
        (hsame.trans hslot)
      have hpool : (c.dropConn conn pos hindex).pool.get slot = c.pool.get slot := by
        have hget : (c.dropConn conn pos hindex).pool.get slot =
            if slot = pos then none else c.pool.get slot := Pool.get_remove _ _ _
        by_cases hpos : slot = pos
        · rw [hget, if_pos hpos] at hlive'
          cases hlive'
        · rw [hget, if_neg hpos]
      exact (refs_of_live (hpool.trans hlive)).trans (refs_of_live hlive).symm

/-- Each insertion adds one reference. -/
theorem refs_insert (c : Connections) (conn other : Nat) :
    (c.insert conn).refs other = c.refs other + if other = conn then 1 else 0 := by
  unfold insert
  split
  next hindex => exact refs_addNew c conn hindex other
  next pos hindex =>
    obtain ⟨counter, hlive⟩ := c.index_live conn pos hindex
    simp only [hlive]
    rw [refs_setCounter hlive]
    by_cases hother : other = conn
    · subst hother
      rw [if_pos rfl, if_pos rfl, refs_of_live hlive]
    · rw [if_neg hother, if_neg hother, Nat.add_zero]

/-- A removal fails exactly for a connection without references, and otherwise
    takes one reference away. -/
theorem remove_cases (c : Connections) (conn : Nat) :
    (c.refs conn = 0 ∧ c.remove conn = .error .connectionIdNotFound) ∨
      (0 < c.refs conn ∧ ∃ left, c.remove conn = .ok left ∧
        ∀ other, left.refs other = c.refs other - if other = conn then 1 else 0) := by
  unfold remove
  split
  next hindex => exact Or.inl ⟨(refs_eq_zero_iff c conn).2 hindex, rfl⟩
  next pos hindex =>
    obtain ⟨counter, hlive⟩ := c.index_live conn pos hindex
    have hrefs : c.refs conn = counter + 1 := refs_of_live hlive
    refine Or.inr ⟨by omega, ?_⟩
    split
    next hnone => rw [hlive] at hnone; cases hnone
    next entry hentry =>
      have hsame : entry = ⟨conn, counter + 1⟩ := Option.some.inj (hentry.symm.trans hlive)
      subst hsame
      split
      next hone =>
        refine ⟨_, rfl, fun other => ?_⟩
        rw [refs_dropConn]
        by_cases hother : other = conn
        · subst hother
          simp only [if_true, hrefs]
          simp at hone
          omega
        · simp [hother]
      next hone =>
        refine ⟨_, rfl, fun other => ?_⟩
        rw [refs_setCounter hentry]
        by_cases hother : other = conn
        · subst hother
          simp [hrefs]
        · simp [hother]

/-! ## The searches -/

theorem mem_keys_iff (c : Connections) (conn : Nat) :
    conn ∈ c.index.entries.map Prod.fst ↔ 0 < c.refs conn := by
  rw [← contains_iff_refs_pos, HashMap.contains_iff, List.mem_map]
  rfl

/-- An index of one entry has one counted connection. -/
theorem exists_single (c : Connections) (hone : c.index.len = 1) :
    ∃ only, c.index.entries.map Prod.fst = [only] ∧ ∀ conn, 0 < c.refs conn ↔ conn = only := by
  obtain ⟨entry, hentry⟩ := List.length_eq_one_iff.1 hone
  refine ⟨entry.1, by rw [hentry]; rfl, fun conn => ?_⟩
  rw [← mem_keys_iff, hentry, List.map_singleton, List.mem_singleton]

/-- `get_all` returns the counted connections but the excluded one, each once. -/
theorem getAll_cases (c : Connections) (exceptConn : Nat) (order : IterOrder (Nat × Nat)) :
    (c.getAll exceptConn order = none ∧ ∀ conn, 0 < c.refs conn → conn = exceptConn) ∨
      ∃ out, c.getAll exceptConn order = some out ∧ out ≠ [] ∧ out.Nodup ∧
        ∀ conn, conn ∈ out ↔ 0 < c.refs conn ∧ conn ≠ exceptConn := by
  unfold getAll
  by_cases hone : c.index.len = 1
  · rw [if_pos hone]
    obtain ⟨only, hkeys, hrefs⟩ := c.exists_single hone
    by_cases hexcept : c.index.contains exceptConn = true
    · rw [if_pos hexcept]
      refine Or.inl ⟨rfl, fun conn hconn => ?_⟩
      rw [contains_iff_refs_pos, hrefs] at hexcept
      rw [(hrefs conn).1 hconn, hexcept]
    · rw [if_neg hexcept]
      rw [contains_iff_refs_pos, hrefs] at hexcept
      refine Or.inr ⟨[only], ?_, List.cons_ne_nil _ _, List.nodup_singleton _, fun conn => ?_⟩
      · have hhead : c.index.entries.head?.map Prod.fst = some only := by
          rw [← List.head?_map, hkeys]
          rfl
        rcases hentries : c.index.entries.head? with _ | entry
        · rw [hentries] at hhead
          cases hhead
        · rw [hentries, Option.map_some, Option.some.injEq] at hhead
          rw [Option.map_some, hhead]
      · rw [List.mem_singleton, hrefs]
        constructor
        · rintro rfl
          exact ⟨rfl, fun heq => hexcept heq.symm⟩
        · exact And.left
  · rw [if_neg hone]
    have hperm : ((c.index.iter order).map Prod.fst).Perm (c.index.entries.map Prod.fst) :=
      (order.perm c.index.entries).map Prod.fst
    have hmem : ∀ conn, conn ∈ ((c.index.iter order).map Prod.fst).filter
        (fun conn => decide (conn ≠ exceptConn)) ↔ 0 < c.refs conn ∧ conn ≠ exceptConn := by
      intro conn
      rw [List.mem_filter, hperm.mem_iff, mem_keys_iff, decide_eq_true_eq]
    have hnodup : (((c.index.iter order).map Prod.fst).filter
        fun conn => decide (conn ≠ exceptConn)).Nodup :=
      (hperm.nodup_iff.2 c.index.nodup).filter _
    simp only []
    rcases hout : ((c.index.iter order).map Prod.fst).filter
        (fun conn => decide (conn ≠ exceptConn)) with _ | ⟨first, rest⟩
    · refine Or.inl ⟨rfl, fun conn hconn => ?_⟩
      by_contra hne
      have hin := (hmem conn).2 ⟨hconn, hne⟩
      rw [hout] at hin
      cases hin
    · rw [hout] at hmem hnodup
      exact Or.inr ⟨_, rfl, List.cons_ne_nil _ _, hnodup, hmem⟩

theorem probe_eq_some_iff (c : Connections) (exceptConn i conn : Nat) :
    c.probe exceptConn i = some conn ↔
      ∃ counter, c.pool.get i = some ⟨conn, counter⟩ ∧ conn ≠ exceptConn := by
  unfold probe
  rcases c.pool.get i with _ | ⟨found, counter⟩
  · simp
  · simp only [Option.ite_none_right_eq_some, Option.some.injEq, ConnId.mk.injEq]
    constructor
    · rintro ⟨hne, rfl⟩
      exact ⟨counter, ⟨rfl, rfl⟩, hne⟩
    · rintro ⟨_, ⟨rfl, -⟩, hne⟩
      exact ⟨hne, rfl⟩

/-- `get_one` returns a counted connection and never the excluded one. -/
theorem getOne_sound {c : Connections} {exceptConn conn : Nat} {draw : Nat → Nat}
    (hdraw : draw (c.pool.maxSet + 1) < c.pool.maxSet + 1)
    (hfound : c.getOne exceptConn draw = some conn) : 0 < c.refs conn ∧ conn ≠ exceptConn := by
  unfold getOne at hfound
  by_cases hone : c.index.len = 1
  · rw [if_pos hone] at hfound
    obtain ⟨only, hkeys, hrefs⟩ := c.exists_single hone
    by_cases hexcept : c.index.contains exceptConn = true
    · rw [if_pos hexcept] at hfound
      cases hfound
    · rw [if_neg hexcept, ← List.head?_map, hkeys, List.head?_cons, Option.some.injEq] at hfound
      rw [contains_iff_refs_pos, hrefs] at hexcept
      rw [hrefs, hfound.symm]
      exact ⟨rfl, fun heq => hexcept heq.symm⟩
  · rw [if_neg hone] at hfound
    obtain ⟨i, -, hprobe⟩ := exists_of_circularSearch hdraw hfound
    obtain ⟨counter, hlive, hne⟩ := (c.probe_eq_some_iff exceptConn i conn).1 hprobe
    have hrefs : c.refs conn = counter := refs_of_live hlive
    have hpos : 0 < counter := c.counter_pos hlive
    exact ⟨hrefs ▸ hpos, hne⟩

/-- When `max_set` bounds the slots in use, `get_one` misses no connection. -/
theorem getOne_ne_none {c : Connections} (hcovered : c.pool.Covered) {exceptConn conn : Nat}
    {draw : Nat → Nat} (hdraw : draw (c.pool.maxSet + 1) < c.pool.maxSet + 1)
    (hrefs : 0 < c.refs conn) (hne : conn ≠ exceptConn) : c.getOne exceptConn draw ≠ none := by
  unfold getOne
  by_cases hone : c.index.len = 1
  · rw [if_pos hone]
    obtain ⟨only, hkeys, hsame⟩ := c.exists_single hone
    have hexcept : ¬ c.index.contains exceptConn = true := by
      rw [contains_iff_refs_pos, hsame]
      intro heq
      exact hne (((hsame conn).1 hrefs).trans heq.symm)
    rw [if_neg hexcept, ← List.head?_map, hkeys]
    exact Option.some_ne_none only
  · rw [if_neg hone]
    intro hnone
    obtain ⟨pos, counter, -, hlive, -⟩ := exists_live_of_refs_pos hrefs
    have hslot : pos < c.pool.maxSet + 1 :=
      Nat.lt_succ_of_le (hcovered pos (by rw [hlive]; rfl))
    have hprobe := (circularSearch_eq_none_iff _ hdraw).1 hnone pos hslot
    rw [(c.probe_eq_some_iff exceptConn pos conn).2 ⟨counter, hlive, hne⟩] at hprobe
    cases hprobe

end Connections

end Slim
