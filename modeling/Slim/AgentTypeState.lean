import Slim.Connections
import Mathlib.Logic.Function.Basic
import Mathlib.Data.Fintype.Basic

/-!
# One agent type: `AgentTypeState` of `tables/subscription_table.rs`

For every agent id, `ids` lists the connections subscribed to it, and `connections`
counts, connection by connection, how many ids of the type refer to it; both are
pairs of a local and a remote part.  Whatever calls are made, an id that is present
has a connection and no counter exceeds the number of listings, so the structure
carries both facts.
-/

namespace Slim

open HashKey Sequences

/-- The values of the random generator during one `match_one`: one draw for the
    search among the local connections and one for the remote ones. -/
structure Rng where
  draw : Fin 2 → Nat → Nat
  draw_lt : ∀ index bound, 0 < bound → draw index bound < bound

/-- The generator whose draws are all 0. -/
def Rng.zero : Rng := ⟨fun _ _ => 0, fun _ _ hpos => hpos⟩

/-- Position 0 of the pairs holds the local connections, position 1 the remote ones. -/
def sideIndex (isLocal : Bool) : Fin 2 := if isLocal then 0 else 1

theorem exists_sideIndex : ∀ side, ∃ isLocal, sideIndex isLocal = side := by decide

/-! ## The connections of the ids -/

abbrev IdMap := HashMap UInt64 (Fin 2 → List Nat)

namespace IdMap

/-- The connections listed for an id. -/
def conns (ids : IdMap) (id : UInt64) (side : Fin 2) : List Nat :=
  match ids.get? id with
  | none => []
  | some v => v side

/-- How often a connection is listed, over all ids. -/
def listings (ids : IdMap) (side : Fin 2) (conn : Nat) : Nat :=
  ids.total fun v => (v side).count conn

/-- Every id that is present lists a connection. -/
def Populated (ids : IdMap) : Prop :=
  ∀ id v, ids.get? id = some v → ∃ side, v side ≠ []

theorem conns_of_get {ids : IdMap} {id : UInt64} {v : Fin 2 → List Nat}
    (hget : ids.get? id = some v) (side : Fin 2) : ids.conns id side = v side := by
  simp only [conns, hget]

theorem count_conns_le_listings (ids : IdMap) (id : UInt64) (side : Fin 2)
    (conn : Nat) : (ids.conns id side).count conn ≤ ids.listings side conn := by
  rcases hget : ids.get? id with _ | v
  · simp [conns, hget]
  · rw [conns_of_get hget]
    exact HashMap.le_total hget fun v => (v side).count conn

theorem exists_listed_of_listings_pos {ids : IdMap} {side : Fin 2} {conn : Nat}
    (hpos : 0 < ids.listings side conn) : ∃ id, conn ∈ ids.conns id side := by
  obtain ⟨id, v, hget, hcount⟩ := HashMap.exists_of_total_pos hpos
  refine ⟨id, ?_⟩
  rw [conns_of_get hget]
  exact List.count_pos_iff.mp hcount

/-! ### Adding a connection to an id -/

variable {ids : IdMap} {agentId : UInt64} {v : Fin 2 → List Nat}

/-- The last part of `insert`. -/
def add (ids : IdMap) (agentId : UInt64) (index : Fin 2) (conn : Nat) : IdMap :=
  match ids.get? agentId with
  | none => ids.insert agentId (Function.update (fun _ => []) index [conn])
  | some v => ids.insert agentId (Function.update v index (v index ++ [conn]))

theorem get?_add (ids : IdMap) (agentId : UInt64) (index : Fin 2) (conn : Nat) (id : UInt64) :
    (ids.add agentId index conn).get? id =
      if id = agentId
      then some (Function.update (ids.conns id) index (ids.conns id index ++ [conn]))
      else ids.get? id := by
  unfold add
  by_cases hid : id = agentId
  · subst hid
    rcases hget : ids.get? id with _ | v
    · have hnil : ids.conns id = fun _ => [] := by
        funext side
        simp only [conns, hget]
      simp [hnil]
    · have hsame : ids.conns id = v := funext (conns_of_get hget)
      simp [hsame]
  · have hne : key id ≠ key agentId := hid
    rcases ids.get? agentId with _ | v
    · simp [HashMap.get?_insert_of_ne _ _ hne, hid]
    · simp [HashMap.get?_insert_of_ne _ _ hne, hid]

theorem conns_add (ids : IdMap) (agentId : UInt64) (index : Fin 2) (conn : Nat)
    (id : UInt64) (side : Fin 2) :
    (ids.add agentId index conn).conns id side =
      ids.conns id side ++ if id = agentId ∧ side = index then [conn] else [] := by
  rw [conns, get?_add]
  by_cases hid : id = agentId
  · rw [if_pos hid]
    by_cases hside : side = index
    · simp [hid, hside]
    · simp [hid, hside]
  · simp [hid, conns]

theorem listings_add (ids : IdMap) (agentId : UInt64) (index : Fin 2) (conn : Nat)
    (side : Fin 2) (other : Nat) :
    (ids.add agentId index conn).listings side other =
      ids.listings side other + if side = index ∧ other = conn then 1 else 0 := by
  unfold listings add
  rcases hget : ids.get? agentId with _ | v
  · simp only []
    rw [HashMap.total_insert_of_none hget]
    by_cases hside : side = index
    · subst hside
      by_cases hother : other = conn
      · simp [hother]
      · simp [hother, Ne.symm hother]
    · simp [hside]
  · simp only []
    have htotal := HashMap.total_insert_of_some hget
      (Function.update v index (v index ++ [conn])) fun v => (v side).count other
    by_cases hside : side = index
    · subst hside
      by_cases hother : other = conn
      · simp [hother] at htotal ⊢; omega
      · simp [hother, Ne.symm hother] at htotal ⊢; omega
    · simp [hside] at htotal ⊢; omega

theorem Populated.add (hpopulated : ids.Populated) (agentId : UInt64) (index : Fin 2)
    (conn : Nat) : (ids.add agentId index conn).Populated := by
  intro id v hget
  rw [get?_add] at hget
  by_cases hid : id = agentId
  · rw [if_pos hid, Option.some.injEq] at hget
    refine ⟨index, ?_⟩
    rw [← hget]
    simp
  · rw [if_neg hid] at hget
    exact hpopulated id v hget

/-! ### Removing a connection from an id -/

/-- The loop of `remove` over the connections of the id.  An id whose two lists are
    empty is deleted, but only by a removal that found the connection. -/
def removeConn (ids : IdMap) (agentId : UInt64) (connectionIds : Fin 2 → List Nat)
    (index : Fin 2) (conn : Nat) : IdMap :=
  if conn ∈ connectionIds index then
    let left := Function.update connectionIds index (swapRemoveFirst (connectionIds index) conn)
    if (left 0).isEmpty && (left 1).isEmpty then ids.remove agentId else ids.insert agentId left
  else ids

/-- The lists of an id after its connection is removed. -/
def withoutConn (v : Fin 2 → List Nat) (index : Fin 2) (conn : Nat) : Fin 2 → List Nat :=
  Function.update v index (swapRemoveFirst (v index) conn)

theorem withoutConn_apply (v : Fin 2 → List Nat) (index : Fin 2) (conn : Nat) (side : Fin 2) :
    withoutConn v index conn side =
      if side = index then swapRemoveFirst (v index) conn else v side :=
  Function.update_apply _ _ _ _

theorem count_withoutConn (v : Fin 2 → List Nat) (index : Fin 2) (conn : Nat) (side : Fin 2)
    (other : Nat) :
    (withoutConn v index conn side).count other +
        (if side = index ∧ other = conn ∧ conn ∈ v index then 1 else 0) =
      (v side).count other := by
  rw [withoutConn_apply]
  by_cases hside : side = index
  · subst hside
    rw [if_pos rfl, count_swapRemoveFirst]
    by_cases hother : other = conn
    · subst hother
      by_cases hmem : other ∈ v side
      · have hpos : 0 < (v side).count other := List.count_pos_iff.mpr hmem
        simp only [hmem, and_self, if_true]
        omega
      · simp [hmem, List.count_eq_zero_of_not_mem hmem]
    · simp [hother]
  · simp [hside]

/-- The loop leaves the ids alone, deletes the emptied id, or shortens one list. -/
theorem removeConn_cases (ids : IdMap) (agentId : UInt64)
    (v : Fin 2 → List Nat) (index : Fin 2) (conn : Nat) :
    (conn ∉ v index ∧ removeConn ids agentId v index conn = ids) ∨
      (conn ∈ v index ∧ (∀ side, withoutConn v index conn side = []) ∧
        removeConn ids agentId v index conn = ids.remove agentId) ∨
      (conn ∈ v index ∧ (∃ side, withoutConn v index conn side ≠ []) ∧
        removeConn ids agentId v index conn =
          ids.insert agentId (withoutConn v index conn)) := by
  unfold removeConn
  by_cases hmem : conn ∈ v index
  · rw [if_pos hmem]
    have hempty : ((withoutConn v index conn 0).isEmpty &&
        (withoutConn v index conn 1).isEmpty) = true ↔
          ∀ side, withoutConn v index conn side = [] := by
      simp [Fin.forall_fin_two]
    by_cases hall : ∀ side, withoutConn v index conn side = []
    · exact Or.inr (Or.inl ⟨hmem, hall, if_pos (hempty.2 hall)⟩)
    · refine Or.inr (Or.inr ⟨hmem, ?_, if_neg fun h => hall (hempty.1 h)⟩)
      exact Classical.not_forall.mp hall
  · exact Or.inl ⟨hmem, if_neg hmem⟩

theorem elim_get?_removeConn (hget : ids.get? agentId = some v) (index : Fin 2) (conn : Nat)
    (id : UInt64) (side : Fin 2) :
    ((removeConn ids agentId v index conn).get? id).elim [] (fun v => v side) =
      if id = agentId then withoutConn v index conn side
      else (ids.get? id).elim [] fun v => v side := by
  by_cases hid : id = agentId
  · subst hid
    rw [if_pos rfl]
    rcases removeConn_cases ids id v index conn with ⟨hmem, hids⟩ | ⟨-, hall, hids⟩ | ⟨-, -, hids⟩
    · rw [hids, hget, withoutConn_apply, swapRemoveFirst_of_notMem hmem]
      split
      next hside => rw [hside]; rfl
      next => rfl
    · rw [hids, HashMap.get?_remove_self, hall]
      rfl
    · rw [hids, HashMap.get?_insert_self]
      rfl
  · have hne : key id ≠ key agentId := hid
    rw [if_neg hid]
    rcases removeConn_cases ids agentId v index conn with ⟨-, hids⟩ | ⟨-, -, hids⟩ | ⟨-, -, hids⟩
    · rw [hids]
    · rw [hids, HashMap.get?_remove_of_ne _ hne]
    · rw [hids, HashMap.get?_insert_of_ne _ _ hne]

theorem total_removeConn (hget : ids.get? agentId = some v) (index : Fin 2) (conn : Nat)
    (side : Fin 2) (other : Nat) :
    (removeConn ids agentId v index conn).total (fun v => (v side).count other) +
        (if side = index ∧ other = conn ∧ conn ∈ v index then 1 else 0) =
      ids.total fun v => (v side).count other := by
  have hcount := count_withoutConn v index conn side other
  rcases removeConn_cases ids agentId v index conn with
    ⟨hmem, hids⟩ | ⟨-, hall, hids⟩ | ⟨-, -, hids⟩
  · simp [hids, hmem]
  · have htotal := HashMap.total_remove hget fun v => (v side).count other
    rw [hall, List.count_nil, Nat.zero_add] at hcount
    rw [hids]
    omega
  · have htotal := HashMap.total_insert_of_some hget (withoutConn v index conn)
      fun v => (v side).count other
    rw [hids]
    omega

theorem conns_removeConn (hget : ids.get? agentId = some v) (index : Fin 2) (conn : Nat)
    (id : UInt64) (side : Fin 2) :
    (ids.removeConn agentId v index conn).conns id side =
      if id = agentId ∧ side = index then swapRemoveFirst (ids.conns id side) conn
      else ids.conns id side := by
  have helim : ∀ (ids : IdMap) (id : UInt64),
      ids.conns id side = (ids.get? id).elim [] fun v => v side := by
    intro ids id
    unfold conns
    rcases ids.get? id with _ | w <;> rfl
  rw [helim, elim_get?_removeConn hget, helim]
  by_cases hid : id = agentId
  · rw [if_pos hid, hid, hget, withoutConn_apply]
    by_cases hside : side = index
    · simp [hside]
    · simp [hside]
  · simp [hid]

theorem listings_removeConn (hget : ids.get? agentId = some v) (index : Fin 2) (conn : Nat)
    (side : Fin 2) (other : Nat) :
    (ids.removeConn agentId v index conn).listings side other +
        (if side = index ∧ other = conn ∧ conn ∈ ids.conns agentId index then 1 else 0) =
      ids.listings side other := by
  rw [conns_of_get hget]
  exact total_removeConn hget index conn side other

theorem Populated.removeConn (hpopulated : ids.Populated) (agentId : UInt64) (v : Fin 2 → List Nat)
    (index : Fin 2) (conn : Nat) :
    (ids.removeConn agentId v index conn).Populated := by
  intro id w hget
  rcases removeConn_cases ids agentId v index conn with ⟨-, hids⟩ | ⟨-, -, hids⟩ | ⟨-, hsome, hids⟩
  · rw [hids] at hget
    exact hpopulated id w hget
  · rw [hids, HashMap.get?_remove] at hget
    split at hget
    · cases hget
    · exact hpopulated id w hget
  · rw [hids, HashMap.get?_insert] at hget
    split at hget
    · cases hget
      exact hsome
    · exact hpopulated id w hget

end IdMap

/-! ## The state of a type -/

@[ext] structure AgentTypeState where
  ids : IdMap
  connections : Fin 2 → Connections
  populated : ids.Populated
  refs_le : ∀ side conn, (connections side).refs conn ≤ ids.listings side conn

namespace AgentTypeState

def default : AgentTypeState where
  ids := HashMap.empty
  connections := fun _ => Connections.default
  populated := fun _ _ hget => nomatch hget
  refs_le := fun _ _ => Nat.le_refl 0

theorem refs_update_insert_le {ids : IdMap} {connections : Fin 2 → Connections}
    (hle : ∀ side conn, (connections side).refs conn ≤ ids.listings side conn)
    (agentId : UInt64) (index : Fin 2) (conn : Nat) (side : Fin 2) (other : Nat) :
    (Function.update connections index ((connections index).insert conn) side).refs other ≤
      (ids.add agentId index conn).listings side other := by
  have hold := hle side other
  rw [IdMap.listings_add]
  by_cases hside : side = index
  · subst hside
    rw [Function.update_self, Connections.refs_insert]
    simp only [true_and]
    omega
  · rw [Function.update_of_ne hside]
    omega

def insert (state : AgentTypeState) (agentId : UInt64) (conn : Nat) (isLocal : Bool) :
    AgentTypeState :=
  let index := sideIndex isLocal
  { ids := state.ids.add agentId index conn
    connections := Function.update state.connections index ((state.connections index).insert conn)
    populated := state.populated.add agentId index conn
    refs_le := refs_update_insert_le state.refs_le agentId index conn }

theorem insert_empty_eq_add (agentId : UInt64) (index : Fin 2) (conn : Nat) :
    (HashMap.empty.insert agentId fun side => if side = index then [conn] else [] : IdMap) =
      IdMap.add HashMap.empty agentId index conn := by
  rw [IdMap.add, HashMap.get?_empty]
  congr 1
  funext side
  rw [Function.update_apply]

def new (agentId : UInt64) (conn : Nat) (isLocal : Bool) : AgentTypeState :=
  if isLocal then
    { ids := default.ids.insert agentId fun side => if side = 0 then [conn] else []
      connections := Function.update default.connections 0 ((default.connections 0).insert conn)
      populated := insert_empty_eq_add agentId 0 conn ▸ default.populated.add agentId 0 conn
      refs_le := insert_empty_eq_add agentId 0 conn ▸
        refs_update_insert_le default.refs_le agentId 0 conn }
  else
    { ids := default.ids.insert agentId fun side => if side = 1 then [conn] else []
      connections := Function.update default.connections 1 ((default.connections 1).insert conn)
      populated := insert_empty_eq_add agentId 1 conn ▸ default.populated.add agentId 1 conn
      refs_le := insert_empty_eq_add agentId 1 conn ▸
        refs_update_insert_le default.refs_le agentId 1 conn }

/-- Creating the state of a type is inserting into the empty state. -/
theorem new_eq_insert (agentId : UInt64) (conn : Nat) (isLocal : Bool) :
    new agentId conn isLocal = default.insert agentId conn isLocal := by
  cases isLocal
  · exact AgentTypeState.ext (insert_empty_eq_add agentId 1 conn) rfl
  · exact AgentTypeState.ext (insert_empty_eq_add agentId 0 conn) rfl

theorem refs_update_remove_le {state : AgentTypeState} {agentId : UInt64}
    {v : Fin 2 → List Nat} (hget : state.ids.get? agentId = some v) {index : Fin 2}
    {conn : Nat} {left : Connections} (hleft : (state.connections index).remove conn = .ok left)
    (side : Fin 2) (other : Nat) :
    (Function.update state.connections index left side).refs other ≤
      (state.ids.removeConn agentId v index conn).listings side other := by
  have hold := state.refs_le side other
  have hlistings := IdMap.listings_removeConn hget index conn side other
  rcases (state.connections index).remove_cases conn with
    ⟨-, herror⟩ | ⟨hpos, left', hok, hrefs⟩
  · rw [hleft] at herror
    cases herror
  rw [hleft] at hok
  cases hok
  by_cases hside : side = index
  · subst hside
    rw [Function.update_self, hrefs]
    simp only [true_and] at hlistings
    split <;> split at hlistings <;> omega
  · rw [Function.update_of_ne hside]
    simp only [hside, false_and, if_false] at hlistings
    omega

def remove (state : AgentTypeState) (agentId : UInt64) (conn : Nat) (isLocal : Bool) :
    Except SubscriptionTableError AgentTypeState :=
  match hget : state.ids.get? agentId with
  | none => .error .agentIdNotFound
  | some connectionIds =>
      let index := sideIndex isLocal
      match hleft : (state.connections index).remove conn with
      | .error e => .error e
      | .ok left =>
          .ok { ids := state.ids.removeConn agentId connectionIds index conn
                connections := Function.update state.connections index left
                populated := state.populated.removeConn agentId connectionIds index conn
                refs_le := refs_update_remove_le hget hleft }

/-- Choose one connection.  In the loop for a known id the test reads position
    `pos` in every round, and `pos` is drawn below the length of the pair of lists,
    which is 2. -/
def getOneConnection (state : AgentTypeState) (agentId : Option UInt64) (incomingConn : Nat)
    (getLocalConnection : Bool) (rng : Rng) : Option Nat :=
  let index := sideIndex getLocalConnection
  match agentId with
  | none => (state.connections index).getOne incomingConn (rng.draw index)
  | some id =>
      match state.ids.get? id with
      | none =>
          -- with a single connection for the type, that one is tried
          if (state.connections index).index.len = 1 then
            (state.connections index).getOne incomingConn (rng.draw index)
          else none
      | some vec =>
          match vec index with
          | [] => none
          | [conn] => if conn = incomingConn then none else some conn
          | first :: second :: rest =>
              let conns := first :: second :: rest
              let pos := rng.draw index 2
              circularSearch conns.length pos fun _ =>
                match conns[pos]? with
                | none => none
                | some conn => if conn ≠ incomingConn then some conn else none

def getAllConnections (state : AgentTypeState) (agentId : Option UInt64) (incomingConn : Nat)
    (getLocalConnection : Bool) (order : IterOrder (Nat × Nat)) : Option (List Nat) :=
  let index := sideIndex getLocalConnection
  match agentId with
  | none => (state.connections index).getAll incomingConn order
  | some id =>
      match state.ids.get? id with
      | none => none
      | some vec =>
          match vec index with
          | [] => none
          | [conn] => if conn = incomingConn then none else some [conn]
          | first :: second :: rest =>
              let out := (first :: second :: rest).filter fun conn => decide (conn ≠ incomingConn)
              if out.isEmpty then none else some out


/-! ## What the operations do to the views -/

def conns (state : AgentTypeState) (id : UInt64) (side : Fin 2) : List Nat :=
  state.ids.conns id side

def listings (state : AgentTypeState) (side : Fin 2) (conn : Nat) : Nat :=
  state.ids.listings side conn

/-- The reference counter of a connection. -/
def refs (state : AgentTypeState) (side : Fin 2) (conn : Nat) : Nat :=
  (state.connections side).refs conn

theorem refs_insert (state : AgentTypeState) (agentId : UInt64) (conn : Nat) (isLocal : Bool)
    (side : Fin 2) (other : Nat) :
    (state.insert agentId conn isLocal).refs side other =
      state.refs side other + if side = sideIndex isLocal ∧ other = conn then 1 else 0 := by
  simp only [refs, insert]
  by_cases hside : side = sideIndex isLocal
  · subst hside
    simp [Function.update_self, Connections.refs_insert]
  · simp [hside]

theorem conns_insert (state : AgentTypeState) (agentId : UInt64) (conn : Nat) (isLocal : Bool)
    (id : UInt64) (side : Fin 2) :
    (state.insert agentId conn isLocal).conns id side =
      state.conns id side ++ if id = agentId ∧ side = sideIndex isLocal then [conn] else [] :=
  IdMap.conns_add _ _ _ _ _ _

theorem listings_insert (state : AgentTypeState) (agentId : UInt64) (conn : Nat)
    (isLocal : Bool) (side : Fin 2) (other : Nat) :
    (state.insert agentId conn isLocal).listings side other =
      state.listings side other + if side = sideIndex isLocal ∧ other = conn then 1 else 0 :=
  IdMap.listings_add _ _ _ _ _ _

/-- When `remove` fails and what it does otherwise. -/
theorem remove_cases (state : AgentTypeState) (agentId : UInt64) (conn : Nat) (isLocal : Bool) :
    (state.ids.get? agentId = none ∧
        state.remove agentId conn isLocal = .error .agentIdNotFound) ∨
      (∃ v, state.ids.get? agentId = some v ∧ state.refs (sideIndex isLocal) conn = 0 ∧
        state.remove agentId conn isLocal = .error .connectionIdNotFound) ∨
      (∃ v left, state.ids.get? agentId = some v ∧ 0 < state.refs (sideIndex isLocal) conn ∧
        state.remove agentId conn isLocal = .ok left ∧
        left.ids = state.ids.removeConn agentId v (sideIndex isLocal) conn ∧
        (∀ side other, left.refs side other = state.refs side other -
          if side = sideIndex isLocal ∧ other = conn then 1 else 0) ∧
        ∃ removed, (state.connections (sideIndex isLocal)).remove conn = .ok removed ∧
          left.connections = Function.update state.connections (sideIndex isLocal) removed) := by
  unfold remove
  split
  next hget => exact Or.inl ⟨hget, rfl⟩
  next v hget =>
    simp only []
    split
    next e hremove =>
      rcases (state.connections (sideIndex isLocal)).remove_cases conn with
        ⟨hzero, herror⟩ | ⟨-, left, hok, -⟩
      · rw [hremove, Except.error.injEq] at herror
        exact Or.inr (Or.inl ⟨v, hget, hzero, by rw [herror]⟩)
      · rw [hremove] at hok
        cases hok
    next left hremove =>
      rcases (state.connections (sideIndex isLocal)).remove_cases conn with
        ⟨-, herror⟩ | ⟨hpos, left', hok, hrefs⟩
      · rw [hremove] at herror
        cases herror
      rw [hremove, Except.ok.injEq] at hok
      subst hok
      refine Or.inr (Or.inr ⟨v, _, hget, hpos, rfl, rfl, fun side other => ?_, left, hremove,
        rfl⟩)
      by_cases hside : side = sideIndex isLocal
      · subst hside
        simp [refs, Function.update_self, hrefs]
      · simp [refs, hside]

end AgentTypeState

end Slim
