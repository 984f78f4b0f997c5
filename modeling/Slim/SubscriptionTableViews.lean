import Slim.SubscriptionTable

/-!
# What the subscription table stores

The proofs about the subscription table never look inside its maps.  They read a
table through four views: the list of connections of an agent (`conns`), the
reference counter of a connection under a type (`refs`), the number of times a
connection is listed under a type (`listings`), and the agents a connection holds
(`Holds`).  This file says, for each lock-protected section of
`tables/subscription_table.rs`, when it succeeds and what it does to the views.
-/

namespace Slim

open HashKey Sequences

/-! ## The table of types -/

namespace SubTable

/-- The state of a type, the empty one when the type is not in the table. -/
def state (table : SubTable) (agentType : AgentType) : AgentTypeState :=
  (table.get? agentType).getD AgentTypeState.default

/-- The connections listed for an agent. -/
def conns (table : SubTable) (agent : Agent) (side : Fin 2) : List Nat :=
  (table.state agent.agentType).conns agent.agentId side

/-- The reference counter of a connection under a type. -/
def refs (table : SubTable) (agentType : AgentType) (side : Fin 2) (conn : Nat) : Nat :=
  (table.state agentType).refs side conn

/-- How often a connection is listed under a type. -/
def listings (table : SubTable) (agentType : AgentType) (side : Fin 2) (conn : Nat) : Nat :=
  (table.state agentType).listings side conn

/-- The agent's id has an entry under its type. -/
def Known (table : SubTable) (agent : Agent) : Prop :=
  ∃ v, (table.state agent.agentType).ids.get? agent.agentId = some v

theorem state_congr (table : SubTable) {agentType other : AgentType}
    (hkey : key agentType = key other) : table.state agentType = table.state other := by
  rw [state, state, HashMap.get?_congr table hkey]

theorem state_of_get {table : SubTable} {agentType : AgentType} {st : AgentTypeState}
    (hget : table.get? agentType = some st) : table.state agentType = st := by
  rw [state, hget, Option.getD_some]

theorem key_eq_iff (agent other : Agent) :
    key agent = key other ↔
      key agent.agentType = key other.agentType ∧ agent.agentId = other.agentId := by
  rw [key_agent, key_agent, Prod.mk.injEq]

theorem conns_congr (table : SubTable) {agent other : Agent} (hkey : key agent = key other)
    (side : Fin 2) : table.conns agent side = table.conns other side := by
  obtain ⟨htype, hid⟩ := (key_eq_iff agent other).1 hkey
  rw [conns, conns, state_congr table htype, hid]

theorem state_insert (table : SubTable) (agentType other : AgentType) (st : AgentTypeState) :
    SubTable.state (table.insert agentType st) other =
      if key other = key agentType then st else table.state other := by
  rw [state, HashMap.get?_insert]
  split
  · rfl
  · rfl

theorem state_remove (table : SubTable) (agentType other : AgentType) :
    SubTable.state (table.remove agentType) other =
      if key other = key agentType then AgentTypeState.default else table.state other := by
  rw [state, HashMap.get?_remove]
  split
  · rfl
  · rfl

/-- An id with an entry is one that lists a connection. -/
theorem known_iff (table : SubTable) (agent : Agent) :
    table.Known agent ↔ ∃ side conn, conn ∈ table.conns agent side := by
  constructor
  · rintro ⟨v, hget⟩
    obtain ⟨side, hne⟩ := (table.state agent.agentType).populated _ v hget
    obtain ⟨conn, hmem⟩ := List.exists_mem_of_ne_nil _ hne
    refine ⟨side, conn, ?_⟩
    rw [conns, AgentTypeState.conns, IdMap.conns_of_get hget]
    exact hmem
  · rintro ⟨side, conn, hmem⟩
    rw [conns, AgentTypeState.conns, IdMap.conns] at hmem
    rcases hget : (table.state agent.agentType).ids.get? agent.agentId with _ | v
    · rw [hget] at hmem
      cases hmem
    · exact ⟨v, hget⟩

theorem refs_le_listings (table : SubTable) (agentType : AgentType) (side : Fin 2) (conn : Nat) :
    table.refs agentType side conn ≤ table.listings agentType side conn :=
  (table.state agentType).refs_le side conn

theorem listings_pos_iff (table : SubTable) (agentType : AgentType) (side : Fin 2) (conn : Nat) :
    0 < table.listings agentType side conn ↔
      ∃ id, conn ∈ table.conns ⟨agentType, id⟩ side := by
  constructor
  · intro hpos
    exact IdMap.exists_listed_of_listings_pos hpos
  · rintro ⟨id, hmem⟩
    have hcount : 0 < (table.conns ⟨agentType, id⟩ side).count conn := List.count_pos_iff.mpr hmem
    exact hcount.trans_le (IdMap.count_conns_le_listings _ _ _ _)

/-! ### Adding a subscription -/

theorem state_add (agent : Agent) (conn : Nat) (isLocal : Bool) (table : SubTable)
    (other : AgentType) :
    SubTable.state (addSubscriptionToSubTable agent conn isLocal table) other =
      if key other = key agent.agentType
      then (table.state other).insert agent.agentId conn isLocal else table.state other := by
  unfold addSubscriptionToSubTable
  rcases hget : table.get? agent.agentType with _ | st
  · simp only [state_insert, AgentTypeState.new_eq_insert]
    by_cases hkey : key other = key agent.agentType
    · rw [if_pos hkey, if_pos hkey, state_congr table hkey, state, hget, Option.getD_none]
    · rw [if_neg hkey, if_neg hkey]
  · simp only [state_insert]
    by_cases hkey : key other = key agent.agentType
    · rw [if_pos hkey, if_pos hkey, state_congr table hkey, state_of_get hget]
    · rw [if_neg hkey, if_neg hkey]

theorem conns_add (agent : Agent) (conn : Nat) (isLocal : Bool) (table : SubTable)
    (other : Agent) (side : Fin 2) :
    SubTable.conns (addSubscriptionToSubTable agent conn isLocal table) other side =
      table.conns other side ++
        if key other = key agent ∧ side = sideIndex isLocal then [conn] else [] := by
  simp only [conns, state_add, key_eq_iff]
  by_cases htype : key other.agentType = key agent.agentType
  · rw [if_pos htype, AgentTypeState.conns_insert]
    simp only [htype, true_and]
  · rw [if_neg htype]
    simp [htype]

theorem refs_add (agent : Agent) (conn : Nat) (isLocal : Bool) (table : SubTable)
    (other : AgentType) (side : Fin 2) (otherConn : Nat) :
    SubTable.refs (addSubscriptionToSubTable agent conn isLocal table) other side otherConn =
      table.refs other side otherConn +
        if key other = key agent.agentType ∧ side = sideIndex isLocal ∧ otherConn = conn
        then 1 else 0 := by
  simp only [refs, state_add]
  by_cases htype : key other = key agent.agentType
  · rw [if_pos htype, AgentTypeState.refs_insert]
    simp only [htype, true_and]
  · rw [if_neg htype]
    simp [htype]

theorem listings_add (agent : Agent) (conn : Nat) (isLocal : Bool) (table : SubTable)
    (other : AgentType) (side : Fin 2) (otherConn : Nat) :
    SubTable.listings (addSubscriptionToSubTable agent conn isLocal table) other side otherConn =
      table.listings other side otherConn +
        if key other = key agent.agentType ∧ side = sideIndex isLocal ∧ otherConn = conn
        then 1 else 0 := by
  simp only [listings, state_add]
  by_cases htype : key other = key agent.agentType
  · rw [if_pos htype, AgentTypeState.listings_insert]
    simp only [htype, true_and]
  · rw [if_neg htype]
    simp [htype]

/-! ### Removing a subscription -/

/-- What a successful removal does: one occurrence of the connection leaves the list
    of the agent, if there is one, and one reference is dropped in any case. -/
structure RemovedFrom (agent : Agent) (conn : Nat) (index : Fin 2) (table left : SubTable) :
    Prop where
  conns_eq : ∀ other side, left.conns other side =
    if key other = key agent ∧ side = index
    then swapRemoveFirst (table.conns other side) conn else table.conns other side
  refs_eq : ∀ other side otherConn, left.refs other side otherConn =
    table.refs other side otherConn -
      if key other = key agent.agentType ∧ side = index ∧ otherConn = conn then 1 else 0
  listings_eq : ∀ other side otherConn, left.listings other side otherConn +
      (if key other = key agent.agentType ∧ side = index ∧ otherConn = conn ∧
        conn ∈ table.conns agent index then 1 else 0) =
    table.listings other side otherConn

/-- Deleting a type whose ids are gone changes no view, since no counter of the type
    is left above zero. -/
theorem views_of_isEmpty {state : AgentTypeState} (hempty : state.ids.isEmpty = true) :
    (∀ id side, state.conns id side = []) ∧ (∀ side conn, state.listings side conn = 0) ∧
      ∀ side conn, state.refs side conn = 0 := by
  have hnone := (HashMap.isEmpty_iff state.ids).1 hempty
  have hconns : ∀ id side, state.conns id side = [] := by
    intro id side
    simp only [AgentTypeState.conns, IdMap.conns, hnone]
  have hlistings : ∀ side conn, state.listings side conn = 0 := by
    intro side conn
    by_contra hne
    obtain ⟨id, hmem⟩ := IdMap.exists_listed_of_listings_pos (Nat.pos_of_ne_zero hne)
    have hnil : state.ids.conns id side = [] := hconns id side
    rw [hnil] at hmem
    cases hmem
  refine ⟨hconns, hlistings, fun side conn => ?_⟩
  have hle := state.refs_le side conn
  exact Nat.le_zero.1 (hle.trans_eq (hlistings side conn))

/-- The table in which a type gets the state `left`, or is deleted if `left` has no
    ids, has the views of `left` at that type. -/
theorem views_of_store (table : SubTable) (agentType : AgentType) (left : AgentTypeState) :
    ∃ result : SubTable,
      (if left.ids.isEmpty then Except.ok (table.remove agentType)
        else .ok (table.insert agentType left)) =
        (Except.ok result : Except SubscriptionTableError SubTable) ∧
      (∀ other, key other ≠ key agentType → result.state other = table.state other) ∧
      ∀ other, key other = key agentType →
        (∀ id side, (result.state other).conns id side = left.conns id side) ∧
        (∀ side conn, (result.state other).refs side conn = left.refs side conn) ∧
        ∀ side conn, (result.state other).listings side conn = left.listings side conn := by
  by_cases hempty : left.ids.isEmpty = true
  · obtain ⟨hconns, hlistings, hrefs⟩ := views_of_isEmpty hempty
    refine ⟨table.remove agentType, if_pos hempty, fun other hkey => ?_, fun other hkey => ?_⟩
    · rw [state_remove, if_neg hkey]
    · rw [state_remove, if_pos hkey]
      exact ⟨fun id side => (hconns id side).symm, fun side conn => (hrefs side conn).symm,
        fun side conn => (hlistings side conn).symm⟩
  · refine ⟨table.insert agentType left, if_neg hempty, fun other hkey => ?_, fun other hkey => ?_⟩
    · rw [state_insert, if_neg hkey]
    · rw [state_insert, if_pos hkey]
      exact ⟨fun _ _ => rfl, fun _ _ => rfl, fun _ _ => rfl⟩

/-- The section fails and changes nothing, for an agent without an entry or a
    connection without a reference, or it succeeds. -/
theorem remove_cases (agent : Agent) (conn : Nat) (isLocal : Bool) (table : SubTable) :
    ((¬ table.Known agent ∨ table.refs agent.agentType (sideIndex isLocal) conn = 0) ∧
        ∃ e, removeSubscriptionFromSubTable agent conn isLocal table = .error e) ∨
      (table.Known agent ∧ 0 < table.refs agent.agentType (sideIndex isLocal) conn ∧
        ∃ left, removeSubscriptionFromSubTable agent conn isLocal table = .ok left ∧
          RemovedFrom agent conn (sideIndex isLocal) table left) := by
  unfold removeSubscriptionFromSubTable
  rcases hget : table.get? agent.agentType with _ | st
  · refine Or.inl ⟨Or.inl ?_, _, rfl⟩
    rintro ⟨v, hv⟩
    rw [state, hget, Option.getD_none] at hv
    cases hv
  have hstate := state_of_get hget
  rcases st.remove_cases agent.agentId conn isLocal with
    ⟨hnone, herror⟩ | ⟨v, hv, hzero, herror⟩ | ⟨v, left, hv, hpos, hok, hids, hrefs, -⟩
  · refine Or.inl ⟨Or.inl ?_, _, by simp only [herror]; rfl⟩
    rintro ⟨w, hw⟩
    rw [hstate, hnone] at hw
    cases hw
  · refine Or.inl ⟨Or.inr ?_, _, by simp only [herror]; rfl⟩
    rw [refs, hstate]
    exact hzero
  · refine Or.inr ⟨⟨v, by rw [hstate]; exact hv⟩, by rw [refs, hstate]; exact hpos, ?_⟩
    have hconns : ∀ id side, left.conns id side =
        if id = agent.agentId ∧ side = sideIndex isLocal
        then swapRemoveFirst (st.conns id side) conn else st.conns id side := by
      intro id side
      rw [AgentTypeState.conns, hids]
      exact IdMap.conns_removeConn hv _ _ _ _
    have hlistings : ∀ side other, left.listings side other +
        (if side = sideIndex isLocal ∧ other = conn ∧
          conn ∈ st.conns agent.agentId (sideIndex isLocal) then 1 else 0) =
        st.listings side other := by
      intro side other
      rw [AgentTypeState.listings, hids]
      exact IdMap.listings_removeConn hv _ _ _ _
    obtain ⟨result, hresult, hframe, hviews⟩ := views_of_store table agent.agentType left
    refine ⟨result, by simp only [hok]; exact hresult, ?_, ?_, ?_⟩
    · intro other side
      simp only [conns, key_eq_iff]
      by_cases htype : key other.agentType = key agent.agentType
      · rw [(hviews _ htype).1, hconns, state_congr table htype, hstate]
        simp only [htype, true_and]
      · rw [hframe _ htype]
        simp [htype]
    · intro other side otherConn
      simp only [refs]
      by_cases htype : key other = key agent.agentType
      · rw [(hviews _ htype).2.1, hrefs, state_congr table htype, hstate]
        simp only [htype, true_and]
      · rw [hframe _ htype]
        simp [htype]
    · intro other side otherConn
      by_cases htype : key other = key agent.agentType
      · have hsame := hlistings side otherConn
        simp only [listings, conns, htype, true_and, (hviews _ htype).2.2,
          state_congr table htype, hstate]
        exact hsame
      · simp [listings, hframe _ htype, htype]

theorem removedFrom_of_ok {agent : Agent} {conn : Nat} {isLocal : Bool} {table left : SubTable}
    (hok : removeSubscriptionFromSubTable agent conn isLocal table = .ok left) :
    RemovedFrom agent conn (sideIndex isLocal) table left := by
  rcases remove_cases agent conn isLocal table with
    ⟨-, e, herror⟩ | ⟨-, -, found, hfound, hremoved⟩
  · rw [hok] at herror
    cases herror
  · rw [hok, Except.ok.injEq] at hfound
    rw [hfound]
    exact hremoved

end SubTable

/-! ## The agents of the connections -/

namespace ConnTable

open SubscriptionTableImpl

/-- The connection has the agent in its set. -/
def Holds (map : ConnTable) (agent : Agent) (conn : Nat) : Prop :=
  isSubscribed map agent conn = true

instance (map : ConnTable) (agent : Agent) (conn : Nat) : Decidable (map.Holds agent conn) :=
  inferInstanceAs (Decidable (_ = true))

theorem holds_iff (map : ConnTable) (agent : Agent) (conn : Nat) :
    map.Holds agent conn ↔ ∃ set, map.get? conn = some set ∧ set.contains agent = true := by
  unfold Holds isSubscribed
  rcases map.get? conn with _ | set
  · simp
  · simp

theorem holds_congr (map : ConnTable) {agent other : Agent} (hkey : key agent = key other)
    (conn : Nat) : map.Holds agent conn ↔ map.Holds other conn := by
  simp only [holds_iff, HashMap.contains_congr _ hkey]

theorem not_holds_of_get_none {map : ConnTable} {conn : Nat} (hget : map.get? conn = none)
    (agent : Agent) : ¬ map.Holds agent conn := by
  rw [holds_iff, hget]
  rintro ⟨set, hset, -⟩
  cases hset

theorem not_holds_empty (agent : Agent) (conn : Nat) :
    ¬ ConnTable.Holds HashMap.empty agent conn :=
  not_holds_of_get_none rfl agent

/-- The agents of a connection, in the order in which a loop over its set visits them. -/
theorem holds_iff_mem_iter {map : ConnTable} {conn : Nat} {set : HashSet Agent}
    (hget : map.get? conn = some set) (order : IterOrder (Agent × Unit)) :
    (((set.iter order).map Prod.fst).map key).Nodup ∧
      ∀ agent, map.Holds agent conn ↔ ∃ a ∈ (set.iter order).map Prod.fst, key agent = key a := by
  constructor
  · rw [List.map_map]
    exact HashMap.nodup_iter set order
  · intro agent
    simp only [holds_iff, hget, Option.some.injEq, exists_eq_left', List.mem_map,
      HashMap.mem_iter, HashMap.contains_iff]
    constructor
    · rintro ⟨entry, hentry, hkey⟩
      exact ⟨entry.1, ⟨entry, hentry, rfl⟩, hkey.symm⟩
    · rintro ⟨a, ⟨entry, hentry, rfl⟩, hkey⟩
      exact ⟨entry, hentry, hkey.symm⟩

/-- Storing a set for a connection decides what that connection holds. -/
theorem holds_insert (map : ConnTable) (conn : Nat) (set : HashSet Agent) (other : Agent)
    (otherConn : Nat) :
    ConnTable.Holds (map.insert conn set) other otherConn ↔
      if otherConn = conn then set.contains other = true else map.Holds other otherConn := by
  rw [holds_iff]
  by_cases hconn : otherConn = conn
  · subst hconn
    simp
  · rw [if_neg hconn, holds_iff, HashMap.get?_insert_of_ne _ _ hconn]

theorem holds_remove (map : ConnTable) (conn : Nat) (other : Agent) (otherConn : Nat) :
    ConnTable.Holds (map.remove conn) other otherConn ↔
      map.Holds other otherConn ∧ otherConn ≠ conn := by
  rw [holds_iff, holds_iff]
  by_cases hconn : otherConn = conn
  · subst hconn
    simp
  · rw [HashMap.get?_remove_of_ne _ hconn]
    simp [hconn]

theorem holds_add (agent : Agent) (conn : Nat) (map : ConnTable) (other : Agent)
    (otherConn : Nat) :
    ConnTable.Holds (addSubscriptionToConnection agent conn map) other otherConn ↔
      map.Holds other otherConn ∨ (key other = key agent ∧ otherConn = conn) := by
  unfold addSubscriptionToConnection
  rcases hget : map.get? conn with _ | set
  · simp only [holds_insert]
    by_cases hconn : otherConn = conn
    · subst hconn
      simp [HashMap.contains_insert, not_holds_of_get_none hget]
    · simp [hconn]
  · by_cases hcontains : set.contains agent = true
    · simp only [if_pos hcontains]
      constructor
      · exact Or.inl
      · rintro (hholds | ⟨hkey, rfl⟩)
        · exact hholds
        · rw [holds_iff]
          exact ⟨set, hget, by rwa [HashMap.contains_congr set hkey]⟩
    · simp only [if_neg hcontains, holds_insert]
      by_cases hconn : otherConn = conn
      · subst hconn
        simp [HashMap.contains_insert, holds_iff, hget, or_comm]
      · simp [hconn]

/-- The section fails and changes nothing unless the connection holds the agent. -/
theorem remove_cases (agent : Agent) (conn : Nat) (map : ConnTable) :
    (¬ map.Holds agent conn ∧
        ∃ e, removeSubscriptionFromConnection agent conn map = .error e) ∨
      (map.Holds agent conn ∧ ∃ left, removeSubscriptionFromConnection agent conn map = .ok left ∧
        ∀ other otherConn, ConnTable.Holds left other otherConn ↔
          map.Holds other otherConn ∧ ¬ (key other = key agent ∧ otherConn = conn)) := by
  unfold removeSubscriptionFromConnection
  rcases hget : map.get? conn with _ | set
  · exact Or.inl ⟨not_holds_of_get_none hget agent, _, rfl⟩
  have hholds : ∀ other, map.Holds other conn ↔ set.contains other = true := by
    intro other
    simp [holds_iff, hget]
  by_cases hcontains : set.contains agent = true
  · refine Or.inr ⟨(hholds agent).2 hcontains, ?_⟩
    simp only [if_pos hcontains]
    -- what is left of the set is stored, or the connection is deleted when nothing is
    by_cases hempty : (set.remove agent).isEmpty = true
    · refine ⟨_, if_pos hempty, fun other otherConn => ?_⟩
      rw [holds_remove]
      by_cases hconn : otherConn = conn
      · subst hconn
        have hnone := (HashMap.isEmpty_iff _).1 hempty other
        have hcontains' := HashMap.contains_remove set agent other
        rw [HashMap.contains, hnone] at hcontains'
        simp only [Option.isSome_none, ne_eq, Bool.false_eq, Bool.and_eq_false_iff,
          decide_eq_false_iff_not, not_not] at hcontains'
        simp only [ne_eq, not_true_eq_false, and_false, and_true, hholds, false_iff, not_and,
          not_not]
        intro hother
        rw [hother] at hcontains'
        exact hcontains'.resolve_right (by simp)
      · simp [hconn]
    · refine ⟨_, if_neg hempty, fun other otherConn => ?_⟩
      rw [holds_insert]
      by_cases hconn : otherConn = conn
      · subst hconn
        simp [HashMap.contains_remove, hholds, and_comm]
      · simp [hconn]
  · refine Or.inl ⟨fun h => hcontains ((hholds agent).1 h), _, if_neg hcontains⟩

end ConnTable

end Slim
