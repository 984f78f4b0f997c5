import Slim.Runs
import Slim.SubscriptionTableViews
import Mathlib.Tactic.Tauto

/-!
# The invariants of the subscription table

Two invariants of the state between calls.  `Coherent` says that the lists of the
table are sound with respect to the agent sets: it survives every call whose
`is_local` flag agrees with the side on which the connection is already listed.
`Consistent` says that all copies of a subscription agree; besides the flag it
needs that no unsubscription is stray, that is, aimed at a name the connection does
not hold while another connection holds the name and this connection holds another
name of the type.
-/

namespace Slim

open HashKey Sequences SubscriptionTableImpl

namespace SubTable

/-- No list of the table repeats a connection. -/
def Unique (table : SubTable) : Prop := ∀ agent side, (table.conns agent side).Nodup

/-- Every reference counter is the number of listings. -/
def Counted (table : SubTable) : Prop :=
  ∀ agentType side conn, table.refs agentType side conn = table.listings agentType side conn

/-- Wherever the connection is listed, it is listed on this side. -/
def ListedOn (table : SubTable) (conn : Nat) (index : Fin 2) : Prop :=
  ∀ agent side, conn ∈ table.conns agent side → side = index

/-- The agent lists the connection, on either side. -/
def Listed (table : SubTable) (agent : Agent) (conn : Nat) : Prop :=
  ∃ side, conn ∈ table.conns agent side

theorem listed_congr (table : SubTable) {agent other : Agent} (hkey : key agent = key other)
    (conn : Nat) : table.Listed agent conn ↔ table.Listed other conn := by
  simp only [Listed, conns_congr table hkey]

theorem Listed.mem {table : SubTable} {agent : Agent} {conn : Nat} {index : Fin 2}
    (hlisted : table.Listed agent conn) (hside : table.ListedOn conn index) :
    conn ∈ table.conns agent index := by
  obtain ⟨side, hmem⟩ := hlisted
  rw [← hside agent side hmem]
  exact hmem

/-! ## One addition -/

section Add

variable {table : SubTable} {agent : Agent} {conn : Nat} {isLocal : Bool}

theorem mem_conns_add {other : Agent} {side : Fin 2} {d : Nat} :
    d ∈ SubTable.conns (addSubscriptionToSubTable agent conn isLocal table) other side ↔
      d ∈ table.conns other side ∨
        (key other = key agent ∧ side = sideIndex isLocal ∧ d = conn) := by
  rw [conns_add, List.mem_append]
  by_cases hat : key other = key agent ∧ side = sideIndex isLocal
  · simp [hat]
  · rw [if_neg hat]
    simp only [List.not_mem_nil, or_false]
    tauto

/-- The lists stay free of repetitions when the connection is not listed yet. -/
theorem unique_add (hunique : table.Unique)
    (hnot : conn ∉ table.conns agent (sideIndex isLocal)) :
    SubTable.Unique (addSubscriptionToSubTable agent conn isLocal table) := by
  intro other side
  rw [conns_add]
  by_cases hat : key other = key agent ∧ side = sideIndex isLocal
  · obtain ⟨hkey, rfl⟩ := hat
    rw [if_pos ⟨hkey, rfl⟩]
    apply List.Nodup.append (hunique other _) (List.nodup_singleton conn)
    rw [List.disjoint_singleton, conns_congr table hkey]
    exact hnot
  · rw [if_neg hat, List.append_nil]
    exact hunique other side

theorem counted_add (hcounted : table.Counted) :
    SubTable.Counted (addSubscriptionToSubTable agent conn isLocal table) := by
  intro other side d
  rw [refs_add, listings_add, hcounted]

theorem listed_add {other : Agent} {d : Nat} :
    SubTable.Listed (addSubscriptionToSubTable agent conn isLocal table) other d ↔
      table.Listed other d ∨ (key other = key agent ∧ d = conn) := by
  simp only [Listed, mem_conns_add, exists_or]
  apply or_congr_right
  constructor
  · rintro ⟨side, hkey, -, hconn⟩
    exact ⟨hkey, hconn⟩
  · rintro ⟨hkey, hconn⟩
    exact ⟨_, hkey, rfl, hconn⟩

end Add

/-! ## One successful removal -/

section RemovedFrom

variable {agent : Agent} {conn : Nat} {index : Fin 2} {table left : SubTable}

theorem RemovedFrom.mem_of_mem (hremoved : RemovedFrom agent conn index table left)
    {other : Agent} {side : Fin 2} {d : Nat} (hmem : d ∈ left.conns other side) :
    d ∈ table.conns other side := by
  rw [hremoved.conns_eq] at hmem
  split at hmem
  · exact mem_of_mem_swapRemoveFirst hmem
  · exact hmem

theorem RemovedFrom.unique (hremoved : RemovedFrom agent conn index table left)
    (hunique : table.Unique) : left.Unique := by
  intro other side
  rw [hremoved.conns_eq]
  split
  · exact nodup_swapRemoveFirst (hunique other side) conn
  · exact hunique other side

theorem RemovedFrom.mem_iff (hremoved : RemovedFrom agent conn index table left)
    (hunique : table.Unique) (other : Agent) (side : Fin 2) (d : Nat) :
    d ∈ left.conns other side ↔
      d ∈ table.conns other side ∧ ¬ (key other = key agent ∧ side = index ∧ d = conn) := by
  rw [hremoved.conns_eq]
  by_cases hat : key other = key agent ∧ side = index
  · rw [if_pos hat, mem_swapRemoveFirst_iff (hunique other side)]
    tauto
  · rw [if_neg hat]
    tauto

/-- The counters stay exact when the removal finds the connection it counts. -/
theorem RemovedFrom.counted (hremoved : RemovedFrom agent conn index table left)
    (hcounted : table.Counted) (hlisted : conn ∈ table.conns agent index) : left.Counted := by
  intro agentType side d
  have hrefs := hremoved.refs_eq agentType side d
  have hlistings := hremoved.listings_eq agentType side d
  have hold := hcounted agentType side d
  simp only [hlisted, and_true] at hlistings
  omega

theorem RemovedFrom.listed_iff (hremoved : RemovedFrom agent conn index table left)
    (hunique : table.Unique) (hside : table.ListedOn conn index) (other : Agent) (d : Nat) :
    left.Listed other d ↔ table.Listed other d ∧ ¬ (key other = key agent ∧ d = conn) := by
  constructor
  · rintro ⟨side, hmem⟩
    obtain ⟨hold, hnot⟩ := (hremoved.mem_iff hunique other side d).1 hmem
    refine ⟨⟨side, hold⟩, ?_⟩
    rintro ⟨hkey, rfl⟩
    exact hnot ⟨hkey, hside other side hold, rfl⟩
  · rintro ⟨⟨side, hold⟩, hnot⟩
    refine ⟨side, (hremoved.mem_iff hunique other side d).2 ⟨hold, ?_⟩⟩
    rintro ⟨hkey, -, hconn⟩
    exact hnot ⟨hkey, hconn⟩

/-- From exact counters the removal of a listed connection succeeds. -/
theorem remove_ok {isLocal : Bool} (hcounted : table.Counted)
    (hlisted : conn ∈ table.conns agent (sideIndex isLocal)) :
    ∃ left, removeSubscriptionFromSubTable agent conn isLocal table = .ok left ∧
      RemovedFrom agent conn (sideIndex isLocal) table left := by
  have hrefs : 0 < table.refs agent.agentType (sideIndex isLocal) conn := by
    rw [hcounted, listings_pos_iff]
    exact ⟨agent.agentId, hlisted⟩
  rcases remove_cases agent conn isLocal table with ⟨hfail, -⟩ | ⟨-, -, hok⟩
  · rcases hfail with hunknown | hzero
    · exact absurd ((known_iff table agent).2 ⟨_, conn, hlisted⟩) hunknown
    · omega
  · exact hok

end RemovedFrom

/-! ## The loop over the agents of a connection -/

section RemoveAgents

variable {conn : Nat} {isLocal : Bool}

/-- A property kept by every successful removal is kept by the loop, also when it
    stops early. -/
theorem removeAgents_invariant {P : SubTable → Prop} :
    ∀ (agents : List Agent),
      (∀ agent ∈ agents, ∀ table left, P table →
        removeSubscriptionFromSubTable agent conn isLocal table = .ok left → P left) →
      ∀ table, P table → P (removeAgents conn isLocal agents table).2 := by
  intro agents
  induction agents with
  | nil => intro _ table htable; exact htable
  | cons agent rest ih =>
      intro hstep table htable
      rcases hremove : removeSubscriptionFromSubTable agent conn isLocal table with e | left
      · simp only [removeAgents, hremove]
        exact htable
      · simp only [removeAgents, hremove]
        apply ih fun other hother => hstep other (List.mem_cons_of_mem _ hother)
        exact hstep agent List.mem_cons_self table left htable hremove

theorem removeAgents_unique (agents : List Agent) {table : SubTable} (hunique : table.Unique) :
    (removeAgents conn isLocal agents table).2.Unique :=
  removeAgents_invariant (P := Unique) agents
    (fun _ _ _ _ hunique hok => (removedFrom_of_ok hok).unique hunique) table hunique

theorem mem_of_mem_removeAgents (agents : List Agent) (table : SubTable) {other : Agent}
    {side : Fin 2} {d : Nat}
    (hmem : d ∈ (removeAgents conn isLocal agents table).2.conns other side) :
    d ∈ table.conns other side := by
  revert hmem
  apply removeAgents_invariant (P := fun left => d ∈ left.conns other side →
    d ∈ table.conns other side)
  · intro agent _ middle left himp hok hmem
    exact himp ((removedFrom_of_ok hok).mem_of_mem hmem)
  · exact id

/-- When the loop succeeds, no agent it was given lists the connection any more. -/
theorem notMem_of_removeAgents_ok :
    ∀ (agents : List Agent) {table left : SubTable}, table.Unique →
      removeAgents conn isLocal agents table = (.ok (), left) →
      ∀ agent ∈ agents, conn ∉ left.conns agent (sideIndex isLocal) := by
  intro agents
  induction agents with
  | nil => intro table left _ _ agent hagent; cases hagent
  | cons head rest ih =>
      intro table left hunique hok agent hagent
      rcases remove_cases head conn isLocal table with
        ⟨-, e, herror⟩ | ⟨-, -, middle, hmiddle, hremoved⟩
      · simp only [removeAgents, herror] at hok
        cases hok
      simp only [removeAgents, hmiddle] at hok
      rcases List.mem_cons.mp hagent with rfl | hrest
      · intro hmem
        have hleft : (removeAgents conn isLocal rest middle).2 = left := by rw [hok]
        rw [← hleft] at hmem
        have hmid := mem_of_mem_removeAgents rest middle hmem
        rw [hremoved.mem_iff hunique] at hmid
        exact hmid.2 ⟨rfl, rfl, rfl⟩
      · exact ih (hremoved.unique hunique) hok agent hrest

/-- From exact counters, and with every agent of the list listing the connection,
    the loop succeeds and takes the connection out of these lists and no others. -/
theorem removeAgents_ok :
    ∀ (agents : List Agent), (agents.map key).Nodup → ∀ {table : SubTable}, table.Unique →
      table.Counted → (∀ agent ∈ agents, conn ∈ table.conns agent (sideIndex isLocal)) →
      ∃ left, removeAgents conn isLocal agents table = (.ok (), left) ∧ left.Counted ∧
        ∀ other side d, d ∈ left.conns other side ↔ d ∈ table.conns other side ∧
          ¬ ((∃ agent ∈ agents, key other = key agent) ∧ side = sideIndex isLocal ∧ d = conn) := by
  intro agents
  induction agents with
  | nil =>
      intro _ table _ hcounted _
      exact ⟨table, rfl, hcounted, by simp⟩
  | cons head rest ih =>
      intro hkeys table hunique hcounted hlisted
      rw [List.map_cons, List.nodup_cons] at hkeys
      have hhead : conn ∈ table.conns head (sideIndex isLocal) := hlisted head List.mem_cons_self
      obtain ⟨middle, hmiddle, hremoved⟩ := remove_ok hcounted hhead
      have hrest : ∀ agent ∈ rest, conn ∈ middle.conns agent (sideIndex isLocal) := by
        intro agent hagent
        rw [hremoved.mem_iff hunique]
        refine ⟨hlisted agent (List.mem_cons_of_mem _ hagent), fun hsame => hkeys.1 ?_⟩
        rw [← hsame.1]
        exact List.mem_map_of_mem hagent
      obtain ⟨left, hok, hleft, hmem⟩ :=
        ih hkeys.2 (hremoved.unique hunique) (hremoved.counted hcounted hhead) hrest
      refine ⟨left, by simp only [removeAgents, hmiddle]; exact hok, hleft, ?_⟩
      intro other side d
      rw [hmem, hremoved.mem_iff hunique]
      simp only [List.mem_cons, exists_eq_or_imp]
      rw [or_and_right, not_or, and_assoc]

end RemoveAgents

end SubTable

/-! ## The calls of the table -/

/-- The mutating calls.  A removal of a connection walks a hash set, in any order. -/
inductive Call where
  | addSubscription (agentType : AgentType) (agentId : Option UInt64) (conn : Nat)
      (isLocal : Bool)
  | removeSubscription (agentType : AgentType) (agentId : Option UInt64) (conn : Nat)
      (isLocal : Bool)
  | removeConnection (conn : Nat) (isLocal : Bool) (order : IterOrder (Agent × Unit))

namespace Call

def conn : Call → Nat
  | addSubscription _ _ conn _ => conn
  | removeSubscription _ _ conn _ => conn
  | removeConnection conn _ _ => conn

def isLocal : Call → Bool
  | addSubscription _ _ _ isLocal => isLocal
  | removeSubscription _ _ _ isLocal => isLocal
  | removeConnection _ isLocal _ => isLocal

end Call

namespace SubscriptionTableImpl

def perform (s : SubscriptionTableImpl) : Call →
    Except SubscriptionTableError Unit × SubscriptionTableImpl
  | .addSubscription agentType agentId conn isLocal =>
      s.addSubscription agentType agentId conn isLocal
  | .removeSubscription agentType agentId conn isLocal =>
      s.removeSubscription agentType agentId conn isLocal
  | .removeConnection conn isLocal order => s.removeConnection conn isLocal order

/-- The state after a call, whether it succeeds or fails. -/
def exec (s : SubscriptionTableImpl) (call : Call) : SubscriptionTableImpl := (s.perform call).2

/-- The flag of the call agrees with the side on which its connection is listed. -/
def Honest (s : SubscriptionTableImpl) (call : Call) : Prop :=
  s.table.ListedOn call.conn (sideIndex call.isLocal)

/-- An unsubscription that decrements the counter of a connection and only then finds
    that the connection does not hold the agent. -/
def Stray (s : SubscriptionTableImpl) (agent : Agent) (conn : Nat) (isLocal : Bool) : Prop :=
  s.table.Known agent ∧ 0 < s.table.refs agent.agentType (sideIndex isLocal) conn ∧
    ¬ s.connections.Holds agent conn

/-- The call is a stray unsubscription. -/
def Strays (s : SubscriptionTableImpl) : Call → Prop
  | .removeSubscription agentType agentId conn isLocal =>
      s.Stray (agentOf agentType agentId) conn isLocal
  | _ => False

/-! ## What the calls do -/

variable {s : SubscriptionTableImpl} {call : Call} {agent : Agent} {conn : Nat} {isLocal : Bool}
  {side : Fin 2}

theorem addSubscription_cases (s : SubscriptionTableImpl) (agentType : AgentType)
    (agentId : Option UInt64) (conn : Nat) (isLocal : Bool) :
    (s.connections.Holds (agentOf agentType agentId) conn ∧
        s.addSubscription agentType agentId conn isLocal = (.ok (), s)) ∨
      (¬ s.connections.Holds (agentOf agentType agentId) conn ∧
        s.addSubscription agentType agentId conn isLocal =
          (.ok (), ⟨addSubscriptionToSubTable (agentOf agentType agentId) conn isLocal s.table,
            addSubscriptionToConnection (agentOf agentType agentId) conn s.connections⟩)) := by
  unfold addSubscription
  by_cases hholds : isSubscribed s.connections (agentOf agentType agentId) conn = true
  · exact Or.inl ⟨hholds, if_pos hholds⟩
  · exact Or.inr ⟨hholds, if_neg hholds⟩

/-- Whether it was subscribed before or not, the connection holds the agent afterwards. -/
theorem holds_addSubscription (s : SubscriptionTableImpl) (agentType : AgentType)
    (agentId : Option UInt64) (conn : Nat) (isLocal : Bool) (other : Agent) (d : Nat) :
    (s.addSubscription agentType agentId conn isLocal).2.connections.Holds other d ↔
      s.connections.Holds other d ∨ (key other = key (agentOf agentType agentId) ∧ d = conn) := by
  rcases s.addSubscription_cases agentType agentId conn isLocal with
    ⟨hheld, hresult⟩ | ⟨-, hresult⟩
  · rw [hresult]
    refine ⟨Or.inl, ?_⟩
    rintro (hholds | ⟨hkey, rfl⟩)
    · exact hholds
    · exact (ConnTable.holds_congr s.connections hkey d).2 hheld
  · rw [hresult]
    exact ConnTable.holds_add _ _ _ _ _

/-- The three outcomes of an unsubscription: nothing found, stray, or complete. -/
theorem removeSubscription_cases (s : SubscriptionTableImpl) (agentType : AgentType)
    (agentId : Option UInt64) (conn : Nat) (isLocal : Bool) :
    ((¬ s.table.Known (agentOf agentType agentId) ∨
          s.table.refs agentType (sideIndex isLocal) conn = 0) ∧
        ∃ e, s.removeSubscription agentType agentId conn isLocal = (.error e, s)) ∨
      (s.Stray (agentOf agentType agentId) conn isLocal ∧
        ∃ e left, s.removeSubscription agentType agentId conn isLocal =
            (.error e, { s with table := left }) ∧
          SubTable.RemovedFrom (agentOf agentType agentId) conn (sideIndex isLocal)
            s.table left) ∨
      (s.connections.Holds (agentOf agentType agentId) conn ∧
        ∃ left connections, s.removeSubscription agentType agentId conn isLocal =
            (.ok (), ⟨left, connections⟩) ∧
          SubTable.RemovedFrom (agentOf agentType agentId) conn (sideIndex isLocal)
            s.table left ∧
          ∀ other otherConn, ConnTable.Holds connections other otherConn ↔
            s.connections.Holds other otherConn ∧
              ¬ (key other = key (agentOf agentType agentId) ∧ otherConn = conn)) := by
  unfold removeSubscription
  rcases SubTable.remove_cases (agentOf agentType agentId) conn isLocal s.table with
    ⟨hfail, e, herror⟩ | ⟨hknown, hrefs, left, hok, hremoved⟩
  · exact Or.inl ⟨hfail, e, by simp only [herror]⟩
  rcases ConnTable.remove_cases (agentOf agentType agentId) conn s.connections with
    ⟨hnot, e, herror⟩ | ⟨hholds, connections, hconnections, hleft⟩
  · exact Or.inr (Or.inl ⟨⟨hknown, hrefs, hnot⟩, e, left, by simp only [hok, herror], hremoved⟩)
  · exact Or.inr (Or.inr ⟨hholds, left, connections, by simp only [hok, hconnections],
      hremoved, hleft⟩)

/-- The agents of the connection are given in the order in which the removal visits them. -/
theorem removeConnection_cases (s : SubscriptionTableImpl) (conn : Nat) (isLocal : Bool)
    (order : IterOrder (Agent × Unit)) :
    ((∀ agent, ¬ s.connections.Holds agent conn) ∧
        s.removeConnection conn isLocal order = (.error .connectionIdNotFound, s)) ∨
      ∃ agents : List Agent, (agents.map key).Nodup ∧
        (∀ agent, s.connections.Holds agent conn ↔ ∃ a ∈ agents, key agent = key a) ∧
        ((∃ e, (removeAgents conn isLocal agents s.table).1 = .error e ∧
            s.removeConnection conn isLocal order =
              (.error e, { s with table := (removeAgents conn isLocal agents s.table).2 })) ∨
          ((removeAgents conn isLocal agents s.table).1 = .ok () ∧
            s.removeConnection conn isLocal order =
              (.ok (), ⟨(removeAgents conn isLocal agents s.table).2,
                s.connections.remove conn⟩))) := by
  unfold removeConnection
  rcases hget : s.connections.get? conn with _ | set
  · exact Or.inl ⟨ConnTable.not_holds_of_get_none hget, rfl⟩
  · obtain ⟨hkeys, hholds⟩ := ConnTable.holds_iff_mem_iter hget order
    refine Or.inr ⟨(set.iter order).map Prod.fst, hkeys, hholds, ?_⟩
    rcases hloop : removeAgents conn isLocal ((set.iter order).map Prod.fst) s.table with
      ⟨_ | ⟨⟩, table⟩
    · exact Or.inl ⟨_, rfl, by simp only [hloop]⟩
    · exact Or.inr ⟨rfl, by simp only [hloop]⟩

/-! ## The invariants -/

/-- The lists are sound: no repetition, one side for each connection, and every
    listed connection holds the agent. -/
structure Coherent (s : SubscriptionTableImpl) : Prop where
  unique : s.table.Unique
  one_side : ∀ {agent other side otherSide conn}, conn ∈ s.table.conns agent side →
    conn ∈ s.table.conns other otherSide → side = otherSide
  listed_held : ∀ {agent side conn}, conn ∈ s.table.conns agent side →
    s.connections.Holds agent conn

/-- All copies of a subscription agree. -/
structure Consistent (s : SubscriptionTableImpl) : Prop extends Coherent s where
  held_listed : ∀ {agent conn}, s.connections.Holds agent conn →
    ∃ side, conn ∈ s.table.conns agent side
  counted : s.table.Counted

theorem consistent_default : Consistent default where
  unique := fun _ _ => List.nodup_nil
  one_side := fun hmem => nomatch hmem
  listed_held := fun hmem => nomatch hmem
  held_listed := fun hholds => absurd hholds (ConnTable.not_holds_empty _ _)
  counted := fun _ _ _ => rfl

/-- Whether the copies of a connection agree or not, dropping lists keeps coherence. -/
theorem Coherent.of_subset {left : SubscriptionTableImpl} (hs : s.Coherent)
    (hunique : left.table.Unique)
    (hsub : ∀ {agent side conn}, conn ∈ left.table.conns agent side →
      conn ∈ s.table.conns agent side)
    (hheld : ∀ {agent side conn}, conn ∈ left.table.conns agent side →
      s.connections.Holds agent conn → left.connections.Holds agent conn) : left.Coherent where
  unique := hunique
  one_side := fun hmem hother => hs.one_side (hsub hmem) (hsub hother)
  listed_held := fun hmem => hheld hmem (hs.listed_held (hsub hmem))

theorem Coherent.addSubscription (hs : s.Coherent) (agentType : AgentType) (agentId : Option UInt64)
    (conn : Nat) (isLocal : Bool) (hhonest : s.table.ListedOn conn (sideIndex isLocal)) :
    (s.addSubscription agentType agentId conn isLocal).2.Coherent := by
  rcases s.addSubscription_cases agentType agentId conn isLocal with
    ⟨-, hresult⟩ | ⟨hnot, hresult⟩
  · rw [hresult]
    exact hs
  rw [hresult]
  refine ⟨SubTable.unique_add hs.unique fun hmem => hnot (hs.listed_held hmem), ?_, ?_⟩
  · intro agent other side otherSide d hmem hother
    rcases SubTable.mem_conns_add.1 hmem with hlisted | ⟨-, rfl, rfl⟩
    · rcases SubTable.mem_conns_add.1 hother with hotherListed | ⟨-, rfl, rfl⟩
      · exact hs.one_side hlisted hotherListed
      · exact hhonest agent side hlisted
    · rcases SubTable.mem_conns_add.1 hother with hotherListed | ⟨-, rfl, -⟩
      · exact (hhonest other otherSide hotherListed).symm
      · rfl
  · intro other side d hmem
    apply (ConnTable.holds_add _ _ _ _ _).2
    rcases SubTable.mem_conns_add.1 hmem with hlisted | ⟨hkey, -, hconn⟩
    · exact Or.inl (hs.listed_held hlisted)
    · exact Or.inr ⟨hkey, hconn⟩

theorem Coherent.removeSubscription (hs : s.Coherent) (agentType : AgentType)
    (agentId : Option UInt64) (conn : Nat) (isLocal : Bool)
    (hhonest : s.table.ListedOn conn (sideIndex isLocal)) :
    (s.removeSubscription agentType agentId conn isLocal).2.Coherent := by
  rcases s.removeSubscription_cases agentType agentId conn isLocal with
    ⟨-, e, hresult⟩ | ⟨-, e, left, hresult, hremoved⟩ |
      ⟨-, left, connections, hresult, hremoved, hholds⟩
  · rw [hresult]
    exact hs
  · rw [hresult]
    exact hs.of_subset (hremoved.unique hs.unique) hremoved.mem_of_mem fun _ hheld => hheld
  · rw [hresult]
    refine hs.of_subset (hremoved.unique hs.unique) hremoved.mem_of_mem ?_
    intro other side d hmem hheld
    have hleft := (hremoved.mem_iff hs.unique other side d).1 hmem
    refine (hholds other d).2 ⟨hheld, fun hsame => hleft.2 ⟨hsame.1, ?_, hsame.2⟩⟩
    -- the connection is listed on the side of the flag only, where it was removed
    apply hhonest other side
    rw [← hsame.2]
    exact hleft.1

theorem Coherent.removeConnection (hs : s.Coherent) (conn : Nat) (isLocal : Bool)
    (order : IterOrder (Agent × Unit)) (hhonest : s.table.ListedOn conn (sideIndex isLocal)) :
    (s.removeConnection conn isLocal order).2.Coherent := by
  rcases s.removeConnection_cases conn isLocal order with
    ⟨-, hresult⟩ | ⟨agents, -, hagents, ⟨e, -, hresult⟩ | ⟨hok, hresult⟩⟩
  · rw [hresult]
    exact hs
  · rw [hresult]
    exact hs.of_subset (SubTable.removeAgents_unique agents hs.unique)
      (SubTable.mem_of_mem_removeAgents agents s.table) fun _ hheld => hheld
  · rw [hresult]
    refine hs.of_subset (SubTable.removeAgents_unique agents hs.unique)
      (SubTable.mem_of_mem_removeAgents agents s.table) ?_
    intro other side d hmem hheld
    refine (ConnTable.holds_remove _ _ _ _).2 ⟨hheld, ?_⟩
    rintro rfl
    -- an agent of the removed connection is one of those the loop went through
    obtain ⟨a, ha, hkey⟩ := (hagents other).1 hheld
    have hside := hhonest other side (SubTable.mem_of_mem_removeAgents agents s.table hmem)
    rw [hside, SubTable.conns_congr _ hkey] at hmem
    exact SubTable.notMem_of_removeAgents_ok agents hs.unique (Prod.ext hok rfl) a ha hmem

/-- One call keeps the lists sound, whether it succeeds or fails. -/
theorem Coherent.exec (hs : s.Coherent) (call : Call)
    (hhonest : s.Honest call) : (s.exec call).Coherent := by
  cases call with
  | addSubscription agentType agentId conn isLocal =>
      exact hs.addSubscription agentType agentId conn isLocal hhonest
  | removeSubscription agentType agentId conn isLocal =>
      exact hs.removeSubscription agentType agentId conn isLocal hhonest
  | removeConnection conn isLocal order =>
      exact hs.removeConnection conn isLocal order hhonest

/-! ## Keeping all copies in agreement -/

/-- Whether it was subscribed before or not, the agent lists the connection afterwards. -/
theorem Consistent.listed_addSubscription (hs : s.Consistent) (agentType : AgentType)
    (agentId : Option UInt64) (conn : Nat) (isLocal : Bool) (other : Agent) (d : Nat) :
    (s.addSubscription agentType agentId conn isLocal).2.table.Listed other d ↔
      s.table.Listed other d ∨ (key other = key (agentOf agentType agentId) ∧ d = conn) := by
  rcases s.addSubscription_cases agentType agentId conn isLocal with
    ⟨hheld, hresult⟩ | ⟨-, hresult⟩
  · rw [hresult]
    refine ⟨Or.inl, ?_⟩
    rintro (hlisted | ⟨hkey, rfl⟩)
    · exact hlisted
    · exact (SubTable.listed_congr _ hkey d).2 (hs.held_listed hheld)
  · rw [hresult]
    exact SubTable.listed_add

theorem Consistent.addSubscription (hs : s.Consistent) (agentType : AgentType)
    (agentId : Option UInt64) (conn : Nat) (isLocal : Bool)
    (hhonest : s.table.ListedOn conn (sideIndex isLocal)) :
    (s.addSubscription agentType agentId conn isLocal).2.Consistent := by
  refine ⟨hs.toCoherent.addSubscription agentType agentId conn isLocal hhonest, ?_, ?_⟩
  · intro other d hheld
    apply (hs.listed_addSubscription agentType agentId conn isLocal other d).2
    rcases (s.holds_addSubscription agentType agentId conn isLocal other d).1 hheld with
      hold | hnew
    · exact Or.inl (hs.held_listed hold)
    · exact Or.inr hnew
  · rcases s.addSubscription_cases agentType agentId conn isLocal with
      ⟨-, hresult⟩ | ⟨-, hresult⟩
    · rw [hresult]
      exact hs.counted
    · rw [hresult]
      exact SubTable.counted_add hs.counted

/-- What a connection holds is listed on the side of an honest flag. -/
theorem Consistent.listed_of_held (hs : s.Consistent)
    (hhonest : s.table.ListedOn conn (sideIndex isLocal))
    (hheld : s.connections.Holds agent conn) : conn ∈ s.table.conns agent (sideIndex isLocal) := by
  obtain ⟨side, hmem⟩ := hs.held_listed hheld
  rw [← hhonest agent side hmem]
  exact hmem

theorem Consistent.removeSubscription (hs : s.Consistent) (agentType : AgentType)
    (agentId : Option UInt64) (conn : Nat) (isLocal : Bool)
    (hhonest : s.table.ListedOn conn (sideIndex isLocal))
    (hstray : ¬ s.Stray (agentOf agentType agentId) conn isLocal) :
    (s.removeSubscription agentType agentId conn isLocal).2.Consistent := by
  refine ⟨hs.toCoherent.removeSubscription agentType agentId conn isLocal hhonest, ?_, ?_⟩
  · rcases s.removeSubscription_cases agentType agentId conn isLocal with
      ⟨-, e, hresult⟩ | ⟨hisStray, -⟩ | ⟨-, left, connections, hresult, hremoved, hholds⟩
    · rw [hresult]
      exact hs.held_listed
    · exact absurd hisStray hstray
    · rw [hresult]
      intro other d hheld
      obtain ⟨hheld, hnot⟩ := (hholds other d).1 hheld
      obtain ⟨side, hmem⟩ := hs.held_listed hheld
      refine ⟨side, (hremoved.mem_iff hs.unique other side d).2 ⟨hmem, ?_⟩⟩
      rintro ⟨hkey, -, hconn⟩
      exact hnot ⟨hkey, hconn⟩
  · rcases s.removeSubscription_cases agentType agentId conn isLocal with
      ⟨-, e, hresult⟩ | ⟨hisStray, -⟩ | ⟨hheld, left, connections, hresult, hremoved, -⟩
    · rw [hresult]
      exact hs.counted
    · exact absurd hisStray hstray
    · rw [hresult]
      exact hremoved.counted hs.counted (hs.listed_of_held hhonest hheld)

/-- An unsubscription that carries the flag of the other side fails and changes nothing,
    so the flag of an unsubscription need not be honest. -/
theorem Consistent.removeSubscription_of_not_stray (hs : s.Consistent) (agentType : AgentType)
    (agentId : Option UInt64) (conn : Nat) (isLocal : Bool)
    (hstray : ¬ s.Stray (agentOf agentType agentId) conn isLocal) :
    (s.removeSubscription agentType agentId conn isLocal).2.Consistent := by
  by_cases hhonest : s.table.ListedOn conn (sideIndex isLocal)
  · exact hs.removeSubscription agentType agentId conn isLocal hhonest hstray
  have hrefs : s.table.refs agentType (sideIndex isLocal) conn = 0 := by
    by_contra hne
    rw [hs.counted] at hne
    obtain ⟨id, hmem⟩ := (SubTable.listings_pos_iff _ _ _ _).1 (Nat.pos_of_ne_zero hne)
    apply hhonest
    intro other side hother
    exact hs.one_side hother hmem
  unfold SubscriptionTableImpl.removeSubscription
  rcases SubTable.remove_cases (agentOf agentType agentId) conn isLocal s.table with
    ⟨-, e, herror⟩ | ⟨-, hpos, -⟩
  · simp only [herror]
    exact hs
  · have hzero : s.table.refs (agentOf agentType agentId).agentType (sideIndex isLocal) conn = 0 :=
      hrefs
    omega

/-- An unsubscription that is not stray takes out the listing it names and no other. -/
theorem Consistent.listed_removeSubscription (hs : s.Consistent) (agentType : AgentType)
    (agentId : Option UInt64) (conn : Nat) (isLocal : Bool)
    (hhonest : s.table.ListedOn conn (sideIndex isLocal))
    (hstray : ¬ s.Stray (agentOf agentType agentId) conn isLocal) (other : Agent) (d : Nat) :
    (s.removeSubscription agentType agentId conn isLocal).2.table.Listed other d ↔
      s.table.Listed other d ∧ ¬ (key other = key (agentOf agentType agentId) ∧ d = conn) := by
  rcases s.removeSubscription_cases agentType agentId conn isLocal with
    ⟨hfail, e, heq⟩ | ⟨hisStray, -⟩ | ⟨-, left, connections, heq, hremoved, -⟩
  · rw [heq]
    refine ⟨fun hlisted => ⟨hlisted, ?_⟩, And.left⟩
    rintro ⟨hkey, rfl⟩
    -- a listed name is known and counted, so the removal would not have failed
    have hmem := ((SubTable.listed_congr s.table hkey d).1 hlisted).mem hhonest
    rcases hfail with hunknown | hzero
    · exact hunknown ((SubTable.known_iff _ _).2 ⟨_, _, hmem⟩)
    · rw [hs.counted] at hzero
      have hpos := (SubTable.listings_pos_iff s.table agentType (sideIndex isLocal) d).2 ⟨_, hmem⟩
      omega
  · exact absurd hisStray hstray
  · rw [heq]
    exact hremoved.listed_iff hs.unique hhonest other d

/-- In a consistent state the removal of a connection succeeds for a connection that
    holds agents, and takes out exactly what the connection holds. -/
theorem Consistent.removeConnection_eq (hs : s.Consistent) (conn : Nat) (isLocal : Bool)
    (order : IterOrder (Agent × Unit)) (hhonest : s.table.ListedOn conn (sideIndex isLocal)) :
    (s.removeConnection conn isLocal order).2.table.Counted ∧
      (∀ other side d,
        d ∈ (s.removeConnection conn isLocal order).2.table.conns other side ↔
          d ∈ s.table.conns other side ∧ d ≠ conn) ∧
      ∀ other d, (s.removeConnection conn isLocal order).2.connections.Holds other d ↔
        s.connections.Holds other d ∧ d ≠ conn := by
  rcases s.removeConnection_cases conn isLocal order with
    ⟨hnone, hresult⟩ | ⟨agents, hkeys, hagents, hcases⟩
  · rw [hresult]
    refine ⟨hs.counted, fun other side d => ?_, fun other d => ?_⟩
    · refine ⟨fun hmem => ⟨hmem, ?_⟩, And.left⟩
      rintro rfl
      exact hnone other (hs.listed_held hmem)
    · refine ⟨fun hheld => ⟨hheld, ?_⟩, And.left⟩
      rintro rfl
      exact hnone other hheld
  -- every agent of the connection is listed, so the loop cannot stop early
  have hlisted : ∀ agent ∈ agents, conn ∈ s.table.conns agent (sideIndex isLocal) := by
    intro agent hagent
    exact hs.listed_of_held hhonest ((hagents agent).2 ⟨agent, hagent, rfl⟩)
  obtain ⟨left, hok, hcounted, hmem⟩ :=
    SubTable.removeAgents_ok agents hkeys hs.unique hs.counted hlisted
  rw [hok] at hcases
  rcases hcases with ⟨e, herror, -⟩ | ⟨-, hresult⟩
  · cases herror
  rw [hresult]
  refine ⟨hcounted, fun other side d => ?_, fun other d => ConnTable.holds_remove _ _ _ _⟩
  rw [hmem]
  refine and_congr_right fun hold => not_congr ?_
  constructor
  · rintro ⟨-, -, hconn⟩
    exact hconn
  · rintro rfl
    exact ⟨(hagents other).1 (hs.listed_held hold), hhonest other side hold, rfl⟩

theorem Consistent.listed_removeConnection (hs : s.Consistent) (conn : Nat) (isLocal : Bool)
    (order : IterOrder (Agent × Unit)) (hhonest : s.table.ListedOn conn (sideIndex isLocal))
    (other : Agent) (d : Nat) :
    (s.removeConnection conn isLocal order).2.table.Listed other d ↔
      s.table.Listed other d ∧ d ≠ conn := by
  obtain ⟨-, hmem, -⟩ := hs.removeConnection_eq conn isLocal order hhonest
  simp only [SubTable.Listed, hmem, exists_and_right]

theorem Consistent.removeConnection (hs : s.Consistent) (conn : Nat) (isLocal : Bool)
    (order : IterOrder (Agent × Unit)) (hhonest : s.table.ListedOn conn (sideIndex isLocal)) :
    (s.removeConnection conn isLocal order).2.Consistent := by
  obtain ⟨hcounted, hmem, hholds⟩ := hs.removeConnection_eq conn isLocal order hhonest
  refine ⟨hs.toCoherent.removeConnection conn isLocal order hhonest, ?_, hcounted⟩
  intro other d hheld
  obtain ⟨hheld, hne⟩ := (hholds other d).1 hheld
  obtain ⟨side, hlisted⟩ := hs.held_listed hheld
  exact ⟨side, (hmem other side d).2 ⟨hlisted, hne⟩⟩

/-- One call that is not stray keeps all copies in agreement. -/
theorem Consistent.exec (hs : s.Consistent) (call : Call) (hhonest : s.Honest call)
    (hstray : ¬ s.Strays call) : (s.exec call).Consistent := by
  cases call with
  | addSubscription agentType agentId conn isLocal =>
      exact hs.addSubscription agentType agentId conn isLocal hhonest
  | removeSubscription agentType agentId conn isLocal =>
      exact hs.removeSubscription agentType agentId conn isLocal hhonest hstray
  | removeConnection conn isLocal order =>
      exact hs.removeConnection conn isLocal order hhonest

/-! ## Flags -/

theorem mem_conns_addSubscription {agentType : AgentType} {agentId : Option UInt64} {d : Nat}
    (hmem : conn ∈ (s.addSubscription agentType agentId d isLocal).2.table.conns agent side) :
    conn ∈ s.table.conns agent side ∨ (side = sideIndex isLocal ∧ conn = d) := by
  rcases s.addSubscription_cases agentType agentId d isLocal with ⟨-, heq⟩ | ⟨-, heq⟩
  · rw [heq] at hmem
    exact Or.inl hmem
  · rw [heq] at hmem
    rcases SubTable.mem_conns_add.1 hmem with hold | ⟨-, hside, hconn⟩
    · exact Or.inl hold
    · exact Or.inr ⟨hside, hconn⟩

theorem mem_of_mem_removeSubscription {agentType : AgentType} {agentId : Option UInt64} {d : Nat}
    (hmem : conn ∈ (s.removeSubscription agentType agentId d isLocal).2.table.conns agent side) :
    conn ∈ s.table.conns agent side := by
  rcases s.removeSubscription_cases agentType agentId d isLocal with
    ⟨-, e, heq⟩ | ⟨-, e, left, heq, hremoved⟩ | ⟨-, left, connections, heq, hremoved, -⟩
  · rw [heq] at hmem
    exact hmem
  · rw [heq] at hmem
    exact hremoved.mem_of_mem hmem
  · rw [heq] at hmem
    exact hremoved.mem_of_mem hmem

theorem mem_of_mem_removeConnection {d : Nat} {order : IterOrder (Agent × Unit)}
    (hmem : conn ∈ (s.removeConnection d isLocal order).2.table.conns agent side) :
    conn ∈ s.table.conns agent side := by
  rcases s.removeConnection_cases d isLocal order with
    ⟨-, heq⟩ | ⟨agents, -, -, ⟨e, -, heq⟩ | ⟨-, heq⟩⟩
  · rw [heq] at hmem
    exact hmem
  · rw [heq] at hmem
    exact SubTable.mem_of_mem_removeAgents agents s.table hmem
  · rw [heq] at hmem
    exact SubTable.mem_of_mem_removeAgents agents s.table hmem

/-- Only an added subscription can make a new listing. -/
theorem mem_conns_exec (hmem : conn ∈ (s.exec call).table.conns agent side) :
    conn ∈ s.table.conns agent side ∨ (side = sideIndex call.isLocal ∧ conn = call.conn) := by
  cases call with
  | addSubscription agentType agentId d isLocal => exact mem_conns_addSubscription hmem
  | removeSubscription agentType agentId d isLocal =>
      exact Or.inl (mem_of_mem_removeSubscription hmem)
  | removeConnection d isLocal order => exact Or.inl (mem_of_mem_removeConnection hmem)

theorem listedOn_exec {isLocal : Nat → Bool}
    (hlisted : ∀ conn, s.table.ListedOn conn (sideIndex (isLocal conn)))
    (hflag : call.isLocal = isLocal call.conn) (conn : Nat) :
    (s.exec call).table.ListedOn conn (sideIndex (isLocal conn)) := by
  intro agent side hmem
  rcases mem_conns_exec hmem with hold | ⟨hside, hconn⟩
  · exact hlisted conn agent side hold
  · rw [hside, hflag, hconn]

/-- Flags that are a function of the connection are honest in every run. -/
theorem along_honest_of_flag (isLocal : Nat → Bool) {calls : List Call}
    (hflag : ∀ call ∈ calls, call.isLocal = isLocal call.conn) :
    Runs.Along exec Honest default calls := by
  apply Runs.along_of_invariant (I := fun s => ∀ conn, s.table.ListedOn conn
    (sideIndex (isLocal conn))) (P := fun _ call => call.isLocal = isLocal call.conn)
  · intro s call hlisted hflag conn
    exact listedOn_exec hlisted hflag conn
  · intro s call hlisted hflag
    rw [Honest, hflag]
    exact hlisted call.conn
  · exact Runs.along_of_forall calls default hflag
  · intro conn agent side hmem
    cases hmem

/-! ## Runs -/

theorem coherent_run {calls : List Call} (hhonest : Runs.Along exec Honest default calls) :
    Coherent (Runs.run exec default calls) :=
  Runs.run_invariant (I := Coherent) (fun _ call hs hhonest => hs.exec call hhonest) calls
    default hhonest consistent_default.toCoherent

theorem consistent_run {calls : List Call}
    (hsteps : Runs.Along exec (fun s call => s.Honest call ∧ ¬ s.Strays call) default calls) :
    Consistent (Runs.run exec default calls) :=
  Runs.run_invariant (I := Consistent)
    (fun _ call hs hstep => hs.exec call hstep.1 hstep.2) calls default hsteps consistent_default

/-! ## Failed unsubscriptions -/

/-- A successful unsubscription is not stray. -/
theorem not_strays_of_ok (hok : (s.perform call).1 = .ok ()) : ¬ s.Strays call := by
  cases call with
  | addSubscription agentType agentId conn isLocal => exact id
  | removeConnection conn isLocal order => exact id
  | removeSubscription agentType agentId conn isLocal =>
      intro hstray
      simp only [perform] at hok
      rcases s.removeSubscription_cases agentType agentId conn isLocal with
        ⟨-, e, heq⟩ | ⟨-, e, left, heq, -⟩ | ⟨hheld, -⟩
      · rw [heq] at hok
        cases hok
      · rw [heq] at hok
        cases hok
      · exact hstray.2.2 hheld

/-- A failed unsubscription leaves the whole table as it was, unless it is stray:
    then a reference of the connection is gone. -/
theorem removeSubscription_failure_unchanged_iff (s : SubscriptionTableImpl)
    (agentType : AgentType) (agentId : Option UInt64) (conn : Nat) (isLocal : Bool) :
    (∀ e left, s.removeSubscription agentType agentId conn isLocal = (.error e, left) →
        left = s) ↔
      ¬ s.Stray (agentOf agentType agentId) conn isLocal := by
  rcases s.removeSubscription_cases agentType agentId conn isLocal with
    ⟨hfail, e, heq⟩ | ⟨hstray, e, left, heq, hremoved⟩ | ⟨hheld, left, connections, heq, -, -⟩
  · constructor
    · rintro - ⟨hknown, hrefs, -⟩
      rcases hfail with hunknown | hzero
      · exact hunknown hknown
      · have hpos : 0 < s.table.refs agentType (sideIndex isLocal) conn := hrefs
        omega
    · intro _ e' left hleft
      rw [heq, Prod.mk.injEq] at hleft
      exact hleft.2.symm
  · constructor
    · intro hsame
      have htable : left = s.table := congrArg SubscriptionTableImpl.table (hsame e _ heq)
      have hrefs := hremoved.refs_eq agentType (sideIndex isLocal) conn
      have hpos : 0 < s.table.refs agentType (sideIndex isLocal) conn := hstray.2.1
      rw [htable, if_pos ⟨rfl, rfl, rfl⟩] at hrefs
      omega
    · intro hnot
      exact absurd hstray hnot
  · constructor
    · rintro - ⟨-, -, hnot⟩
      exact hnot hheld
    · intro _ e' left' hleft
      rw [heq] at hleft
      cases hleft

def sampleType : AgentType := { organization := 1, nameSpace := 2, agentType := 3 }

/-- Two connections with a subscription each, to two ids of one type. -/
def twoSubscriptions : List Call :=
  [.addSubscription sampleType (some 1) 0 true, .addSubscription sampleType (some 2) 1 true]

/-- The first connection unsubscribes from the id of the second.  The call fails, and
    the first connection is no longer counted for the type. -/
theorem removeSubscription_failure_drops_reference :
    (Runs.run exec default twoSubscriptions).removeSubscription sampleType (some 2) 0 true ≠
        (.error .subscriptionNotFound, Runs.run exec default twoSubscriptions) ∧
      ((Runs.run exec default twoSubscriptions).removeSubscription sampleType (some 2) 0 true).1 =
        .error .subscriptionNotFound ∧
      (Runs.run exec default twoSubscriptions).table.refs sampleType 0 0 = 1 ∧
      ((Runs.run exec default twoSubscriptions).removeSubscription
        sampleType (some 2) 0 true).2.table.refs sampleType 0 0 = 0 := by
  refine ⟨fun heq => ?_, rfl, rfl, rfl⟩
  have hrefs := congrArg (fun result => result.2.table.refs sampleType 0 0) heq
  exact absurd hrefs (by decide)

end SubscriptionTableImpl

end Slim
