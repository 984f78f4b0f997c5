import Slim.Encoder
import Slim.AgentTypeState

/-!
# The subscription table: `tables/subscription_table.rs`

The same subscription is stored several times: in the lists and in the counters of
its agent type, and, beside the table of types, in the set of agents of its
connection.  The two tables are under locks of their own, and each method is a
sequence of sections, one for each time it takes a lock.

A method that mutates and may fail returns its result together with the state it
leaves behind, since an early return keeps what was written before it.
-/

namespace Slim

/-! ## The tables and their lock-protected sections

`SubTable` and `ConnTable` are the contents of the two locks.  Each function of
this section runs under the write lock of the table it takes. -/

abbrev SubTable := HashMap AgentType AgentTypeState

abbrev ConnTable := HashMap Nat (HashSet Agent)

def addSubscriptionToSubTable (agent : Agent) (conn : Nat) (isLocal : Bool) (table : SubTable) :
    SubTable :=
  match table.get? agent.agentType with
  | none => table.insert agent.agentType (AgentTypeState.new agent.agentId conn isLocal)
  | some state => table.insert agent.agentType (state.insert agent.agentId conn isLocal)

/-- The section always succeeds; a duplicate is reported in the log and ignored. -/
def addSubscriptionToConnection (agent : Agent) (connIndex : Nat) (map : ConnTable) : ConnTable :=
  match map.get? connIndex with
  | none => map.insert connIndex (HashMap.empty.insert agent ())
  | some set =>
      if set.contains agent then map
      else map.insert connIndex (set.insert agent ())

def removeSubscriptionFromSubTable (agent : Agent) (connIndex : Nat) (isLocal : Bool)
    (table : SubTable) : Except SubscriptionTableError SubTable :=
  match table.get? agent.agentType with
  | none => .error .subscriptionNotFound
  | some state =>
      match state.remove agent.agentId connIndex isLocal with
      | .error e => .error e
      | .ok left =>
          if left.ids.isEmpty then .ok (table.remove agent.agentType)
          else .ok (table.insert agent.agentType left)

def removeSubscriptionFromConnection (agent : Agent) (connIndex : Nat) (map : ConnTable) :
    Except SubscriptionTableError ConnTable :=
  match map.get? connIndex with
  | none => .error .connectionIdNotFound
  | some set =>
      if set.contains agent then
        let left := set.remove agent
        if left.isEmpty then .ok (map.remove connIndex) else .ok (map.insert connIndex left)
      else .error .subscriptionNotFound

/-! ## `SubscriptionTableImpl` -/

structure SubscriptionTableImpl where
  table : SubTable
  connections : ConnTable

namespace SubscriptionTableImpl

def default : SubscriptionTableImpl := ⟨HashMap.empty, HashMap.empty⟩

/-- The agent named by a type and an optional id. -/
def agentOf (agentType : AgentType) (agentId : Option UInt64) : Agent :=
  ⟨agentType, agentId.getD DEFAULT_AGENT_ID⟩

/-- An agent has the id that a message for it carries. -/
theorem agentOf_agentIdOption (agent : Agent) :
    agentOf agent.agentType agent.agentIdOption = agent := by
  rcases agent with ⟨agentType, agentId⟩
  unfold agentOf Agent.agentIdOption
  by_cases hid : agentId = DEFAULT_AGENT_ID
  · rw [if_pos hid, hid]
    rfl
  · rw [if_neg hid]
    rfl

/-- The duplicate test at the start of `add_subscription`. -/
def isSubscribed (connections : ConnTable) (agent : Agent) (conn : Nat) : Bool :=
  match connections.get? conn with
  | none => false
  | some set => set.contains agent

def addSubscription (s : SubscriptionTableImpl) (agentType : AgentType)
    (agentUid : Option UInt64) (conn : Nat) (isLocal : Bool) :
    Except SubscriptionTableError Unit × SubscriptionTableImpl :=
  let agent := agentOf agentType agentUid
  if isSubscribed s.connections agent conn then (.ok (), s)
  else
    (.ok (), { table := addSubscriptionToSubTable agent conn isLocal s.table
               connections := addSubscriptionToConnection agent conn s.connections })

def removeSubscription (s : SubscriptionTableImpl) (agentType : AgentType)
    (agentId : Option UInt64) (conn : Nat) (isLocal : Bool) :
    Except SubscriptionTableError Unit × SubscriptionTableImpl :=
  let agent := agentOf agentType agentId
  match removeSubscriptionFromSubTable agent conn isLocal s.table with
  | .error e => (.error e, s)
  | .ok table =>
      match removeSubscriptionFromConnection agent conn s.connections with
      | .error e => (.error e, { s with table := table })
      | .ok connections => (.ok (), { table := table, connections := connections })

/-- The loop of `remove_connection` over the agents of the connection. -/
def removeAgents (conn : Nat) (isLocal : Bool) :
    List Agent → SubTable → Except SubscriptionTableError Unit × SubTable
  | [], table => (.ok (), table)
  | agent :: rest, table =>
      match removeSubscriptionFromSubTable agent conn isLocal table with
      | .error e => (.error e, table)
      | .ok left => removeAgents conn isLocal rest left

def removeConnection (s : SubscriptionTableImpl) (conn : Nat) (isLocal : Bool)
    (order : IterOrder (Agent × Unit)) :
    Except SubscriptionTableError Unit × SubscriptionTableImpl :=
  match s.connections.get? conn with
  | none => (.error .connectionIdNotFound, s)
  | some set =>
      match removeAgents conn isLocal ((set.iter order).map Prod.fst) s.table with
      | (.error e, table) => (.error e, { s with table := table })
      | (.ok (), table) => (.ok (), { table := table, connections := s.connections.remove conn })

def noMatch (agentType : AgentType) (agentId : Option UInt64) : SubscriptionTableError :=
  .noMatch (agentType.display ++ ", " ++ debugId agentId)

def matchOne (s : SubscriptionTableImpl) (agentType : AgentType) (agentId : Option UInt64)
    (incomingConn : Nat) (rng : Rng) : Except SubscriptionTableError Nat :=
  match s.table.get? agentType with
  | none => .error (noMatch agentType agentId)
  | some state =>
      match state.getOneConnection agentId incomingConn true rng with
      | some out => .ok out
      | none =>
          match state.getOneConnection agentId incomingConn false rng with
          | some out => .ok out
          | none => .error (noMatch agentType agentId)

def matchAll (s : SubscriptionTableImpl) (agentType : AgentType) (agentId : Option UInt64)
    (incomingConn : Nat) (order : IterOrder (Nat × Nat)) :
    Except SubscriptionTableError (List Nat) :=
  match s.table.get? agentType with
  | none => .error (noMatch agentType agentId)
  | some state =>
      match state.getAllConnections agentId incomingConn true order with
      | some out => .ok out
      | none =>
          match state.getAllConnections agentId incomingConn false order with
          | some out => .ok out
          | none => .error (noMatch agentType agentId)

/-- The arguments of the calls that `for_each` makes: type, id, local and remote
    connections. -/
def forEach (s : SubscriptionTableImpl) : List (AgentType × UInt64 × List Nat × List Nat) :=
  s.table.entries.flatMap fun entry =>
    entry.2.ids.entries.map fun id =>
      (entry.1, id.1, id.2 (sideIndex true), id.2 (sideIndex false))

end SubscriptionTableImpl

end Slim
