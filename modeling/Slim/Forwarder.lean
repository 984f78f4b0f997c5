import Slim.SubscriptionTableMatch

/-!
# The forwarder: `forwarder.rs`, `connection_table.rs`, `remote_subscription_table.rs`

The forwarder holds three tables: the connections by index, the subscriptions that
route messages to them, and, connection by connection, the subscriptions it has
forwarded to the node at the other end.  Each call of the forwarder updates the
tables one after the other.
-/

namespace Slim

open HashKey
open SubscriptionTableImpl (sampleType)

/-! ## The tables beside the subscription table -/

/-- `ConnectionTable`: a pool of connections under a lock. -/
abbrev ConnectionTable (T : Type) := Pool T

structure SubscriptionInfo where
  source : Agent
  name : Agent
deriving DecidableEq, Repr

instance : HashKey SubscriptionInfo (AgentKey × AgentKey) :=
  ⟨fun info => (key info.source, key info.name)⟩

abbrev RemoteSubscriptions := HashMap Nat (HashSet SubscriptionInfo)

namespace RemoteSubscriptions

def addSubscription (map : RemoteSubscriptions) (source name : Agent) (conn : Nat) :
    RemoteSubscriptions :=
  match map.get? conn with
  | none => map.insert conn (HashMap.empty.insert ⟨source, name⟩ ())
  | some set => map.insert conn (set.insert ⟨source, name⟩ ())

def removeSubscription (map : RemoteSubscriptions) (source name : Agent) (conn : Nat) :
    RemoteSubscriptions :=
  match map.get? conn with
  | none => map -- "connection not found"
  | some set =>
      let left := set.remove ⟨source, name⟩
      if left.isEmpty then map.remove conn else map.insert conn left

def getSubscriptionsOnConnection (map : RemoteSubscriptions) (conn : Nat) :
    HashSet SubscriptionInfo :=
  (map.get? conn).getD HashMap.empty

def removeConnection (map : RemoteSubscriptions) (conn : Nat) : RemoteSubscriptions :=
  map.remove conn

/-- What is recorded on a connection after a subscription is recorded. -/
theorem getSubscriptions_addSubscription (map : RemoteSubscriptions) (source name : Agent)
    (conn d : Nat) :
    (map.addSubscription source name conn).getSubscriptionsOnConnection d =
      if d = conn then (map.getSubscriptionsOnConnection d).insert ⟨source, name⟩ ()
      else map.getSubscriptionsOnConnection d := by
  unfold addSubscription getSubscriptionsOnConnection
  by_cases hd : d = conn
  · subst hd
    rcases map.get? d with _ | set
    · simp
    · simp
  · rcases map.get? conn with _ | set
    · simp [HashMap.get?_insert, hd]
    · simp [HashMap.get?_insert, hd]

/-- What is recorded on a connection after a subscription is taken off the record. -/
theorem getSubscriptions_removeSubscription (map : RemoteSubscriptions) (source name : Agent)
    (conn d : Nat) :
    (map.removeSubscription source name conn).getSubscriptionsOnConnection d =
      if d = conn then (map.getSubscriptionsOnConnection d).remove ⟨source, name⟩
      else map.getSubscriptionsOnConnection d := by
  unfold removeSubscription getSubscriptionsOnConnection
  by_cases hd : d = conn
  · subst hd
    rcases hget : map.get? d with _ | set
    · simp only [hget, if_true]
      rfl
    · simp only [if_true, Option.getD_some]
      by_cases hempty : (set.remove ⟨source, name⟩).isEmpty = true
      · rw [if_pos hempty, HashMap.get?_remove_self, HashMap.eq_empty_of_isEmpty hempty]
        rfl
      · rw [if_neg hempty, HashMap.get?_insert_self]
        rfl
  · rcases hget : map.get? conn with _ | set
    · rw [if_neg hd]
    · simp only []
      split
      · rw [HashMap.get?_remove_of_ne _ (by simpa using hd)]
      · rw [HashMap.get?_insert_of_ne _ _ (by simpa using hd)]

theorem getSubscriptions_removeConnection (map : RemoteSubscriptions) (conn d : Nat) :
    (map.removeConnection conn).getSubscriptionsOnConnection d =
      if d = conn then HashMap.empty else map.getSubscriptionsOnConnection d := by
  unfold removeConnection getSubscriptionsOnConnection
  rw [HashMap.get?_remove]
  by_cases hd : d = conn
  · simp [hd]
  · simp [hd]

theorem contains_addSubscription (map : RemoteSubscriptions) (source name : Agent) (conn : Nat)
    (info : SubscriptionInfo) :
    ((map.addSubscription source name conn).getSubscriptionsOnConnection conn).contains info =
        true ↔
      (map.getSubscriptionsOnConnection conn).contains info = true ∨
        key info = key (SubscriptionInfo.mk source name) := by
  rw [getSubscriptions_addSubscription, if_pos rfl, HashMap.contains_insert, Bool.or_eq_true,
    decide_eq_true_eq, or_comm]

/-- The names on record for a connection, once one is recorded. -/
theorem exists_contains_addSubscription (map : RemoteSubscriptions) (source name other : Agent)
    (conn : Nat) :
    (∃ recorded, ((map.addSubscription source name conn).getSubscriptionsOnConnection
        conn).contains ⟨recorded, other⟩ = true) ↔
      (∃ recorded, (map.getSubscriptionsOnConnection conn).contains ⟨recorded, other⟩ = true) ∨
        key other = key name := by
  simp only [contains_addSubscription, exists_or]
  apply or_congr_right
  constructor
  · rintro ⟨recorded, hkey⟩
    exact congrArg Prod.snd hkey
  · intro hkey
    exact ⟨source, Prod.ext rfl hkey⟩

/-- The names on record for a connection, once the only record of one is taken away. -/
theorem exists_contains_removeSubscription {map : RemoteSubscriptions} {source name : Agent}
    {conn : Nat} (honly : ∀ recorded,
      (map.getSubscriptionsOnConnection conn).contains ⟨recorded, name⟩ = true →
        key recorded = key source) (other : Agent) :
    (∃ recorded, ((map.removeSubscription source name conn).getSubscriptionsOnConnection
        conn).contains ⟨recorded, other⟩ = true) ↔
      (∃ recorded, (map.getSubscriptionsOnConnection conn).contains ⟨recorded, other⟩ = true) ∧
        key other ≠ key name := by
  simp only [getSubscriptions_removeSubscription, if_true, HashMap.contains_remove,
    Bool.and_eq_true, decide_eq_true_eq]
  constructor
  · rintro ⟨recorded, hne, hrecorded⟩
    refine ⟨⟨recorded, hrecorded⟩, fun hkey => hne ?_⟩
    apply Prod.ext
    · apply honly recorded
      rw [← hrecorded]
      exact HashMap.contains_congr _ (Prod.ext rfl hkey.symm)
    · exact hkey
  · rintro ⟨⟨recorded, hrecorded⟩, hne⟩
    exact ⟨recorded, fun hkey => hne (congrArg Prod.snd hkey), hrecorded⟩

end RemoteSubscriptions

/-! ## `Forwarder` -/

structure Forwarder (T : Type) where
  subscriptionTable : SubscriptionTableImpl
  remoteSubscriptionTable : RemoteSubscriptions
  connectionTable : ConnectionTable T

namespace Forwarder

variable {T : Type}

def new : Forwarder T where
  subscriptionTable := SubscriptionTableImpl.default
  remoteSubscriptionTable := HashMap.empty
  connectionTable := Pool.withCapacity 100 (by decide)

def onConnectionEstablished (f : Forwarder T) (conn : T) (existingIndex : Option Nat) :
    Except PoolPanic (Option Nat × Forwarder T) :=
  match existingIndex with
  | none =>
      let (pool, index) := f.connectionTable.insert conn
      .ok (some index, { f with connectionTable := pool })
  | some index =>
      match f.connectionTable.insertAt conn index with
      | .error panic => .error panic
      | .ok (inserted, pool) =>
          .ok (if inserted then existingIndex else none, { f with connectionTable := pool })

def onConnectionDrop (f : Forwarder T) (connIndex : Nat) (isLocal : Bool)
    (order : IterOrder (Agent × Unit)) : Forwarder T where
  connectionTable := (f.connectionTable.remove connIndex).2
  -- the result of the removal is not looked at
  subscriptionTable := (f.subscriptionTable.removeConnection connIndex isLocal order).2
  remoteSubscriptionTable := f.remoteSubscriptionTable.removeConnection connIndex

def getConnection (f : Forwarder T) (connIndex : Nat) : Option T :=
  f.connectionTable.get connIndex

def onSubscriptionMsg (f : Forwarder T) (agentType : AgentType) (agentId : Option UInt64)
    (connIndex : Nat) (isLocal add : Bool) :
    Except SubscriptionTableError Unit × Forwarder T :=
  let (result, table) :=
    if add then f.subscriptionTable.addSubscription agentType agentId connIndex isLocal
    else f.subscriptionTable.removeSubscription agentType agentId connIndex isLocal
  (result, { f with subscriptionTable := table })

/-- The update of the subscription table touches neither of the other tables. -/
theorem onSubscriptionMsg_frame {f g : Forwarder T} {agentType : AgentType}
    {agentId : Option UInt64} {connIndex : Nat} {isLocal add : Bool}
    {result : Except SubscriptionTableError Unit}
    (hupdate : f.onSubscriptionMsg agentType agentId connIndex isLocal add = (result, g)) :
    g.connectionTable = f.connectionTable ∧
      g.remoteSubscriptionTable = f.remoteSubscriptionTable := by
  have hg : g = (f.onSubscriptionMsg agentType agentId connIndex isLocal add).2 :=
    (congrArg Prod.snd hupdate).symm
  rw [hg]
  exact ⟨rfl, rfl⟩

def onForwardedSubscription (f : Forwarder T) (source : Agent) (nameType : AgentType)
    (nameAgentId : Option UInt64) (connIndex : Nat) (add : Bool) : Forwarder T :=
  let name : Agent := ⟨nameType, nameAgentId.getD DEFAULT_AGENT_ID⟩
  { f with
    remoteSubscriptionTable :=
      if add then f.remoteSubscriptionTable.addSubscription source name connIndex
      else f.remoteSubscriptionTable.removeSubscription source name connIndex }

def onPublishMsgMatch (f : Forwarder T) (agentType : AgentType) (agentId : Option UInt64)
    (incomingConn : Nat) (fanout : UInt32) (rng : Rng) (order : IterOrder (Nat × Nat)) :
    Except SubscriptionTableError (List Nat) :=
  if fanout = 1 then
    match f.subscriptionTable.matchOne agentType agentId incomingConn rng with
    | .ok out => .ok [out]
    | .error e => .error e
  else f.subscriptionTable.matchAll agentType agentId incomingConn order

/-- The list of outputs is never empty. -/
theorem ne_nil_of_onPublishMsgMatch {f : Forwarder T} {agentType : AgentType}
    {agentId : Option UInt64} {incomingConn : Nat} {fanout : UInt32} {rng : Rng}
    {order : IterOrder (Nat × Nat)} {out : List Nat}
    (hout : f.onPublishMsgMatch agentType agentId incomingConn fanout rng order = .ok out) :
    out ≠ [] := by
  unfold onPublishMsgMatch at hout
  split at hout
  · rcases hone : f.subscriptionTable.matchOne agentType agentId incomingConn rng with e | found
    · simp [hone] at hout
    · rw [hone, Except.ok.injEq] at hout
      simp [← hout]
  · obtain ⟨isLocal, hsound⟩ := SubscriptionTableImpl.matchAll_sound hout
    exact hsound.nonempty

end Forwarder

/-! ## Sequential runs -/

/-- The calls that change the forwarder. -/
inductive ForwarderCall (T : Type) where
  | connectionEstablished (conn : T) (existingIndex : Option Nat)
  | connectionDrop (connIndex : Nat) (isLocal : Bool) (order : IterOrder (Agent × Unit))
  | subscriptionMsg (agentType : AgentType) (agentId : Option UInt64) (connIndex : Nat)
      (isLocal add : Bool)
  | forwardedSubscription (source : Agent) (nameType : AgentType) (nameAgentId : Option UInt64)
      (connIndex : Nat) (add : Bool)

/-- The call on the subscription table that the forwarder makes, if any. -/
def ForwarderCall.tableCall {T : Type} : ForwarderCall T → Option Call
  | connectionEstablished _ _ => none
  | connectionDrop connIndex isLocal order => some (.removeConnection connIndex isLocal order)
  | subscriptionMsg agentType agentId connIndex isLocal true =>
      some (.addSubscription agentType agentId connIndex isLocal)
  | subscriptionMsg agentType agentId connIndex isLocal false =>
      some (.removeSubscription agentType agentId connIndex isLocal)
  | forwardedSubscription _ _ _ _ _ => none

namespace Forwarder

variable {T : Type}

/-- The state after a call.  A call that panics ends its task.  An `insert_at` that panics has
    counted `len` by then; the tables are taken as they were before it all the same. -/
def exec (f : Forwarder T) : ForwarderCall T → Forwarder T
  | .connectionEstablished conn existingIndex =>
      match f.onConnectionEstablished conn existingIndex with
      | .error _ => f
      | .ok (_, g) => g
  | .connectionDrop connIndex isLocal order => f.onConnectionDrop connIndex isLocal order
  | .subscriptionMsg agentType agentId connIndex isLocal add =>
      (f.onSubscriptionMsg agentType agentId connIndex isLocal add).2
  | .forwardedSubscription source nameType nameAgentId connIndex add =>
      f.onForwardedSubscription source nameType nameAgentId connIndex add

/-- The subscription table sees a call or nothing. -/
theorem subscriptionTable_exec (f : Forwarder T) (call : ForwarderCall T) :
    (f.exec call).subscriptionTable =
      match call.tableCall with
      | none => f.subscriptionTable
      | some inner => f.subscriptionTable.exec inner := by
  cases call with
  | connectionEstablished conn existingIndex =>
      simp only [exec, ForwarderCall.tableCall]
      rcases existingIndex with _ | index
      · rfl
      · simp only [onConnectionEstablished]
        rcases f.connectionTable.insertAt conn index with _ | ⟨inserted, pool⟩
        · rfl
        · rfl
  | connectionDrop connIndex isLocal order => rfl
  | subscriptionMsg agentType agentId connIndex isLocal add =>
      cases add with
      | true => rfl
      | false => rfl
  | forwardedSubscription source nameType nameAgentId connIndex add => rfl

theorem remoteSubscriptionTable_established (f : Forwarder T) (conn : T)
    (existingIndex : Option Nat) :
    (f.exec (.connectionEstablished conn existingIndex)).remoteSubscriptionTable =
      f.remoteSubscriptionTable := by
  rcases existingIndex with _ | index
  · rfl
  · simp only [exec, onConnectionEstablished]
    rcases f.connectionTable.insertAt conn index with _ | ⟨inserted, pool⟩
    · rfl
    · rfl

/-- A connection that is put in the place of another one. -/
theorem exec_reestablished {f : Forwarder T} {index : Nat} {old : T}
    (hold : f.getConnection index = some old) (conn : T) :
    (f.exec (.connectionEstablished conn (some index))).getConnection index = some conn := by
  have hinside : index < f.connectionTable.capacity := by
    by_contra hbeyond
    rw [getConnection, Pool.get_of_capacity_le _ (Nat.not_lt.mp hbeyond)] at hold
    cases hold
  simp only [exec, onConnectionEstablished, Pool.insertAt, if_neg (Nat.lt_asymm hinside),
    dif_pos hinside]
  exact (Pool.get_place _ _ _ hinside _).trans (if_pos rfl)

/-- The `is_local` flag of the call agrees with the side on which its connection is
    listed. -/
def Honest (f : Forwarder T) (call : ForwarderCall T) : Prop :=
  ∀ inner, call.tableCall = some inner → f.subscriptionTable.Honest inner

/-- The call is an unsubscription that fails after it has dropped a reference. -/
def Strays (f : Forwarder T) (call : ForwarderCall T) : Prop :=
  ∃ inner, call.tableCall = some inner ∧ f.subscriptionTable.Strays inner

theorem consistent_exec {f : Forwarder T} (hs : f.subscriptionTable.Consistent)
    {call : ForwarderCall T} (hhonest : f.Honest call) (hstray : ¬ f.Strays call) :
    (f.exec call).subscriptionTable.Consistent := by
  rw [subscriptionTable_exec]
  rcases hinner : call.tableCall with _ | inner
  · exact hs
  · exact hs.exec inner (hhonest inner hinner) fun h => hstray ⟨inner, hinner, h⟩

theorem consistent_run {calls : List (ForwarderCall T)}
    (hsteps : Runs.Along exec (fun f call => f.Honest call ∧ ¬ f.Strays call) new calls) :
    (Runs.run exec (new : Forwarder T) calls).subscriptionTable.Consistent :=
  Runs.run_invariant (I := fun f : Forwarder T => f.subscriptionTable.Consistent)
    (fun _ _ hs hstep => consistent_exec hs hstep.1 hstep.2) calls new hsteps
    SubscriptionTableImpl.consistent_default

/-- Flags that are a function of the connection are honest. -/
theorem along_honest_of_flag (isLocal : Nat → Bool) {calls : List (ForwarderCall T)}
    (hflag : ∀ call ∈ calls, ∀ inner, call.tableCall = some inner →
      inner.isLocal = isLocal inner.conn) :
    Runs.Along exec Honest (new : Forwarder T) calls := by
  apply Runs.along_of_invariant (I := fun f : Forwarder T => ∀ conn,
    f.subscriptionTable.table.ListedOn conn (sideIndex (isLocal conn)))
    (P := fun _ call => ∀ inner, call.tableCall = some inner →
      inner.isLocal = isLocal inner.conn)
  · intro f call hlisted hflag
    rw [subscriptionTable_exec]
    rcases hinner : call.tableCall with _ | inner
    · exact hlisted
    · exact SubscriptionTableImpl.listedOn_exec hlisted (hflag inner hinner)
  · intro f call hlisted hflag inner hinner
    rw [SubscriptionTableImpl.Honest, hflag inner hinner]
    exact hlisted inner.conn
  · exact Runs.along_of_forall calls new hflag
  · intro conn agent side hmem
    cases hmem

/-! ## Teardown -/

/-- Nothing in the tables refers to the connection: it has no entry, nothing is routed
    to it, and no subscription was forwarded on it. -/
structure NoTrace (f : Forwarder T) (conn : Nat) : Prop where
  no_connection : f.connectionTable.get conn = none
  unrouted : f.subscriptionTable.Unrouted conn
  no_remote : f.remoteSubscriptionTable.get? conn = none

/-- From a consistent table a drop removes every trace of its connection. -/
theorem noTrace_drop {f : Forwarder T} (hs : f.subscriptionTable.Consistent) {conn : Nat}
    {isLocal : Bool} (hhonest : f.subscriptionTable.table.ListedOn conn (sideIndex isLocal))
    (order : IterOrder (Agent × Unit)) : (f.onConnectionDrop conn isLocal order).NoTrace conn := by
  constructor
  · simp only [onConnectionDrop, Pool.get_remove, if_true]
  · apply SubscriptionTableImpl.unrouted_of_not_listed
    intro agent hlisted
    exact ((hs.listed_removeConnection conn isLocal order hhonest agent conn).1 hlisted).2 rfl
  · exact HashMap.get?_remove_self _ _

/-- In every sequential run in which the flags are honest and no unsubscription is
    stray, a drop leaves no trace of its connection. -/
theorem drop_leaves_no_trace (calls : List (ForwarderCall T)) (conn : Nat) (isLocal : Bool)
    (order : IterOrder (Agent × Unit))
    (hsteps : Runs.Along exec (fun f call => f.Honest call ∧ ¬ f.Strays call) new
      (calls ++ [.connectionDrop conn isLocal order])) :
    (Runs.run exec new (calls ++ [.connectionDrop conn isLocal order])).NoTrace conn := by
  obtain ⟨hcalls, ⟨hhonest, -⟩, -⟩ := (Runs.along_append _ _ _).1 hsteps
  rw [Runs.run_concat]
  exact noTrace_drop (consistent_run hcalls) (hhonest _ rfl) order

/-- Two connections subscribe to two ids of one type, and the first unsubscribes from
    the id of the second. -/
def strayRun : List (ForwarderCall Unit) :=
  [.connectionEstablished () none, .connectionEstablished () none,
    .subscriptionMsg sampleType (some 1) 0 true true,
    .subscriptionMsg sampleType (some 2) 1 true true,
    .subscriptionMsg sampleType (some 2) 0 true false]

/-- The unsubscription fails.  When the first connection is dropped, the removal of
    its agents stops at the missing reference, and the first id is still routed to it. -/
theorem drop_leaves_route :
    let f := Runs.run exec new (strayRun ++ [.connectionDrop 0 true IterOrder.stored])
    f.connectionTable.get 0 = none ∧
      f.subscriptionTable.matchAll sampleType (some 1) 9 IterOrder.stored = .ok [0] ∧
      f.subscriptionTable.matchOne sampleType (some 1) 9 Rng.zero = .ok 0 ∧ ¬ f.NoTrace 0 := by
  refine ⟨rfl, rfl, rfl, fun htrace => ?_⟩
  exact htrace.unrouted.no_matchAll sampleType (some 1) 9 IterOrder.stored [0] rfl
    List.mem_cons_self

/-- The first connection subscribes to both ids and unsubscribes from the second one. -/
def heldRun : List (ForwarderCall Unit) :=
  [.connectionEstablished () none, .connectionEstablished () none,
    .subscriptionMsg sampleType (some 1) 0 true true,
    .subscriptionMsg sampleType (some 2) 0 true true,
    .subscriptionMsg sampleType (some 2) 1 true true,
    .subscriptionMsg sampleType (some 2) 0 true false]

theorem drop_leaves_no_trace_sample :
    let f := Runs.run exec new (heldRun ++ [.connectionDrop 0 true IterOrder.stored])
    f.NoTrace 0 ∧
      f.subscriptionTable.matchAll sampleType (some 2) 9 IterOrder.stored = .ok [1] := by
  refine ⟨?_, rfl⟩
  apply drop_leaves_no_trace
  refine (Runs.along_and _ _).2 ⟨along_honest_of_flag (fun _ => true) ?_, ?_⟩
  · intro call hcall inner hinner
    simp only [heldRun, List.cons_append, List.nil_append, List.mem_cons, List.not_mem_nil,
      or_false] at hcall
    rcases hcall with rfl | rfl | rfl | rfl | rfl | rfl | rfl
    all_goals cases hinner
    all_goals rfl
  · refine ⟨?_, ?_, ?_, ?_, ?_, ?_, ?_, trivial⟩
    all_goals rintro ⟨inner, ⟨⟩, hstrays⟩
    · exact hstrays
    · exact hstrays
    · exact hstrays
    · -- the first connection holds the id from which it unsubscribes
      exact hstrays.2.2 rfl
    · exact hstrays

end Forwarder

end Slim
