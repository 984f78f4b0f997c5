import Slim.SubscriptionTableInvariant

/-!
# Concurrent calls on the subscription table

The calls of `tables/subscription_table.rs` take the locks of the two tables one
after the other, and calls of several tasks can interleave between two sections.
Here every section is one step.  `remove_connection` keeps the read lock of the
agent sets over its whole loop, so while a loop is under way no task can enter a
section that writes the agent sets.

`Tracked` says what the tables look like in the middle of calls: for every agent
and connection, either no call is at work on the pair and the two tables agree on
it, or one call is, and its position says how far the tables are apart.
-/

namespace Slim

open HashKey SubscriptionTableImpl

/-! ## Tasks and their sections -/

/-- Where a task stands: the section it enters next. -/
inductive CallState where
  | idle
  | addToTable (agent : Agent) (conn : Nat) (isLocal : Bool)
  | addToConnection (agent : Agent) (conn : Nat)
  | removeFromConnection (agent : Agent) (conn : Nat)
  -- the loop of `remove_connection`, with the agents it has not visited yet
  | removeAgents (conn : Nat) (isLocal : Bool) (agents : List Agent)
  | forgetConnection (conn : Nat)
deriving DecidableEq, Repr

/-- The tables, the number of read locks that are held between two steps, and where
    each task stands. -/
structure ConcurrentTable where
  store : SubscriptionTableImpl
  readers : Nat
  tasks : Nat → CallState

inductive TaskEvent where
  | start (task : Nat) (call : Call)
  | advance (task : Nat)

namespace ConcurrentTable

def init : ConcurrentTable := ⟨SubscriptionTableImpl.default, 0, fun _ => .idle⟩

/-- No call is in progress. -/
def Quiescent (s : ConcurrentTable) : Prop := ∀ i, s.tasks i = .idle

def moveTo (s : ConcurrentTable) (i : Nat) (state : CallState) : ConcurrentTable :=
  { s with tasks := Function.update s.tasks i state }

/-- The first section of a call. -/
def startCall (s : ConcurrentTable) (i : Nat) : Call → ConcurrentTable
  | .addSubscription agentType agentId conn isLocal =>
      let agent := agentOf agentType agentId
      if isSubscribed s.store.connections agent conn then s
      else s.moveTo i (.addToTable agent conn isLocal)
  | .removeSubscription agentType agentId conn isLocal =>
      let agent := agentOf agentType agentId
      match removeSubscriptionFromSubTable agent conn isLocal s.store.table with
      | .error _ => s
      | .ok left =>
          { s with store := { s.store with table := left } }.moveTo i
            (.removeFromConnection agent conn)
  | .removeConnection conn isLocal order =>
      match s.store.connections.get? conn with
      | none => s
      | some set =>
          { s with readers := s.readers + 1 }.moveTo i
            (.removeAgents conn isLocal ((set.iter order).map Prod.fst))

/-- The next section of a task.  A section that writes the agent sets waits for the
    read locks. -/
def resume (s : ConcurrentTable) (i : Nat) : CallState → ConcurrentTable
  | .idle => s
  | .addToTable agent conn isLocal =>
      { s with store := { s.store with
          table := addSubscriptionToSubTable agent conn isLocal s.store.table } }.moveTo i
        (.addToConnection agent conn)
  | .addToConnection agent conn =>
      if s.readers = 0 then
        { s with store := { s.store with
            connections := addSubscriptionToConnection agent conn s.store.connections } }.moveTo i
          .idle
      else s
  | .removeFromConnection agent conn =>
      if s.readers = 0 then
        match removeSubscriptionFromConnection agent conn s.store.connections with
        | .error _ => s.moveTo i .idle
        | .ok left => { s with store := { s.store with connections := left } }.moveTo i .idle
      else s
  | .removeAgents conn isLocal (agent :: rest) =>
      match removeSubscriptionFromSubTable agent conn isLocal s.store.table with
      -- the early return gives the read lock back
      | .error _ => { s with readers := s.readers - 1 }.moveTo i .idle
      | .ok left =>
          { s with store := { s.store with table := left } }.moveTo i
            (.removeAgents conn isLocal rest)
  | .removeAgents conn _ [] => { s with readers := s.readers - 1 }.moveTo i (.forgetConnection conn)
  | .forgetConnection conn =>
      if s.readers = 0 then
        { s with store := { s.store with
            connections := s.store.connections.remove conn } }.moveTo i .idle
      else s

/-- A task begins a call only when it has none in progress. -/
def step (s : ConcurrentTable) : TaskEvent → ConcurrentTable
  | .start i call => if s.tasks i = .idle then s.startCall i call else s
  | .advance i => s.resume i (s.tasks i)

end ConcurrentTable

/-! ## What a task is at work on -/

/-- The pairs of an agent and a connection that the call in progress may change. -/
def CallState.Touches : CallState → Agent → Nat → Prop
  | .idle, _, _ => False
  | .addToTable agent conn _, other, d => key other = key agent ∧ d = conn
  | .addToConnection agent conn, other, d => key other = key agent ∧ d = conn
  | .removeFromConnection agent conn, other, d => key other = key agent ∧ d = conn
  | .removeAgents conn _ _, _, d => d = conn
  | .forgetConnection conn, _, d => d = conn

/-- A flag that the task still carries for the connection is this one. -/
def CallState.Agrees (conn : Nat) (isLocal : Bool) : CallState → Prop
  | .addToTable _ d flag => d = conn → flag = isLocal
  | .removeAgents d flag _ => d = conn → flag = isLocal
  | _ => True

/-- The pairs that a call is about. -/
def Call.Touches : Call → Agent → Nat → Prop
  | .addSubscription agentType agentId conn _, other, d =>
      key other = key (agentOf agentType agentId) ∧ d = conn
  | .removeSubscription agentType agentId conn _, other, d =>
      key other = key (agentOf agentType agentId) ∧ d = conn
  | .removeConnection conn _ _, _, d => d = conn

/-- The call can be carried out beside the calls in progress: its flag agrees with the
    listings and with the flags of the calls in progress, none of these is about one of
    its pairs, and it is not a stray unsubscription. -/
structure ConcurrentTable.Undisturbed (s : ConcurrentTable) (call : Call) : Prop where
  listed_on : s.store.table.ListedOn call.conn (sideIndex call.isLocal)
  flags_agree : ∀ i, (s.tasks i).Agrees call.conn call.isLocal
  no_overlap : ∀ i agent conn, call.Touches agent conn → ¬ (s.tasks i).Touches agent conn
  not_stray : ¬ s.store.Strays call

/-- The condition on a step: nothing is asked of the later sections of a call. -/
def ConcurrentTable.Admits (s : ConcurrentTable) : TaskEvent → Prop
  | .start _ call => s.Undisturbed call
  | .advance _ => True

/-! ## Agreement of the two tables -/

namespace SubTable

/-- How many ids of the type list the connection. -/
def idsListing (table : SubTable) (agentType : AgentType) (side : Fin 2) (conn : Nat) : Nat :=
  (table.state agentType).ids.total fun v => if conn ∈ v side then 1 else 0

/-- Without repetitions the listings count the ids. -/
theorem listings_eq_idsListing {table : SubTable} (hunique : table.Unique)
    (agentType : AgentType) (side : Fin 2) (conn : Nat) :
    table.listings agentType side conn = table.idsListing agentType side conn := by
  simp only [listings, AgentTypeState.listings, IdMap.listings, idsListing]
  apply HashMap.total_congr
  intro id v hget
  have hnodup : (v side).Nodup := by
    have hconns := hunique ⟨agentType, id⟩ side
    rwa [conns, AgentTypeState.conns, IdMap.conns_of_get hget] at hconns
  exact hnodup.count

end SubTable

/-- The two tables tell the same: the set of a connection has an agent exactly if the
    agent lists the connection, no agent lists a connection twice, and the counter of a
    connection is the number of ids that list it. -/
structure SubscriptionTableImpl.InAgreement (s : SubscriptionTableImpl) : Prop where
  held_iff_listed : ∀ agent conn, s.connections.Holds agent conn ↔ s.table.Listed agent conn
  listed_once : ∀ agent conn,
    (s.table.conns agent 0).count conn + (s.table.conns agent 1).count conn ≤ 1
  refs_eq_ids : ∀ agentType side conn,
    s.table.refs agentType side conn = s.table.idsListing agentType side conn

/-! ## The tables in the middle of calls -/

/-- How far the tables are apart on the pairs of a call in progress. -/
def CallState.Explains (store : SubscriptionTableImpl) : CallState → Prop
  | .idle => True
  | .addToTable agent conn _ =>
      ¬ store.connections.Holds agent conn ∧ ¬ store.table.Listed agent conn
  | .addToConnection agent conn =>
      ¬ store.connections.Holds agent conn ∧ store.table.Listed agent conn
  | .removeFromConnection agent conn =>
      store.connections.Holds agent conn ∧ ¬ store.table.Listed agent conn
  | .removeAgents conn _ agents => (agents.map key).Nodup ∧
      ∀ agent, store.table.Listed agent conn ↔ ∃ a ∈ agents, key agent = key a
  | .forgetConnection conn => ∀ agent, ¬ store.table.Listed agent conn

/-- Nothing has changed about the pair. -/
def SameAt (store left : SubscriptionTableImpl) (agent : Agent) (conn : Nat) : Prop :=
  (left.connections.Holds agent conn ↔ store.connections.Holds agent conn) ∧
    (left.table.Listed agent conn ↔ store.table.Listed agent conn)

/-- What a call in progress says of the tables is about its own pairs. -/
theorem CallState.Explains.congr {store left : SubscriptionTableImpl} {state : CallState}
    (hsame : ∀ agent conn, state.Touches agent conn → SameAt store left agent conn)
    (hstate : state.Explains store) : state.Explains left := by
  cases state with
  | idle => trivial
  | addToTable agent conn isLocal =>
      obtain ⟨hholds, hlisted⟩ := hsame agent conn ⟨rfl, rfl⟩
      exact ⟨hholds.not.2 hstate.1, hlisted.not.2 hstate.2⟩
  | addToConnection agent conn =>
      obtain ⟨hholds, hlisted⟩ := hsame agent conn ⟨rfl, rfl⟩
      exact ⟨hholds.not.2 hstate.1, hlisted.2 hstate.2⟩
  | removeFromConnection agent conn =>
      obtain ⟨hholds, hlisted⟩ := hsame agent conn ⟨rfl, rfl⟩
      exact ⟨hholds.2 hstate.1, hlisted.not.2 hstate.2⟩
  | removeAgents conn isLocal agents =>
      exact ⟨hstate.1, fun agent => (hsame agent conn rfl).2.trans (hstate.2 agent)⟩
  | forgetConnection conn =>
      exact fun agent => (hsame agent conn rfl).2.not.2 (hstate agent)

/-- The invariant of the concurrent runs, for flags that depend on the connection. -/
structure ConcurrentTable.Tracked (s : ConcurrentTable) (isLocal : Nat → Bool) : Prop where
  unique : s.store.table.Unique
  counted : s.store.table.Counted
  listed_on : ∀ conn, s.store.table.ListedOn conn (sideIndex (isLocal conn))
  flags : ∀ i conn, (s.tasks i).Agrees conn (isLocal conn)
  exclusive : ∀ {i j agent conn}, (s.tasks i).Touches agent conn →
    (s.tasks j).Touches agent conn → i = j
  in_progress : ∀ i, (s.tasks i).Explains s.store
  settled : ∀ {agent conn}, (∀ i, ¬ (s.tasks i).Touches agent conn) →
    (s.store.connections.Holds agent conn ↔ s.store.table.Listed agent conn)

namespace ConcurrentTable

theorem tracked_init (isLocal : Nat → Bool) : init.Tracked isLocal where
  unique := fun _ _ => List.nodup_nil
  counted := fun _ _ _ => rfl
  listed_on := fun _ _ _ hmem => nomatch hmem
  flags := fun _ _ => trivial
  exclusive := fun htouch _ => htouch.elim
  in_progress := fun _ => trivial
  settled := fun {agent conn} _ => by
    refine iff_of_false (ConnTable.not_holds_empty agent conn) ?_
    rintro ⟨side, hmem⟩
    cases hmem

section Replace

variable {s left : ConcurrentTable} {isLocal : Nat → Bool} {i : Nat} {state : CallState}

/-- One task moves on.  It may change the tables at the pairs it was or is at work on,
    and leaves the two tables in agreement on the pairs it lets go. -/
theorem Tracked.replace (hs : s.Tracked isLocal)
    (htasks : left.tasks = Function.update s.tasks i state) (hunique : left.store.table.Unique)
    (hcounted : left.store.table.Counted)
    (hside : ∀ conn, left.store.table.ListedOn conn (sideIndex (isLocal conn)))
    (hflag : ∀ conn, state.Agrees conn (isLocal conn))
    (hfresh : ∀ j ≠ i, ∀ agent conn, state.Touches agent conn →
      ¬ (s.tasks j).Touches agent conn)
    (hframe : ∀ agent conn, ¬ (s.tasks i).Touches agent conn → ¬ state.Touches agent conn →
      SameAt s.store left.store agent conn)
    (hstate : state.Explains left.store)
    (hdone : ∀ agent conn, (s.tasks i).Touches agent conn → ¬ state.Touches agent conn →
      (left.store.connections.Holds agent conn ↔ left.store.table.Listed agent conn)) :
    left.Tracked isLocal := by
  have hself : left.tasks i = state := by rw [htasks, Function.update_self]
  have hother : ∀ j, j ≠ i → left.tasks j = s.tasks j := by
    intro j hne
    rw [htasks, Function.update_of_ne hne]
  refine ⟨hunique, hcounted, hside, ?_, ?_, ?_, ?_⟩
  · intro j conn
    by_cases hj : j = i
    · rw [hj, hself]
      exact hflag conn
    · rw [hother j hj]
      exact hs.flags j conn
  · intro j k agent conn hj hk
    by_cases hji : j = i
    · by_cases hki : k = i
      · rw [hji, hki]
      · rw [hother k hki] at hk
        rw [hji, hself] at hj
        exact absurd hk (hfresh k hki agent conn hj)
    · rw [hother j hji] at hj
      by_cases hki : k = i
      · rw [hki, hself] at hk
        exact absurd hj (hfresh j hji agent conn hk)
      · rw [hother k hki] at hk
        exact hs.exclusive hj hk
  · intro j
    by_cases hj : j = i
    · rw [hj, hself]
      exact hstate
    · rw [hother j hj]
      refine CallState.Explains.congr (fun agent conn htouch => ?_) (hs.in_progress j)
      exact hframe agent conn (fun hi => hj (hs.exclusive htouch hi))
        fun hnew => hfresh j hj agent conn hnew htouch
  · intro agent conn hfree
    have hnew : ¬ state.Touches agent conn := by
      have hi := hfree i
      rwa [hself] at hi
    by_cases hold : (s.tasks i).Touches agent conn
    · exact hdone agent conn hold hnew
    · obtain ⟨hholds, hlisted⟩ := hframe agent conn hold hnew
      rw [hholds, hlisted]
      apply hs.settled
      intro j
      by_cases hj : j = i
      · rw [hj]
        exact hold
      · have htouch := hfree j
        rwa [hother j hj] at htouch

/-- A task begins an undisturbed call and is at work on pairs of the call only. -/
theorem Tracked.beginCall (hs : s.Tracked isLocal) {call : Call} (hidle : s.tasks i = .idle)
    (hcall : s.Undisturbed call) (htasks : left.tasks = Function.update s.tasks i state)
    (htouches : ∀ agent conn, state.Touches agent conn → call.Touches agent conn)
    (hunique : left.store.table.Unique) (hcounted : left.store.table.Counted)
    (hside : ∀ conn, left.store.table.ListedOn conn (sideIndex (isLocal conn)))
    (hflag : ∀ conn, state.Agrees conn (isLocal conn))
    (hframe : ∀ agent conn, ¬ state.Touches agent conn → SameAt s.store left.store agent conn)
    (hstate : state.Explains left.store) : left.Tracked isLocal := by
  refine hs.replace htasks hunique hcounted hside hflag ?_ ?_ hstate ?_
  · intro j _ agent conn htouch
    exact hcall.no_overlap j agent conn (htouches agent conn htouch)
  · intro agent conn _ hnew
    exact hframe agent conn hnew
  · intro agent conn hold
    rw [hidle] at hold
    exact hold.elim

/-- A task goes on with the pairs it is at work on. -/
theorem Tracked.proceed (hs : s.Tracked isLocal)
    (htasks : left.tasks = Function.update s.tasks i state)
    (htouches : state.Touches = (s.tasks i).Touches) (hunique : left.store.table.Unique)
    (hcounted : left.store.table.Counted)
    (hside : ∀ conn, left.store.table.ListedOn conn (sideIndex (isLocal conn)))
    (hflag : ∀ conn, state.Agrees conn (isLocal conn))
    (hframe : ∀ agent conn, ¬ state.Touches agent conn → SameAt s.store left.store agent conn)
    (hstate : state.Explains left.store) : left.Tracked isLocal := by
  refine hs.replace htasks hunique hcounted hside hflag ?_ ?_ hstate ?_
  · intro j hne agent conn htouch hother
    rw [htouches] at htouch
    exact hne (hs.exclusive hother htouch)
  · intro agent conn _ hnew
    exact hframe agent conn hnew
  · intro agent conn hold hnew
    rw [htouches] at hnew
    exact absurd hold hnew

/-- A task ends its call with a section on the agent sets. -/
theorem Tracked.finish (hs : s.Tracked isLocal)
    (htasks : left.tasks = Function.update s.tasks i .idle)
    (htable : left.store.table = s.store.table)
    (hframe : ∀ agent conn, ¬ (s.tasks i).Touches agent conn →
      (left.store.connections.Holds agent conn ↔ s.store.connections.Holds agent conn))
    (hdone : ∀ agent conn, (s.tasks i).Touches agent conn →
      (left.store.connections.Holds agent conn ↔ s.store.table.Listed agent conn)) :
    left.Tracked isLocal := by
  refine hs.replace htasks (by rw [htable]; exact hs.unique) (by rw [htable]; exact hs.counted)
    (by rw [htable]; exact hs.listed_on) (fun _ => trivial) (fun _ _ _ _ htouch => htouch.elim)
    ?_ trivial ?_
  · intro agent conn hold _
    refine ⟨hframe agent conn hold, ?_⟩
    rw [htable]
  · intro agent conn hold _
    rw [htable]
    exact hdone agent conn hold

end Replace

/-! ## The first section of a call -/

section StartCall

variable {s : ConcurrentTable} {isLocal : Nat → Bool} {i conn : Nat} {flag : Bool}

theorem Tracked.startAdd (hs : s.Tracked isLocal) (hidle : s.tasks i = .idle)
    {agentType : AgentType} {agentId : Option UInt64}
    (hcall : s.Undisturbed (.addSubscription agentType agentId conn flag))
    (hflag : flag = isLocal conn) :
    (s.startCall i (.addSubscription agentType agentId conn flag)).Tracked isLocal := by
  simp only [startCall]
  by_cases hholds : isSubscribed s.store.connections (agentOf agentType agentId) conn = true
  · rw [if_pos hholds]
    exact hs
  rw [if_neg hholds]
  have hsettled :=
    hs.settled fun j => hcall.no_overlap j (agentOf agentType agentId) conn ⟨rfl, rfl⟩
  refine hs.beginCall hidle hcall rfl (fun _ _ htouch => htouch) hs.unique hs.counted hs.listed_on
    ?_ (fun _ _ _ => ⟨Iff.rfl, Iff.rfl⟩) ⟨hholds, hsettled.not.1 hholds⟩
  rintro d rfl
  exact hflag

theorem Tracked.startRemove (hs : s.Tracked isLocal) (hidle : s.tasks i = .idle)
    {agentType : AgentType} {agentId : Option UInt64}
    (hcall : s.Undisturbed (.removeSubscription agentType agentId conn flag)) :
    (s.startCall i (.removeSubscription agentType agentId conn flag)).Tracked isLocal := by
  simp only [startCall]
  rcases SubTable.remove_cases (agentOf agentType agentId) conn flag s.store.table with
    ⟨-, e, herror⟩ | ⟨hknown, hrefs, left, hok, hremoved⟩
  · simp only [herror]
    exact hs
  simp only [hok]
  have hsettled :=
    hs.settled fun j => hcall.no_overlap j (agentOf agentType agentId) conn ⟨rfl, rfl⟩
  -- the section goes through, so the call is stray unless the connection holds the agent
  have hheld : s.store.connections.Holds (agentOf agentType agentId) conn := by
    by_contra hnot
    exact hcall.not_stray ⟨hknown, hrefs, hnot⟩
  have hside : s.store.table.ListedOn conn (sideIndex flag) := hcall.listed_on
  have hlisted := hremoved.listed_iff hs.unique hside
  refine hs.beginCall hidle hcall rfl (fun _ _ htouch => htouch) (hremoved.unique hs.unique)
    (hremoved.counted hs.counted ((hsettled.1 hheld).mem hside)) ?_ (fun _ => trivial) ?_
    ⟨hheld, fun hleft => ((hlisted _ conn).1 hleft).2 ⟨rfl, rfl⟩⟩
  · intro d other side hmem
    exact hs.listed_on d other side (hremoved.mem_of_mem hmem)
  · intro other d hnew
    exact ⟨Iff.rfl, (hlisted other d).trans (and_iff_left hnew)⟩

theorem Tracked.startRemoveConnection (hs : s.Tracked isLocal) (hidle : s.tasks i = .idle)
    {order : IterOrder (Agent × Unit)} (hcall : s.Undisturbed (.removeConnection conn flag order))
    (hflag : flag = isLocal conn) :
    (s.startCall i (.removeConnection conn flag order)).Tracked isLocal := by
  simp only [startCall]
  rcases hget : s.store.connections.get? conn with _ | set
  · exact hs
  obtain ⟨hkeys, hholds⟩ := ConnTable.holds_iff_mem_iter hget order
  refine hs.beginCall hidle hcall rfl (fun _ _ htouch => htouch) hs.unique hs.counted hs.listed_on
    ?_ (fun _ _ _ => ⟨Iff.rfl, Iff.rfl⟩) ⟨hkeys, fun agent => ?_⟩
  · rintro d rfl
    exact hflag
  · have hsettled := hs.settled fun j => hcall.no_overlap j agent conn rfl
    exact hsettled.symm.trans (hholds agent)

/-- The side of a connection can be chosen anew when no listing and no call in progress
    stands against it. -/
theorem Tracked.relabel (hs : s.Tracked isLocal)
    (hlisted : s.store.table.ListedOn conn (sideIndex flag))
    (hagrees : ∀ j, (s.tasks j).Agrees conn flag) :
    s.Tracked (Function.update isLocal conn flag) where
  unique := hs.unique
  counted := hs.counted
  listed_on := by
    intro d
    by_cases hd : d = conn
    · rw [hd, Function.update_self]
      exact hlisted
    · rw [Function.update_of_ne hd]
      exact hs.listed_on d
  flags := by
    intro j d
    by_cases hd : d = conn
    · rw [hd, Function.update_self]
      exact hagrees j
    · rw [Function.update_of_ne hd]
      exact hs.flags j d
  exclusive := hs.exclusive
  in_progress := hs.in_progress
  settled := hs.settled

/-- An undisturbed call may begin, on the side that its flag names. -/
theorem Tracked.startCall (hs : s.Tracked isLocal) (hidle : s.tasks i = .idle) {call : Call}
    (hcall : s.Undisturbed call) :
    (s.startCall i call).Tracked (Function.update isLocal call.conn call.isLocal) := by
  have hrelabeled := hs.relabel hcall.listed_on hcall.flags_agree
  have hflag : call.isLocal = Function.update isLocal call.conn call.isLocal call.conn := by
    rw [Function.update_self]
  cases call with
  | addSubscription agentType agentId conn flag => exact hrelabeled.startAdd hidle hcall hflag
  | removeSubscription agentType agentId conn flag => exact hrelabeled.startRemove hidle hcall
  | removeConnection conn flag order => exact hrelabeled.startRemoveConnection hidle hcall hflag

end StartCall

/-! ## The later sections -/

section Resume

variable {s : ConcurrentTable} {isLocal : Nat → Bool} {i conn : Nat} {agent : Agent}

theorem Tracked.resumeAddToTable (hs : s.Tracked isLocal) {flag : Bool}
    (hi : s.tasks i = .addToTable agent conn flag) :
    (s.resume i (.addToTable agent conn flag)).Tracked isLocal := by
  have hstate := hs.in_progress i
  have hflag := hs.flags i conn
  rw [hi] at hstate hflag
  obtain ⟨hnot, hunlisted⟩ := hstate
  refine hs.proceed rfl (by rw [hi]; rfl)
    (SubTable.unique_add hs.unique fun hmem => hunlisted ⟨_, hmem⟩)
    (SubTable.counted_add hs.counted) ?_ (fun _ => trivial) ?_
    ⟨hnot, SubTable.listed_add.2 (Or.inr ⟨rfl, rfl⟩)⟩
  · intro d other side hmem
    rcases SubTable.mem_conns_add.1 hmem with hold | ⟨-, hside, rfl⟩
    · exact hs.listed_on d other side hold
    · rw [hside, hflag rfl]
  · intro other d hnew
    exact ⟨Iff.rfl, SubTable.listed_add.trans (or_iff_left hnew)⟩

theorem Tracked.resumeAddToConnection (hs : s.Tracked isLocal)
    (hi : s.tasks i = .addToConnection agent conn) :
    (s.resume i (.addToConnection agent conn)).Tracked isLocal := by
  simp only [resume]
  by_cases hreaders : s.readers = 0
  · rw [if_pos hreaders]
    have hstate := hs.in_progress i
    rw [hi] at hstate
    have hholds := ConnTable.holds_add agent conn s.store.connections
    refine hs.finish rfl rfl ?_ ?_
    · intro other d hold
      rw [hi] at hold
      exact (hholds other d).trans (or_iff_left hold)
    · intro other d hold
      rw [hi] at hold
      obtain ⟨hkey, rfl⟩ := hold
      refine iff_of_true ((hholds other d).2 (Or.inr ⟨hkey, rfl⟩)) ?_
      exact (SubTable.listed_congr _ hkey d).2 hstate.2
  · rw [if_neg hreaders]
    exact hs

theorem Tracked.resumeRemoveFromConnection (hs : s.Tracked isLocal)
    (hi : s.tasks i = .removeFromConnection agent conn) :
    (s.resume i (.removeFromConnection agent conn)).Tracked isLocal := by
  simp only [resume]
  by_cases hreaders : s.readers = 0
  · rw [if_pos hreaders]
    have hstate := hs.in_progress i
    rw [hi] at hstate
    rcases ConnTable.remove_cases agent conn s.store.connections with
      ⟨hnot, -⟩ | ⟨-, left, hok, hholds⟩
    · exact absurd hstate.1 hnot
    simp only [hok]
    refine hs.finish rfl rfl ?_ ?_
    · intro other d hold
      rw [hi] at hold
      exact (hholds other d).trans (and_iff_left hold)
    · intro other d hold
      rw [hi] at hold
      obtain ⟨hkey, rfl⟩ := hold
      refine iff_of_false (fun hheld => ((hholds other d).1 hheld).2 ⟨hkey, rfl⟩) ?_
      exact (SubTable.listed_congr _ hkey d).not.2 hstate.2
  · rw [if_neg hreaders]
    exact hs

/-- The loop of `remove_connection` cannot stop early: the agents it has not visited
    are listed and counted. -/
theorem Tracked.resumeRemoveAgents (hs : s.Tracked isLocal) {flag : Bool} {agents : List Agent}
    (hi : s.tasks i = .removeAgents conn flag agents) :
    (s.resume i (.removeAgents conn flag agents)).Tracked isLocal := by
  have hstate := hs.in_progress i
  have hflag := hs.flags i conn
  rw [hi] at hstate hflag
  obtain ⟨hkeys, hlisted⟩ := hstate
  cases agents with
  | nil =>
      refine hs.proceed rfl (by rw [hi]; rfl) hs.unique hs.counted hs.listed_on (fun _ => trivial)
        (fun _ _ _ => ⟨Iff.rfl, Iff.rfl⟩) ?_
      intro agent hmem
      obtain ⟨a, ha, -⟩ := (hlisted agent).1 hmem
      cases ha
  | cons agent rest =>
      rw [List.map_cons, List.nodup_cons] at hkeys
      have hside : s.store.table.ListedOn conn (sideIndex flag) := by
        rw [hflag rfl]
        exact hs.listed_on conn
      have hmem := ((hlisted agent).2 ⟨agent, List.mem_cons_self, rfl⟩).mem hside
      obtain ⟨left, hok, hremoved⟩ := SubTable.remove_ok hs.counted hmem
      have hleft := hremoved.listed_iff hs.unique hside
      have hrest : ∀ other, left.Listed other conn ↔ ∃ a ∈ rest, key other = key a := by
        intro other
        rw [hleft, hlisted]
        simp only [List.mem_cons, exists_eq_or_imp, and_true]
        constructor
        · rintro ⟨hkey | hrest, hnot⟩
          · exact absurd hkey hnot
          · exact hrest
        · rintro ⟨a, ha, hkey⟩
          refine ⟨Or.inr ⟨a, ha, hkey⟩, fun hsame => hkeys.1 ?_⟩
          rw [← hsame, hkey]
          exact List.mem_map_of_mem ha
      simp only [resume, hok]
      refine hs.proceed rfl (by rw [hi]; rfl) (hremoved.unique hs.unique)
        (hremoved.counted hs.counted hmem) ?_ ?_ ?_ ⟨hkeys.2, hrest⟩
      · intro d other side hmem
        exact hs.listed_on d other side (hremoved.mem_of_mem hmem)
      · rintro d rfl
        exact hflag rfl
      · intro other d hnew
        refine ⟨Iff.rfl, (hleft other d).trans (and_iff_left ?_)⟩
        rintro ⟨-, hconn⟩
        exact hnew hconn

theorem Tracked.resumeForgetConnection (hs : s.Tracked isLocal)
    (hi : s.tasks i = .forgetConnection conn) :
    (s.resume i (.forgetConnection conn)).Tracked isLocal := by
  simp only [resume]
  by_cases hreaders : s.readers = 0
  · rw [if_pos hreaders]
    have hstate := hs.in_progress i
    rw [hi] at hstate
    have hholds := ConnTable.holds_remove s.store.connections conn
    refine hs.finish rfl rfl ?_ ?_
    · intro other d hold
      rw [hi] at hold
      exact (hholds other d).trans (and_iff_left hold)
    · intro other d hold
      rw [hi] at hold
      obtain rfl : d = conn := hold
      exact iff_of_false (fun hheld => ((hholds other d).1 hheld).2 rfl) (hstate other)
  · rw [if_neg hreaders]
    exact hs

theorem Tracked.resume (hs : s.Tracked isLocal) (i : Nat) :
    (s.resume i (s.tasks i)).Tracked isLocal := by
  rcases hi : s.tasks i with _ | ⟨agent, conn, flag⟩ | ⟨agent, conn⟩ | ⟨agent, conn⟩ |
    ⟨conn, flag, agents⟩ | conn
  · exact hs
  · exact hs.resumeAddToTable hi
  · exact hs.resumeAddToConnection hi
  · exact hs.resumeRemoveFromConnection hi
  · exact hs.resumeRemoveAgents hi
  · exact hs.resumeForgetConnection hi

end Resume

/-! ## Runs -/

/-- One step keeps the tables tracked. -/
theorem exists_tracked_step {s : ConcurrentTable} (hs : ∃ isLocal, s.Tracked isLocal)
    {event : TaskEvent} (hevent : s.Admits event) : ∃ isLocal, (s.step event).Tracked isLocal := by
  obtain ⟨isLocal, hs⟩ := hs
  cases event with
  | start i call =>
      simp only [step]
      by_cases hidle : s.tasks i = .idle
      · rw [if_pos hidle]
        exact ⟨_, hs.startCall hidle hevent⟩
      · rw [if_neg hidle]
        exact ⟨isLocal, hs⟩
  | advance i => exact ⟨isLocal, hs.resume i⟩

/-- With no call in progress, tracked tables are in agreement. -/
theorem Tracked.inAgreement {s : ConcurrentTable} {isLocal : Nat → Bool}
    (hs : s.Tracked isLocal) (hquiescent : s.Quiescent) : s.store.InAgreement where
  held_iff_listed := by
    intro agent conn
    apply hs.settled
    intro i htouch
    rw [hquiescent i] at htouch
    exact htouch
  listed_once := by
    intro agent conn
    have hlocal := List.nodup_iff_count_le_one.1 (hs.unique agent 0) conn
    have hremote := List.nodup_iff_count_le_one.1 (hs.unique agent 1) conn
    -- both lists cannot have the connection, since it is listed on one side only
    rcases Nat.eq_zero_or_pos ((s.store.table.conns agent 0).count conn) with hzero | hpos
    · omega
    have hside := hs.listed_on conn agent 0 (List.count_pos_iff.1 hpos)
    have hnot : conn ∉ s.store.table.conns agent 1 := by
      intro hmem
      have hother := hs.listed_on conn agent 1 hmem
      rw [← hside] at hother
      cases hother
    rw [List.count_eq_zero_of_not_mem hnot]
    exact hlocal
  refs_eq_ids := by
    intro agentType side conn
    rw [hs.counted, SubTable.listings_eq_idsListing hs.unique]

/-- In every run, of any number of tasks, in which each call begins undisturbed, the two
    tables are in agreement whenever no call is in progress. -/
theorem quiescent_in_agreement (events : List TaskEvent)
    (hsteps : Runs.Along step Admits init events)
    (hquiescent : (Runs.run step init events).Quiescent) :
    (Runs.run step init events).store.InAgreement := by
  have htracked := Runs.run_invariant
    (I := fun s : ConcurrentTable => ∃ isLocal, s.Tracked isLocal)
    (fun s event hs hevent => exists_tracked_step hs hevent) events init hsteps
    ⟨fun _ => true, tracked_init _⟩
  obtain ⟨isLocal, htracked⟩ := htracked
  exact htracked.inAgreement hquiescent

/-- Two tasks subscribe one connection to one agent.  Both make the duplicate test
    before either of them writes. -/
def doubleSubscription : List TaskEvent :=
  [.start 0 (.addSubscription sampleType (some 1) 0 true),
    .start 1 (.addSubscription sampleType (some 1) 0 true),
    .advance 0, .advance 1, .advance 0, .advance 1]

/-- The connection is listed twice and counted twice, for one agent. -/
theorem double_subscription_disagrees :
    let s := Runs.run step init doubleSubscription
    s.Quiescent ∧ s.store.table.conns ⟨sampleType, 1⟩ 0 = [0, 0] ∧
      s.store.table.refs sampleType 0 0 = 2 ∧ s.store.table.idsListing sampleType 0 0 = 1 ∧
      ¬ s.store.InAgreement := by
  refine ⟨?_, rfl, rfl, rfl, fun hagree => ?_⟩
  · rintro (_ | _ | i)
    · rfl
    · rfl
    · rfl
  · exact absurd (hagree.listed_once ⟨sampleType, 1⟩ 0) (by decide)

/-- Two tasks subscribe one connection to two agents, section by section in turn. -/
theorem quiescent_in_agreement_sample :
    (Runs.run step init
      [.start 0 (.addSubscription sampleType (some 1) 0 true),
        .start 1 (.addSubscription sampleType (some 2) 0 true),
        .advance 0, .advance 1, .advance 0, .advance 1]).store.InAgreement := by
  apply quiescent_in_agreement
  · refine ⟨⟨?_, ?_, ?_, id⟩, ⟨?_, ?_, ?_, id⟩, trivial, trivial, trivial, trivial, trivial⟩
    · intro agent side hmem
      cases hmem
    · intro i
      trivial
    · intro i agent conn _ htouch
      exact htouch
    · intro agent side hmem
      cases hmem
    · rintro (_ | i)
      · exact fun _ => rfl
      · trivial
    · rintro (_ | i) agent conn ⟨hkey, -⟩ htouch
      · exact absurd (hkey.symm.trans htouch.1) (by decide)
      · exact htouch
  · rintro (_ | _ | i)
    · rfl
    · rfl
    · rfl

end ConcurrentTable

end Slim
