import Slim.Forwarder
import Slim.Messages

/-!
# Processing of subscriptions: `message_processing.rs`

`process_subscription` looks the connection of a message up and updates the
subscription table in a later step; when the message asks for it, the message is then
forwarded to another node and the forwarded subscription is recorded.  Every
connection has a task of its own, and a message may name another connection in
`recv_from`, so a connection can be dropped between the two steps of a task that has
just found it.
-/

namespace Slim

open SubscriptionTableImpl (agentOf sampleType)

/-! ## Errors, connections and messages -/

def SubscriptionTableError.display : SubscriptionTableError → String
  | noMatch name => "no matching found for " ++ name
  | subscriptionNotFound => "subscription not fund"
  | agentIdNotFound => "agent id not fund"
  | connectionIdNotFound => "connection id not fund"

/-- The errors of `DataPathError` that the modelled functions return. -/
inductive DataPathError where
  | subscriptionError (text : String)
  | unsubscriptionError (text : String)
  | publicationError (text : String)
  | messageSendError (text : String)
deriving DecidableEq, Repr

def DataPathError.display : DataPathError → String
  | subscriptionError text => "error handling subscription: " ++ text
  | unsubscriptionError text => "error handling unsubscription: " ++ text
  | publicationError text => "error handling publish: " ++ text
  | messageSendError text => "error sending message: " ++ text

inductive Channel where
  | server
  | client
  | unknown
deriving DecidableEq, Repr

inductive ConnectionType where
  | Local
  | Remote
  | Unknown
deriving DecidableEq, Repr

structure Connection where
  channel : Channel
  connectionType : ConnectionType
deriving DecidableEq, Repr

def Connection.isLocalConnection (connection : Connection) : Bool :=
  match connection.connectionType with
  | .Local => true
  | _ => false

/-- What `process_subscription` reads of a message. -/
structure SubscriptionMessage where
  header : SlimHeader
  source : Agent
  agentType : AgentType
  agentId : Option UInt64
deriving DecidableEq, Repr

/-- `send_msg`; `sendError` is what the channel of the connection reports. -/
def Forwarder.sendMsg (f : Forwarder Connection) (outConn : Nat) (sendError : Option String) :
    Except DataPathError Unit :=
  match f.getConnection outConn with
  | none => .error (.messageSendError ("connection " ++ toString outConn ++ " not found"))
  | some connection =>
      match connection.channel with
      | .unknown => .error (.messageSendError "connection not found")
      | _ =>
          match sendError with
          | some text => .error (.messageSendError text)
          | none => .ok ()

/-! ## `process_subscription`, step by step -/

/-- Where a task stands in `process_subscription`. -/
inductive ProcessingState where
  | idle
  | update (msg : SubscriptionMessage) (conn : Nat) (isLocal add : Bool) (forward : Option Nat)
  | send (msg : SubscriptionMessage) (outConn : Nat) (add : Bool)
  | record (msg : SubscriptionMessage) (outConn : Nat) (add : Bool)
  | returned (result : Except DataPathError Unit)

namespace ProcessingState

/-- No call is in progress. -/
def isFinished : ProcessingState → Bool
  | idle => true
  | returned _ => true
  | _ => false

/-- The subscription that the task is about to add: the connection and its flag. -/
def pendingAdd : ProcessingState → Option (Nat × Bool)
  | update _ conn isLocal true _ => some (conn, isLocal)
  | _ => none

end ProcessingState

structure MessageProcessor where
  forwarder : Forwarder Connection
  tasks : Nat → ProcessingState

inductive ProcessorEvent where
  | receive (task inConnection : Nat) (msg : SubscriptionMessage) (add : Bool)
  | advance (task : Nat) (sendError : Option String)
  | connectionEstablished (conn : Connection) (existingIndex : Option Nat)
  | connectionDrop (connIndex : Nat) (isLocal : Bool) (order : IterOrder (Agent × Unit))

namespace MessageProcessor

def new : MessageProcessor := ⟨Forwarder.new, fun _ => .idle⟩

def moveTo (s : MessageProcessor) (i : Nat) (state : ProcessingState) : MessageProcessor :=
  { s with tasks := Function.update s.tasks i state }

/-- The first part of `process_subscription`, up to `get_connection`. -/
def findConnection (s : MessageProcessor) (i : Nat) (msg : SubscriptionMessage) (add : Bool) :
    MessageProcessor :=
  match msg.header.getInOutConnections with
  | none => s -- the panic, which `handle_new_message` rules out
  | some (conn, forward) =>
      match s.forwarder.getConnection conn with
      | none => s.moveTo i (.returned (.error (.subscriptionError "connection not found")))
      | some connection =>
          s.moveTo i (.update msg conn connection.isLocalConnection add forward)

/-- `handle_new_message` for a subscription: the incoming connection is set first. -/
def handleNewMessage (s : MessageProcessor) (i connIndex : Nat) (msg : SubscriptionMessage)
    (add : Bool) : MessageProcessor :=
  s.findConnection i { msg with header := msg.header.setIncomingConn (some connIndex) } add

/-- The next step of a task. -/
def resume (s : MessageProcessor) (i : Nat) (sendError : Option String) :
    ProcessingState → MessageProcessor
  | .idle => s
  | .returned _ => s
  | .update msg conn isLocal add forward =>
      match s.forwarder.onSubscriptionMsg msg.agentType msg.agentId conn isLocal add with
      | (.error e, f) =>
          { s with forwarder := f }.moveTo i (.returned (.error (.subscriptionError e.display)))
      | (.ok (), f) =>
          match forward with
          | none => { s with forwarder := f }.moveTo i (.returned (.ok ()))
          | some outConn => { s with forwarder := f }.moveTo i (.send msg outConn add)
  | .send msg outConn add =>
      match s.forwarder.sendMsg outConn sendError with
      | .error e => s.moveTo i (.returned (.error (.unsubscriptionError e.display)))
      | .ok () => s.moveTo i (.record msg outConn add)
  | .record msg outConn add =>
      let f := s.forwarder.onForwardedSubscription msg.source msg.agentType msg.agentId outConn add
      { s with forwarder := f }.moveTo i (.returned (.ok ()))

def step (s : MessageProcessor) : ProcessorEvent → MessageProcessor
  | .receive i connIndex msg add =>
      if (s.tasks i).isFinished then s.handleNewMessage i connIndex msg add else s
  | .advance i sendError => s.resume i sendError (s.tasks i)
  | .connectionEstablished conn existingIndex =>
      { s with forwarder := s.forwarder.exec (.connectionEstablished conn existingIndex) }
  | .connectionDrop connIndex isLocal order =>
      { s with forwarder := s.forwarder.onConnectionDrop connIndex isLocal order }

/-- All calls have returned. -/
def Finished (s : MessageProcessor) : Prop := ∀ i, (s.tasks i).isFinished = true

end MessageProcessor

/-! ## No route without a connection -/

/-- The index belongs to a connection of this locality. -/
def Forwarder.ConnectedAs (f : Forwarder Connection) (conn : Nat) (isLocal : Bool) : Prop :=
  ∃ connection, f.getConnection conn = some connection ∧ connection.isLocalConnection = isLocal

namespace MessageProcessor

/-- The conditions on a step.  An unsubscription is not stray; a connection that is
    replaced at its index keeps its locality; a connection is dropped with its own flag,
    and not while a task that has found it is about to add a subscription for it. -/
def Admits (s : MessageProcessor) : ProcessorEvent → Prop
  | .receive _ _ _ _ => True
  | .advance i _ => ∀ msg conn isLocal forward, s.tasks i = .update msg conn isLocal false forward →
      ¬ s.forwarder.subscriptionTable.Stray (agentOf msg.agentType msg.agentId) conn isLocal
  | .connectionEstablished connection existingIndex => ∀ index isLocal,
      existingIndex = some index → s.forwarder.ConnectedAs index isLocal →
      connection.isLocalConnection = isLocal
  | .connectionDrop conn isLocal _ =>
      (∀ flag, s.forwarder.ConnectedAs conn flag → isLocal = flag) ∧
        ∀ i flag, (s.tasks i).pendingAdd ≠ some (conn, flag)

/-- Every listed connection, and every connection that a task is about to list, is in
    the connection table and on the right side. -/
structure Attached (s : MessageProcessor) : Prop where
  consistent : s.forwarder.subscriptionTable.Consistent
  listed_connected : ∀ {agent side conn},
    conn ∈ s.forwarder.subscriptionTable.table.conns agent side →
      ∃ isLocal, side = sideIndex isLocal ∧ s.forwarder.ConnectedAs conn isLocal
  pending_connected : ∀ {i conn isLocal}, (s.tasks i).pendingAdd = some (conn, isLocal) →
    s.forwarder.ConnectedAs conn isLocal

theorem attached_new : new.Attached where
  consistent := SubscriptionTableImpl.consistent_default
  listed_connected := fun hmem => nomatch hmem
  pending_connected := fun hpending => nomatch hpending

/-! ### The steps of a task -/

section Tasks

variable {s : MessageProcessor} {i : Nat}

/-- A connection of the table is listed on its own side only. -/
theorem Attached.listedOn (hs : s.Attached) {conn : Nat} {isLocal : Bool}
    (hconnected : s.forwarder.ConnectedAs conn isLocal) :
    s.forwarder.subscriptionTable.table.ListedOn conn (sideIndex isLocal) := by
  intro agent side hmem
  obtain ⟨flag, rfl, hflag⟩ := hs.listed_connected hmem
  obtain ⟨connection, hget, rfl⟩ := hconnected
  obtain ⟨found, hfound, rfl⟩ := hflag
  rw [hget, Option.some.injEq] at hfound
  rw [hfound]

/-- A task moves on.  What it newly lists, or is about to list, is connected. -/
theorem Attached.moveTo (hs : s.Attached) {state : ProcessingState} {left : MessageProcessor}
    (htasks : left.tasks = Function.update s.tasks i state)
    (htable : left.forwarder.connectionTable = s.forwarder.connectionTable)
    (hconsistent : left.forwarder.subscriptionTable.Consistent)
    (hlisted : ∀ {agent side conn},
      conn ∈ left.forwarder.subscriptionTable.table.conns agent side →
        conn ∈ s.forwarder.subscriptionTable.table.conns agent side ∨
          ∃ isLocal, side = sideIndex isLocal ∧ s.forwarder.ConnectedAs conn isLocal)
    (hpending : ∀ conn isLocal, state.pendingAdd = some (conn, isLocal) →
      s.forwarder.ConnectedAs conn isLocal) : left.Attached := by
  have hsame : ∀ conn isLocal, left.forwarder.ConnectedAs conn isLocal ↔
      s.forwarder.ConnectedAs conn isLocal := by
    intro conn isLocal
    simp only [Forwarder.ConnectedAs, Forwarder.getConnection, htable]
  refine ⟨hconsistent, ?_, ?_⟩
  · intro agent side conn hmem
    simp only [hsame]
    rcases hlisted hmem with hold | hnew
    · exact hs.listed_connected hold
    · exact hnew
  · intro j conn isLocal hadd
    rw [hsame]
    by_cases hj : j = i
    · rw [htasks, hj, Function.update_self] at hadd
      exact hpending conn isLocal hadd
    · rw [htasks, Function.update_of_ne hj] at hadd
      exact hs.pending_connected hadd

/-- A task that only changes its own state. -/
theorem Attached.moveTo_same (hs : s.Attached) {state : ProcessingState}
    (hpending : ∀ conn isLocal, state.pendingAdd = some (conn, isLocal) →
      s.forwarder.ConnectedAs conn isLocal) : (s.moveTo i state).Attached :=
  hs.moveTo rfl rfl hs.consistent Or.inl hpending

theorem Attached.handleNewMessage (hs : s.Attached) (connIndex : Nat)
    (msg : SubscriptionMessage) (add : Bool) :
    (s.handleNewMessage i connIndex msg add).Attached := by
  unfold MessageProcessor.handleNewMessage findConnection
  rcases SlimHeader.getInOutConnections _ with _ | ⟨conn, forward⟩
  · exact hs
  rcases hget : s.forwarder.getConnection conn with _ | connection
  · simp only [hget]
    exact hs.moveTo_same fun _ _ hpending => nomatch hpending
  · simp only [hget]
    apply hs.moveTo_same
    intro d isLocal hpending
    cases add with
    | false => cases hpending
    | true =>
        cases hpending
        exact ⟨connection, hget, rfl⟩

/-- The update of the subscription table by a task that has found its connection. -/
theorem Attached.resumeUpdate (hs : s.Attached) {msg : SubscriptionMessage} {conn : Nat}
    {isLocal add : Bool} {forward : Option Nat} {sendError : Option String}
    (hi : s.tasks i = .update msg conn isLocal add forward)
    (hadmits : s.Admits (.advance i sendError)) :
    (s.resume i sendError (.update msg conn isLocal add forward)).Attached := by
  have hupdate : (s.forwarder.onSubscriptionMsg msg.agentType msg.agentId conn isLocal
        add).2.subscriptionTable.Consistent ∧
      ∀ {agent side d}, d ∈ (s.forwarder.onSubscriptionMsg msg.agentType msg.agentId conn
          isLocal add).2.subscriptionTable.table.conns agent side →
        d ∈ s.forwarder.subscriptionTable.table.conns agent side ∨
          ∃ flag, side = sideIndex flag ∧ s.forwarder.ConnectedAs d flag := by
    cases add with
    | true =>
        have hconnected : s.forwarder.ConnectedAs conn isLocal := by
          apply hs.pending_connected (i := i)
          rw [hi]
          rfl
        refine ⟨hs.consistent.addSubscription _ _ conn isLocal (hs.listedOn hconnected), ?_⟩
        intro agent side d hmem
        rcases SubscriptionTableImpl.mem_conns_addSubscription hmem with hold | ⟨hside, rfl⟩
        · exact Or.inl hold
        · exact Or.inr ⟨isLocal, hside, hconnected⟩
    | false =>
        refine ⟨hs.consistent.removeSubscription_of_not_stray _ _ conn isLocal
          (hadmits msg conn isLocal forward hi), ?_⟩
        intro agent side d hmem
        exact Or.inl (SubscriptionTableImpl.mem_of_mem_removeSubscription hmem)
  have hconnections : (s.forwarder.onSubscriptionMsg msg.agentType msg.agentId conn isLocal
      add).2.connectionTable = s.forwarder.connectionTable := rfl
  obtain ⟨hconsistent, hlisted⟩ := hupdate
  simp only [resume]
  rcases hresult : s.forwarder.onSubscriptionMsg msg.agentType msg.agentId conn isLocal add with
    ⟨e | ⟨⟩, f⟩
  · rw [hresult] at hconsistent hlisted hconnections
    exact hs.moveTo rfl hconnections hconsistent hlisted fun _ _ hpending => nomatch hpending
  · rw [hresult] at hconsistent hlisted hconnections
    cases forward with
    | none =>
        exact hs.moveTo rfl hconnections hconsistent hlisted fun _ _ hpending => nomatch hpending
    | some outConn =>
        exact hs.moveTo rfl hconnections hconsistent hlisted fun _ _ hpending => nomatch hpending

theorem Attached.resume (hs : s.Attached) (sendError : Option String)
    (hadmits : s.Admits (.advance i sendError)) :
    (s.resume i sendError (s.tasks i)).Attached := by
  rcases hi : s.tasks i with _ | ⟨msg, conn, isLocal, add, forward⟩ | ⟨msg, outConn, add⟩ |
    ⟨msg, outConn, add⟩ | result
  · exact hs
  · exact hs.resumeUpdate hi hadmits
  · simp only [MessageProcessor.resume]
    rcases s.forwarder.sendMsg outConn sendError with e | ⟨⟩
    · exact hs.moveTo_same fun _ _ hpending => nomatch hpending
    · exact hs.moveTo_same fun _ _ hpending => nomatch hpending
  · exact hs.moveTo rfl rfl hs.consistent Or.inl fun _ _ hpending => nomatch hpending
  · exact hs

end Tasks

/-! ### The steps of the connection table -/

section Connections

variable {s : MessageProcessor}

/-- A connection that comes up takes no index away from another one. -/
theorem connectedAs_established {f : Forwarder Connection} {connection : Connection}
    {existingIndex : Option Nat}
    (hsame : ∀ index isLocal, existingIndex = some index → f.ConnectedAs index isLocal →
      connection.isLocalConnection = isLocal) {conn : Nat} {isLocal : Bool}
    (hconnected : f.ConnectedAs conn isLocal) :
    (f.exec (.connectionEstablished connection existingIndex)).ConnectedAs conn isLocal := by
  obtain ⟨old, hget, rfl⟩ := hconnected
  cases existingIndex with
  | none =>
      refine ⟨old, ?_, rfl⟩
      have hne : conn ≠ (f.connectionTable.insert connection).2 := by
        rintro rfl
        rw [Forwarder.getConnection, Pool.get_insert_index] at hget
        cases hget
      exact (Pool.get_insert _ _ _).trans ((if_neg hne).trans hget)
  | some index =>
      simp only [Forwarder.exec, Forwarder.onConnectionEstablished, Pool.insertAt]
      by_cases hbeyond : f.connectionTable.capacity < index
      · rw [if_pos hbeyond]
        exact ⟨old, hget, rfl⟩
      rw [if_neg hbeyond]
      by_cases hinside : index < f.connectionTable.capacity
      · rw [dif_pos hinside]
        by_cases hconn : conn = index
        · refine ⟨connection, ?_, hsame index _ rfl ⟨old, ?_, rfl⟩⟩
          · exact (Pool.get_place _ _ _ hinside _).trans (if_pos hconn)
          · rw [← hconn]
            exact hget
        · exact ⟨old, (Pool.get_place _ _ _ hinside _).trans ((if_neg hconn).trans hget), rfl⟩
      · rw [dif_neg hinside]
        exact ⟨old, hget, rfl⟩

theorem Attached.established (hs : s.Attached) {connection : Connection}
    {existingIndex : Option Nat}
    (hadmits : s.Admits (.connectionEstablished connection existingIndex)) :
    (s.step (.connectionEstablished connection existingIndex)).Attached := by
  have htable := Forwarder.subscriptionTable_exec s.forwarder
    (.connectionEstablished connection existingIndex)
  refine ⟨?_, ?_, ?_⟩
  · simp only [step, htable]
    exact hs.consistent
  · intro agent side conn hmem
    simp only [step, htable] at hmem
    obtain ⟨isLocal, hside, hconnected⟩ := hs.listed_connected hmem
    exact ⟨isLocal, hside, connectedAs_established hadmits hconnected⟩
  · intro i conn isLocal hpending
    exact connectedAs_established hadmits (hs.pending_connected hpending)

theorem Attached.drop (hs : s.Attached) {conn : Nat} {isLocal : Bool}
    {order : IterOrder (Agent × Unit)}
    (hadmits : s.Admits (.connectionDrop conn isLocal order)) :
    (s.step (.connectionDrop conn isLocal order)).Attached := by
  obtain ⟨hflag, hpendings⟩ := hadmits
  have hside : s.forwarder.subscriptionTable.table.ListedOn conn (sideIndex isLocal) := by
    intro agent side hmem
    obtain ⟨flag, rfl, hconnected⟩ := hs.listed_connected hmem
    rw [hflag flag hconnected]
  have hkeeps : ∀ {d flag}, d ≠ conn → s.forwarder.ConnectedAs d flag →
      (s.step (.connectionDrop conn isLocal order)).forwarder.ConnectedAs d flag := by
    rintro d flag hne ⟨connection, hget, hlocal⟩
    refine ⟨connection, ?_, hlocal⟩
    exact (Pool.get_remove _ _ _).trans ((if_neg hne).trans hget)
  refine ⟨hs.consistent.removeConnection conn isLocal order hside, ?_, ?_⟩
  · intro agent side d hmem
    obtain ⟨-, hlisted, -⟩ := hs.consistent.removeConnection_eq conn isLocal order hside
    obtain ⟨hold, hne⟩ := (hlisted agent side d).1 hmem
    obtain ⟨flag, hflag, hconnected⟩ := hs.listed_connected hold
    exact ⟨flag, hflag, hkeeps hne hconnected⟩
  · intro i d flag hpending
    refine hkeeps ?_ (hs.pending_connected hpending)
    rintro rfl
    exact hpendings i flag hpending

end Connections

/-! ### Runs -/

theorem Attached.step {s : MessageProcessor} (hs : s.Attached) {event : ProcessorEvent}
    (hadmits : s.Admits event) : (s.step event).Attached := by
  cases event with
  | receive i connIndex msg add =>
      simp only [MessageProcessor.step]
      split
      · exact hs.handleNewMessage connIndex msg add
      · exact hs
  | advance i sendError => exact hs.resume sendError hadmits
  | connectionEstablished connection existingIndex => exact hs.established hadmits
  | connectionDrop conn isLocal order => exact hs.drop hadmits

/-- In every run whose steps meet the conditions, and in every state of it, nothing is
    routed to an index without a connection. -/
theorem no_route_without_connection (events : List ProcessorEvent)
    (hsteps : Runs.Along step Admits new events) (conn : Nat)
    (hgone : (Runs.run step new events).forwarder.getConnection conn = none) :
    (Runs.run step new events).forwarder.subscriptionTable.Unrouted conn := by
  have hs := Runs.run_invariant (I := Attached) (fun _ _ hs hadmits => hs.step hadmits) events
    new hsteps attached_new
  apply SubscriptionTableImpl.unrouted_of_not_listed
  rintro agent ⟨side, hmem⟩
  obtain ⟨isLocal, -, connection, hget, -⟩ := hs.listed_connected hmem
  rw [hgone] at hget
  cases hget

/-- A subscription for connection 1 that connection 0 sends. -/
def subscribeForOther : SubscriptionMessage where
  header := ⟨some 1, none, none⟩
  source := ⟨sampleType, 7⟩
  agentType := sampleType
  agentId := some 1

/-- A local application and a remote node. -/
def twoConnections : List ProcessorEvent :=
  [.connectionEstablished ⟨.server, .Local⟩ none, .connectionEstablished ⟨.client, .Remote⟩ none]

/-- Connection 1 is dropped after the task of connection 0 has found it and before the
    task adds the subscription: all calls have returned, the connection is gone, and
    messages are still sent to it. -/
theorem route_outlives_connection :
    let s := Runs.run step new (twoConnections ++ [.receive 0 0 subscribeForOther true,
      .connectionDrop 1 false IterOrder.stored, .advance 0 none])
    s.Finished ∧ s.forwarder.getConnection 1 = none ∧
      s.forwarder.subscriptionTable.matchAll sampleType (some 1) 0 IterOrder.stored = .ok [1] ∧
      ¬ s.forwarder.subscriptionTable.Unrouted 1 := by
  refine ⟨?_, rfl, rfl, fun hunrouted => ?_⟩
  · rintro (_ | i)
    · rfl
    · rfl
  · exact hunrouted.no_matchAll sampleType (some 1) 0 IterOrder.stored [1] rfl List.mem_cons_self

/-- The same calls with the drop at the end. -/
theorem no_route_without_connection_sample :
    (Runs.run step new
      [.connectionEstablished ⟨.server, .Local⟩ none,
        .connectionEstablished ⟨.client, .Remote⟩ none,
        .receive 0 0 subscribeForOther true, .advance 0 none,
        .connectionDrop 1 false IterOrder.stored]).forwarder.subscriptionTable.Unrouted 1 := by
  apply no_route_without_connection
  · refine ⟨?_, ?_, trivial, ?_, ⟨?_, ?_⟩, trivial⟩
    · rintro index isLocal ⟨⟩
    · rintro index isLocal ⟨⟩
    · rintro msg conn isLocal forward ⟨⟩
    · rintro flag ⟨connection, ⟨⟩, rfl⟩
      rfl
    · rintro (_ | i) flag hpending
      · cases hpending
      · cases hpending
  · rfl

end MessageProcessor

end Slim
