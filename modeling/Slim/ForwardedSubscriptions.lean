import Slim.Service

/-!
# Two nodes: forwarded subscriptions

Node A forwards subscriptions and unsubscriptions of its applications over a connection
to node B, and keeps a record of what it has forwarded, by source and name.  B handles
the messages in the order in which they were sent, and lists the connection under the
name only.  When the connection is lost, B drops what it has for it; A connects again
and sends a subscription for every record.

The messages that are on their way are part of the state, so that A may be ahead of B.
-/

namespace Slim

open HashKey Machine
open SubscriptionTableImpl (agentOf)

/-! ## The nodes and the connection between them -/

structure TwoNodes where
  nodeA : Forwarder Connection
  nodeB : Forwarder Connection
  toB : Nat -- the index of the connection in A
  fromA : Nat -- the index of the connection in B
  inFlight : List ProtoMessage

/-- `processA` is a message that A receives from one of its connections; `deliver` is the
    next message of the connection, handled by B. -/
inductive TwoNodesEvent where
  | processA (connIndex : Nat) (msg : ProtoMessage) (sendError : Option String)
  | deliver
  | reconnect (dropOrder : IterOrder (Agent × Unit)) (order : IterOrder (SubscriptionInfo × Unit))

namespace TwoNodes

section Nodes

variable [NameHash]

/-- The loop of `reconnect` over the recorded subscriptions.  It stops where a message
    cannot be built or sent without a panic, and goes on after a failure to send. -/
def replay (f : Forwarder Connection) (conn : Nat) : List SubscriptionInfo → List ProtoMessage
  | [] => []
  | info :: rest =>
      let sending := do
        let msg ← ProtoMessage.newSubscribe info.source info.name.agentType
          info.name.agentIdOption none
        f.transmit msg conn none
      match sending with
      | .error _ => []
      | .ok (.error _) => replay f conn rest -- "error restoring subscription on remote node"
      | .ok (.ok sent) => sent :: replay f conn rest

def processA (s : TwoNodes) (connIndex : Nat) (msg : ProtoMessage) (sendError : Option String) :
    TwoNodes :=
  match s.nodeA.handleNewMessage connIndex msg sendError with
  | .ok (.subscription processed) =>
      match processed.sent with
      | some (outConn, sent) =>
          if outConn = s.toB then
            { s with nodeA := processed.forwarder, inFlight := s.inFlight ++ [sent] }
          else { s with nodeA := processed.forwarder }
      | none => { s with nodeA := processed.forwarder }
  | _ => s

def deliver (s : TwoNodes) : TwoNodes :=
  match s.inFlight with
  | [] => s
  | msg :: rest =>
      match s.nodeB.handleNewMessage s.fromA msg none with
      | .ok (.subscription processed) => { s with nodeB := processed.forwarder, inFlight := rest }
      | _ => { s with inFlight := rest }

/-- The connection is lost with what was on its way; B drops its state for it and accepts
    a new connection, and A puts the new connection in the place of the old one. -/
def reconnect (s : TwoNodes) (dropOrder : IterOrder (Agent × Unit))
    (order : IterOrder (SubscriptionInfo × Unit)) : TwoNodes :=
  let dropped := s.nodeB.onConnectionDrop s.fromA false dropOrder
  let (pool, index) := dropped.connectionTable.insert ⟨.server, .Remote⟩
  let nodeA := s.nodeA.exec (.connectionEstablished ⟨.client, .Remote⟩ (some s.toB))
  let recorded := s.nodeA.remoteSubscriptionTable.getSubscriptionsOnConnection s.toB
  { s with
    nodeA := nodeA
    nodeB := { dropped with connectionTable := pool }
    fromA := index
    inFlight := replay nodeA s.toB ((recorded.iter order).map Prod.fst) }

def step (s : TwoNodes) : TwoNodesEvent → TwoNodes
  | .processA connIndex msg sendError => s.processA connIndex msg sendError
  | .deliver => s.deliver
  | .reconnect dropOrder order => s.reconnect dropOrder order

/-! ## Agreement -/

variable {s : TwoNodes} {msg : ProtoMessage} {content : SubscriptionMessage} {add : Bool}

/-- A has a record that the source subscribed to the name over the connection. -/
def Recorded (s : TwoNodes) (source name : Agent) : Prop :=
  (s.nodeA.remoteSubscriptionTable.getSubscriptionsOnConnection s.toB).contains
    ⟨source, name⟩ = true

/-- The message is built by one of the constructors for subscriptions. -/
def Built (msg : ProtoMessage) : Prop :=
  (∃ source agentType agentId flags,
      ProtoMessage.newSubscribe source agentType agentId flags = .ok msg) ∨
    ∃ source agentType agentId flags,
      msg = ProtoMessage.newUnsubscribe source agentType agentId flags

/-- The conditions on a step.  When A receives an unsubscription that goes over the
    connection, no other source has a record of the name; and an unsubscription is not
    stray when B handles it. -/
def Admits (s : TwoNodes) : TwoNodesEvent → Prop
  | .processA _ msg _ => ∀ content source, msg.Reads false content →
      content.header.recvFrom = none → content.header.forwardTo = some s.toB →
      s.Recorded source (agentOf content.agentType content.agentId) →
      key source = key content.source
  | .deliver => ∀ msg rest content, s.inFlight = msg :: rest → msg.Reads false content →
      ¬ s.nodeB.subscriptionTable.Stray (agentOf content.agentType content.agentId) s.fromA false
  | .reconnect _ _ => True

/-- The connection is up and nothing was forwarded on it yet; what B lists is connected. -/
structure Fresh (s : TwoNodes) : Prop where
  connectedA : ∃ connection, s.nodeA.getConnection s.toB = some connection
  connectedB : s.nodeB.ConnectedAs s.fromA false
  consistent : s.nodeB.subscriptionTable.Consistent
  listed_connected : ∀ agent conn, s.nodeB.subscriptionTable.table.Listed agent conn →
    ∃ connection, s.nodeB.getConnection conn = some connection
  not_listed : ∀ agent, ¬ s.nodeB.subscriptionTable.table.Listed agent s.fromA
  no_record : s.nodeA.remoteSubscriptionTable.get? s.toB = none
  none_inFlight : s.inFlight = []

/-! ## What B is going to list -/

/-- What is listed after a message is handled. -/
def announce (listed : Agent → Prop) (msg : ProtoMessage) (name : Agent) : Prop :=
  match msg.subscriptionKind, msg.getName with
  | some true, .ok (agentType, agentId) =>
      listed name ∨ key name = key (agentOf agentType agentId)
  | some false, .ok (agentType, agentId) =>
      listed name ∧ key name ≠ key (agentOf agentType agentId)
  | _, _ => listed name

/-- What B lists for the connection once it has handled what is on its way. -/
def Expected (s : TwoNodes) : Agent → Prop :=
  Runs.run announce (fun name => s.nodeB.subscriptionTable.table.Listed name s.fromA) s.inFlight

theorem announce_subscribe (hreads : msg.Reads true content) (listed : Agent → Prop)
    (name : Agent) :
    announce listed msg name ↔
      listed name ∨ key name = key (agentOf content.agentType content.agentId) := by
  simp only [announce, hreads.kind, hreads.name]

theorem announce_unsubscribe (hreads : msg.Reads false content) (listed : Agent → Prop)
    (name : Agent) :
    announce listed msg name ↔
      listed name ∧ key name ≠ key (agentOf content.agentType content.agentId) := by
  simp only [announce, hreads.kind, hreads.name]

/-- A can send a subscription for the record again: the source has an id and the name
    has its strings. -/
def Replayable (info : SubscriptionInfo) : Prop :=
  info.source.agentId ≠ DEFAULT_AGENT_ID ∧
    ∃ organization nameSpace agentType,
      info.name.agentType = AgentType.fromStrings organization nameSpace agentType

/-- A message on its way: B handles it for the connection it comes from. -/
def Travels (msg : ProtoMessage) : Prop :=
  ∃ add content, msg.Reads add content ∧ content.header.recvFrom = none ∧
    content.header.forwardTo = none

/-- A is ahead of B by the messages that are on their way. -/
structure Linked (s : TwoNodes) : Prop where
  connectedA : ∃ connection, s.nodeA.getConnection s.toB = some connection
  connectedB : s.nodeB.ConnectedAs s.fromA false
  consistent : s.nodeB.subscriptionTable.Consistent
  listed_connected : ∀ agent conn, s.nodeB.subscriptionTable.table.Listed agent conn →
    ∃ connection, s.nodeB.getConnection conn = some connection
  listedOn : s.nodeB.subscriptionTable.table.ListedOn s.fromA (sideIndex false)
  replayable : ∀ entry ∈
    (s.nodeA.remoteSubscriptionTable.getSubscriptionsOnConnection s.toB).entries,
    Replayable entry.1
  travels : ∀ msg ∈ s.inFlight, Travels msg
  agrees : ∀ name, s.Expected name ↔ ∃ source, s.Recorded source name

theorem Fresh.linked (hfresh : s.Fresh) : s.Linked where
  connectedA := hfresh.connectedA
  connectedB := hfresh.connectedB
  consistent := hfresh.consistent
  listed_connected := hfresh.listed_connected
  listedOn := fun agent side hmem => absurd ⟨side, hmem⟩ (hfresh.not_listed agent)
  replayable := by
    intro entry hentry
    rw [RemoteSubscriptions.getSubscriptionsOnConnection, hfresh.no_record] at hentry
    cases hentry
  travels := by
    intro msg hmsg
    rw [hfresh.none_inFlight] at hmsg
    cases hmsg
  agrees := by
    intro name
    have hrecorded : ∀ source, ¬ s.Recorded source name := by
      intro source hrecorded
      rw [Recorded, RemoteSubscriptions.getSubscriptionsOnConnection, hfresh.no_record] at hrecorded
      cases hrecorded
    simp only [Expected, hfresh.none_inFlight, Runs.run_nil, hfresh.not_listed, hrecorded,
      exists_false]

/-! ## B handles a message -/

theorem deliver_eq (hs : s.Linked) {rest : List ProtoMessage} (hinFlight : s.inFlight = msg :: rest)
    (hreads : msg.Reads add content) (hrecv : content.header.recvFrom = none)
    (hforward : content.header.forwardTo = none) :
    s.deliver = { s with
      nodeB := (s.nodeB.onSubscriptionMsg content.agentType content.agentId s.fromA false add).2
      inFlight := rest } := by
  have hconns : (content.header.setIncomingConn (some s.fromA)).getInOutConnections =
      some (s.fromA, none) := by
    simp only [SlimHeader.getInOutConnections, SlimHeader.setIncomingConn, hrecv, hforward]
  obtain ⟨processed, hprocessed, houtcome⟩ :=
    handleNewMessage_outcome hreads s.nodeB s.fromA hconns none
  obtain ⟨found, hfound, hlocal⟩ := hs.connectedB
  simp only [deliver, hinFlight, hprocessed]
  cases houtcome with
  | unconnected hnone =>
      rw [hfound] at hnone
      cases hnone
  | failed hconn hupdate =>
      rw [hfound, Option.some.injEq] at hconn
      rw [← hconn, hlocal] at hupdate
      simp only [hupdate]
  | updated hconn hupdate hnone =>
      rw [hfound, Option.some.injEq] at hconn
      rw [← hconn, hlocal] at hupdate
      simp only [hupdate]
  | unsent hconn hupdate hsome hsend => cases hsome
  | forwarded hconn hupdate hsome hsend hsent => cases hsome

/-- What B lists after it has handled a subscription or an unsubscription that is not
    stray. -/
theorem listed_onSubscriptionMsg (hs : s.Linked) (hreads : msg.Reads add content)
    (hstray : add = false → ¬ s.nodeB.subscriptionTable.Stray
      (agentOf content.agentType content.agentId) s.fromA false)
    (name : Agent) (conn : Nat) :
    (s.nodeB.onSubscriptionMsg content.agentType content.agentId s.fromA false
        add).2.subscriptionTable.table.Listed name conn ↔
      if conn = s.fromA then
        announce (fun other => s.nodeB.subscriptionTable.table.Listed other conn) msg name
      else s.nodeB.subscriptionTable.table.Listed name conn := by
  cases add with
  | true =>
      rw [announce_subscribe hreads]
      apply (hs.consistent.listed_addSubscription _ _ _ _ name conn).trans
      by_cases hconn : conn = s.fromA
      · simp [hconn]
      · simp [hconn]
  | false =>
      rw [announce_unsubscribe hreads]
      apply (hs.consistent.listed_removeSubscription _ _ _ _ hs.listedOn (hstray rfl) name
        conn).trans
      by_cases hconn : conn = s.fromA
      · simp [hconn]
      · simp [hconn]

theorem Linked.deliver (hs : s.Linked) (hadmits : s.Admits .deliver) :
    s.deliver.Linked := by
  rcases hinFlight : s.inFlight with _ | ⟨msg, rest⟩
  · have hsame : s.deliver = s := by
      simp only [TwoNodes.deliver, hinFlight]
    rw [hsame]
    exact hs
  obtain ⟨add, content, hreads, hrecv, hforward⟩ :=
    hs.travels msg (by rw [hinFlight]; exact List.mem_cons_self)
  have hstray : add = false → ¬ s.nodeB.subscriptionTable.Stray
      (agentOf content.agentType content.agentId) s.fromA false := by
    rintro rfl
    exact hadmits msg rest content hinFlight hreads
  have hlisted := listed_onSubscriptionMsg hs hreads hstray
  rw [deliver_eq hs hinFlight hreads hrecv hforward]
  refine ⟨hs.connectedA, ?_, ?_, ?_, ?_, hs.replayable, ?_, ?_⟩
  · exact hs.connectedB
  · cases add with
    | true => exact hs.consistent.addSubscription _ _ _ _ hs.listedOn
    | false => exact hs.consistent.removeSubscription _ _ _ _ hs.listedOn (hstray rfl)
  · intro agent conn hnow
    by_cases hconn : conn = s.fromA
    · obtain ⟨connection, hget, -⟩ := hs.connectedB
      rw [hconn]
      exact ⟨connection, hget⟩
    · have hbefore := (hlisted agent conn).1 hnow
      rw [if_neg hconn] at hbefore
      exact hs.listed_connected agent conn hbefore
  · intro agent side hmem
    cases add with
    | true =>
        rcases SubscriptionTableImpl.mem_conns_addSubscription hmem with hold | ⟨hside, -⟩
        · exact hs.listedOn agent side hold
        · exact hside
    | false =>
        exact hs.listedOn agent side (SubscriptionTableImpl.mem_of_mem_removeSubscription hmem)
  · intro other hother
    apply hs.travels
    rw [hinFlight]
    exact List.mem_cons_of_mem _ hother
  · intro name
    apply Iff.trans _ (hs.agrees name)
    have hafter : (fun other => (s.nodeB.onSubscriptionMsg content.agentType content.agentId
        s.fromA false add).2.subscriptionTable.table.Listed other s.fromA) =
        announce (fun other => s.nodeB.subscriptionTable.table.Listed other s.fromA) msg := by
      funext other
      apply propext
      apply (hlisted other s.fromA).trans
      rw [if_pos rfl]
    simp only [Expected, hafter, hinFlight, Runs.run_cons]

/-! ## A handles a message -/

/-- A message that was built by a constructor and is handled comes from a source with an
    id. -/
theorem source_of_built (hbuilt : Built msg) (hreads : msg.Reads add content) :
    content.source.agentId ≠ DEFAULT_AGENT_ID := by
  obtain ⟨header, sender, destination, hheader, -, hsource, hagent, -⟩ := hreads.header
  rcases hbuilt with ⟨source, agentType, agentId, flags, hmsg⟩ | ⟨source, agentType, agentId,
    flags, rfl⟩
  · obtain ⟨strings, -, hmsg⟩ := bind_eq_ok hmsg
    cases hmsg
    cases hheader
    cases hsource
    exact (ProtoMessage.key_of_ofProto_ofAgent hagent).2.2
  · cases hheader
    cases hsource
    exact (ProtoMessage.key_of_ofProto_ofAgent hagent).2.2

/-- The name of a subscription is made from its strings. -/
theorem strings_of_subscribe (hreads : msg.Reads true content) :
    ∃ organization nameSpace agentType,
      content.agentType = AgentType.fromStrings organization nameSpace agentType := by
  obtain ⟨header, sender, destination, hheader, -, -, -, hdestination⟩ := hreads.header
  have hkind := hreads.kind
  have hname := hreads.name
  unfold ProtoMessage.getName at hname
  rw [ProtoMessage.getDst_of_some hheader hdestination] at hname
  unfold ProtoMessage.subscriptionKind at hkind
  rcases htype : msg.messageType with _ | ⟨publish⟩ | ⟨subscribe⟩ | ⟨unsubscribe⟩
  all_goals simp only [htype] at hkind hname
  any_goals cases hkind
  exact ⟨_, _, _, (congrArg Prod.fst (Except.ok.inj hname)).symm⟩

/-- A step of A that leaves its connection to B and the record for it as they are. -/
theorem Linked.of_same (hs : s.Linked) {nodeA : Forwarder Connection}
    (hconnections : nodeA.connectionTable = s.nodeA.connectionTable)
    (hrecord : nodeA.remoteSubscriptionTable.getSubscriptionsOnConnection s.toB =
      s.nodeA.remoteSubscriptionTable.getSubscriptionsOnConnection s.toB) :
    ({ s with nodeA := nodeA } : TwoNodes).Linked where
  connectedA := by
    simp only [Forwarder.getConnection, hconnections]
    exact hs.connectedA
  connectedB := hs.connectedB
  consistent := hs.consistent
  listed_connected := hs.listed_connected
  listedOn := hs.listedOn
  replayable := by
    simp only [hrecord]
    exact hs.replayable
  travels := hs.travels
  agrees := by
    intro name
    simp only [Recorded, hrecord]
    exact hs.agrees name

/-- A records what it has sent over the connection. -/
theorem Linked.forwarded (hs : s.Linked) {g : Forwarder Connection}
    (hconnections : g.connectionTable = s.nodeA.connectionTable)
    (hremote : g.remoteSubscriptionTable = s.nodeA.remoteSubscriptionTable) {sent : ProtoMessage}
    (hsent : sent.Reads add content) (hrecv : content.header.recvFrom = none)
    (hforward : content.header.forwardTo = none) (hid : content.source.agentId ≠ DEFAULT_AGENT_ID)
    (hlast : add = false → ∀ source,
      s.Recorded source (agentOf content.agentType content.agentId) →
      key source = key content.source) :
    ({ s with
      nodeA := g.onForwardedSubscription content.source content.agentType content.agentId s.toB add
      inFlight := s.inFlight ++ [sent] } : TwoNodes).Linked where
  connectedA := by
    simp only [Forwarder.getConnection, Forwarder.onForwardedSubscription, hconnections]
    exact hs.connectedA
  connectedB := hs.connectedB
  consistent := hs.consistent
  listed_connected := hs.listed_connected
  listedOn := hs.listedOn
  replayable := by
    intro entry hentry
    cases add with
    | true =>
        simp only [Forwarder.onForwardedSubscription, hremote, if_true,
          RemoteSubscriptions.getSubscriptions_addSubscription] at hentry
        rcases HashMap.key_of_mem_insert hentry with hnew | ⟨old, hold, hsame⟩
        · rw [hnew]
          exact ⟨hid, strings_of_subscribe hsent⟩
        · rw [← hsame]
          exact hs.replayable old hold
    | false =>
        simp only [Forwarder.onForwardedSubscription, hremote, if_true, Bool.false_eq_true,
          if_false, RemoteSubscriptions.getSubscriptions_removeSubscription] at hentry
        exact hs.replayable entry (HashMap.mem_of_mem_remove hentry)
  travels := by
    intro msg hmsg
    rcases List.mem_append.mp hmsg with hold | hnew
    · exact hs.travels msg hold
    · rw [List.mem_singleton.mp hnew]
      exact ⟨add, content, hsent, hrecv, hforward⟩
  agrees := by
    intro name
    have hbefore : Runs.run announce (fun name =>
        s.nodeB.subscriptionTable.table.Listed name s.fromA) s.inFlight name ↔
        ∃ source, s.Recorded source name := hs.agrees name
    simp only [Expected, Runs.run_concat, Recorded, Forwarder.onForwardedSubscription, hremote]
    cases add with
    | true =>
        rw [announce_subscribe hsent, hbefore]
        exact (RemoteSubscriptions.exists_contains_addSubscription ..).symm
    | false =>
        rw [announce_unsubscribe hsent, hbefore]
        -- the only source with a record of the name is the one that unsubscribes
        exact (RemoteSubscriptions.exists_contains_removeSubscription (hlast rfl) name).symm

theorem Linked.processA (hs : s.Linked) {connIndex : Nat} {sendError : Option String}
    (hbuilt : Built msg) (hadmits : s.Admits (.processA connIndex msg sendError)) :
    (s.processA connIndex msg sendError).Linked := by
  unfold TwoNodes.processA
  rcases hhandled : s.nodeA.handleNewMessage connIndex msg sendError with
    panic | ⟨error | publication | processed⟩
  · exact hs
  · exact hs
  · exact hs
  obtain ⟨add, content, hreads⟩ := reads_of_handled hhandled
  obtain ⟨conn, forward, hconns, hdirect⟩ :=
    content.header.getInOutConnections_setIncomingConn connIndex
  obtain ⟨found, hfound, houtcome⟩ :=
    handleNewMessage_outcome hreads s.nodeA connIndex hconns sendError
  rw [hhandled, Except.ok.injEq, Handled.subscription.injEq] at hfound
  subst hfound
  cases houtcome with
  | unconnected hnone => exact hs
  | failed hconn hupdate =>
      obtain ⟨hconnections, hremote⟩ := Forwarder.onSubscriptionMsg_frame hupdate
      exact hs.of_same hconnections (by rw [hremote])
  | updated hconn hupdate hforward =>
      obtain ⟨hconnections, hremote⟩ := Forwarder.onSubscriptionMsg_frame hupdate
      exact hs.of_same hconnections (by rw [hremote])
  | unsent hconn hupdate hforward hsend =>
      obtain ⟨hconnections, hremote⟩ := Forwarder.onSubscriptionMsg_frame hupdate
      exact hs.of_same hconnections (by rw [hremote])
  | @forwarded connection g outConn sent hconn hupdate hforward hsend hsent =>
      obtain ⟨hconnections, hremote⟩ := Forwarder.onSubscriptionMsg_frame hupdate
      obtain ⟨hrecv, hout⟩ := hdirect outConn hforward
      simp only []
      by_cases hB : outConn = s.toB
      · rw [if_pos hB]
        subst hB
        have hid := source_of_built hbuilt hreads
        apply hs.forwarded hconnections hremote hsent rfl rfl hid
        rintro rfl source hrecorded
        exact hadmits content source hreads hrecv hout hrecorded
      · rw [if_neg hB]
        refine hs.of_same hconnections ?_
        cases add with
        | true =>
            simp only [Forwarder.onForwardedSubscription, if_true,
              RemoteSubscriptions.getSubscriptions_addSubscription, hremote]
            rw [if_neg fun h => hB h.symm]
        | false =>
            simp only [Forwarder.onForwardedSubscription, Bool.false_eq_true, if_false,
              RemoteSubscriptions.getSubscriptions_removeSubscription, hremote]
            rw [if_neg fun h => hB h.symm]

/-! ## The connection is lost and made again -/

/-- The subscription that is sent again for a record. -/
theorem replayed {f : Forwarder Connection} {conn : Nat} {connection : Connection}
    (hconn : f.getConnection conn = some connection) (hchannel : connection.channel = .client)
    {info : SubscriptionInfo} (hinfo : Replayable info) :
    ∃ msg sent content,
      ProtoMessage.newSubscribe info.source info.name.agentType info.name.agentIdOption none =
        .ok msg ∧ f.transmit msg conn none = .ok (.ok sent) ∧ sent.Reads true content ∧
      content.header.recvFrom = none ∧ content.header.forwardTo = none ∧
      agentOf content.agentType content.agentId = info.name := by
  obtain ⟨hid, organization, nameSpace, agentType, htype⟩ := hinfo
  obtain ⟨msg, hmsg, hreads⟩ := ProtoMessage.Reads.newSubscribe hid organization nameSpace
    agentType info.name.agentIdOption none
  obtain ⟨sent, hreadable, hread⟩ := hreads.readable
  have hsend : f.sendMsg conn none = .ok () := by
    simp only [Forwarder.sendMsg, hconn, hchannel]
  refine ⟨msg, sent, _, ?_, ?_, hread, rfl, rfl, ?_⟩
  · rw [htype]
    exact hmsg
  · rw [hreadable.transmit, hsend]
    rfl
  · rw [← htype]
    exact SubscriptionTableImpl.agentOf_agentIdOption info.name

/-- The names of all records are announced again, and no other name. -/
theorem replay_announces {f : Forwarder Connection} {conn : Nat} {connection : Connection}
    (hconn : f.getConnection conn = some connection) (hchannel : connection.channel = .client) :
    ∀ (infos : List SubscriptionInfo), (∀ info ∈ infos, Replayable info) →
      (∀ msg ∈ replay f conn infos, Travels msg) ∧ ∀ listed name,
        Runs.run announce listed (replay f conn infos) name ↔
          listed name ∨ ∃ info ∈ infos, key name = key info.name := by
  intro infos
  induction infos with
  | nil =>
      intro _
      constructor
      · intro msg hmsg
        cases hmsg
      · intro listed name
        simp [replay]
  | cons info rest ih =>
      intro hinfos
      obtain ⟨htravels, hlisted⟩ := ih fun other hother =>
        hinfos other (List.mem_cons_of_mem _ hother)
      obtain ⟨msg, sent, content, hmsg, hsent, hreads, hrecv, hforward, hname⟩ :=
        replayed hconn hchannel (hinfos info List.mem_cons_self)
      have hreplay : replay f conn (info :: rest) = sent :: replay f conn rest := by
        simp only [replay, hmsg, bind_ok, hsent]
      rw [hreplay]
      constructor
      · intro other hother
        rcases List.mem_cons.mp hother with rfl | hother
        · exact ⟨true, content, hreads, hrecv, hforward⟩
        · exact htravels other hother
      · intro listed name
        rw [Runs.run_cons, hlisted, announce_subscribe hreads, hname]
        simp only [List.mem_cons, exists_eq_or_imp, or_assoc]

theorem Linked.reconnect (hs : s.Linked) (dropOrder : IterOrder (Agent × Unit))
    (order : IterOrder (SubscriptionInfo × Unit)) : (s.reconnect dropOrder order).Linked := by
  let connection : Connection := ⟨.server, .Remote⟩
  let dropped := s.nodeB.onConnectionDrop s.fromA false dropOrder
  let index := (dropped.connectionTable.insert connection).2
  obtain ⟨old, hold⟩ := hs.connectedA
  have hnew := Forwarder.exec_reestablished hold ⟨.client, .Remote⟩
  have hremote := s.nodeA.remoteSubscriptionTable_established ⟨.client, .Remote⟩ (some s.toB)
  -- what is still listed is connected, so the index of the new connection is not listed
  have hkept : ∀ agent conn, dropped.subscriptionTable.table.Listed agent conn →
      ∃ connection, dropped.connectionTable.get conn = some connection := by
    intro agent conn hlisted
    obtain ⟨hbefore, hne⟩ := (hs.consistent.listed_removeConnection s.fromA false dropOrder
      hs.listedOn agent conn).1 hlisted
    obtain ⟨found, hfound⟩ := hs.listed_connected agent conn hbefore
    exact ⟨found, (Pool.get_remove _ _ _).trans ((if_neg hne).trans hfound)⟩
  have hunlisted : ∀ agent, ¬ dropped.subscriptionTable.table.Listed agent index := by
    intro agent hlisted
    obtain ⟨found, hfound⟩ := hkept agent index hlisted
    rw [Pool.get_insert_index] at hfound
    cases hfound
  have hrecorded : ∀ info ∈ ((s.nodeA.remoteSubscriptionTable.getSubscriptionsOnConnection
      s.toB).iter order).map Prod.fst, Replayable info := by
    intro info hinfo
    obtain ⟨entry, hentry, rfl⟩ := List.mem_map.mp hinfo
    exact hs.replayable entry (HashMap.mem_iter.1 hentry)
  obtain ⟨htravels, hannounced⟩ := replay_announces hnew rfl _ hrecorded
  refine ⟨⟨_, hnew⟩, ?_, ?_, ?_, ?_, ?_, htravels, ?_⟩
  · exact ⟨connection, (Pool.get_insert _ _ _).trans (if_pos rfl), rfl⟩
  · exact hs.consistent.removeConnection s.fromA false dropOrder hs.listedOn
  · intro agent conn hlisted
    obtain ⟨found, hfound⟩ := hkept agent conn hlisted
    have hne : conn ≠ index := by
      rintro rfl
      exact hunlisted agent hlisted
    exact ⟨found, (Pool.get_insert _ _ _).trans ((if_neg hne).trans hfound)⟩
  · intro agent side hmem
    exact absurd ⟨side, hmem⟩ (hunlisted agent)
  · simp only [TwoNodes.reconnect, hremote]
    exact hs.replayable
  · intro name
    apply (hannounced _ name).trans
    simp only [TwoNodes.reconnect, Recorded, hremote, HashMap.contains_iff, List.mem_map]
    constructor
    · rintro (hlisted | ⟨info, ⟨entry, hentry, rfl⟩, hkey⟩)
      · exact absurd hlisted (hunlisted name)
      · exact ⟨entry.1.source, entry, HashMap.mem_iter.1 hentry, Prod.ext rfl hkey.symm⟩
    · rintro ⟨source, entry, hentry, hkey⟩
      refine Or.inr ⟨entry.1, ⟨entry, HashMap.mem_iter.2 hentry, rfl⟩, ?_⟩
      exact (congrArg Prod.snd hkey).symm

/-! ## Runs -/

theorem Linked.step (hs : s.Linked) {event : TwoNodesEvent}
    (hbuilt : ∀ connIndex msg sendError, event = .processA connIndex msg sendError → Built msg)
    (hadmits : s.Admits event) : (s.step event).Linked := by
  cases event with
  | processA connIndex msg sendError => exact hs.processA (hbuilt _ _ _ rfl) hadmits
  | deliver => exact hs.deliver hadmits
  | reconnect dropOrder order => exact hs.reconnect dropOrder order

/-- The messages that A receives in the run are built by the constructors. -/
def AllBuilt (events : List TwoNodesEvent) : Prop :=
  ∀ connIndex msg sendError, TwoNodesEvent.processA connIndex msg sendError ∈ events → Built msg

/-- In every run from a fresh connection whose steps meet the conditions, and in every
    state of it in which B has handled all messages, B routes a name to the connection
    from A exactly if A has a record of the name under some source. -/
theorem forwarded_subscriptions_agree (s : TwoNodes) (hfresh : s.Fresh)
    (events : List TwoNodesEvent) (hbuilt : AllBuilt events)
    (hsteps : Runs.Along step Admits s events)
    (hhandled : (Runs.run step s events).inFlight = []) (name : Agent) :
    (Runs.run step s events).nodeB.subscriptionTable.Routed name (Runs.run step s events).fromA ↔
      ∃ source, (Runs.run step s events).Recorded source name := by
  have hlinked : (Runs.run step s events).Linked := by
    apply Runs.run_invariant (I := Linked) (P := fun s event => s.Admits event ∧
      ∀ connIndex msg sendError, event = .processA connIndex msg sendError → Built msg)
    · intro s event hs hstep
      exact hs.step hstep.2 hstep.1
    · apply Runs.along_and_forall hsteps
      rintro event hevent connIndex msg sendError rfl
      exact hbuilt connIndex msg sendError hevent
    · exact hfresh.linked
  rw [SubscriptionTableImpl.routed_iff_listed, ← hlinked.agrees name, Expected, hhandled]
  rfl

end Nodes

/-! ### Two sources of one name -/

/-- The name of the examples with a message for the connection to B, which is 2. -/
def sampleSubscribe (source : Agent) : ProtoMessage :=
  ⟨HashMap.empty, some (.subscribe
    ⟨some (ProtoSlimHeader.new source Service.sampleName none
      (some (SlimHeaderFlags.default.withForwardTo 2))), "org", "ns", "type"⟩)⟩

def sampleUnsubscribe (source : Agent) : ProtoMessage :=
  ProtoMessage.newUnsubscribe source Service.sampleName none
    (some (SlimHeaderFlags.default.withForwardTo 2))

/-- A has two applications and the connection to B; B has the connection from A. -/
def sampleNodes : TwoNodes where
  nodeA := Runs.run Forwarder.exec Forwarder.new
    [.connectionEstablished ⟨.server, .Local⟩ none, .connectionEstablished ⟨.server, .Local⟩ none,
      .connectionEstablished ⟨.client, .Remote⟩ none]
  nodeB := Forwarder.new.exec (.connectionEstablished ⟨.server, .Remote⟩ none)
  toB := 2
  fromA := 0
  inFlight := []

/-- Both applications subscribe to the name, and the first one unsubscribes. -/
def twoSources : List TwoNodesEvent :=
  [.processA 0 (sampleSubscribe ⟨Service.sampleName, 7⟩) none,
    .processA 1 (sampleSubscribe ⟨Service.sampleName, 8⟩) none,
    .processA 0 (sampleUnsubscribe ⟨Service.sampleName, 7⟩) none,
    .deliver, .deliver, .deliver]

theorem fresh_sampleNodes : sampleNodes.Fresh where
  connectedA := ⟨_, rfl⟩
  connectedB := ⟨_, rfl, rfl⟩
  consistent := SubscriptionTableImpl.consistent_default
  listed_connected := by
    rintro agent conn ⟨side, hmem⟩
    cases hmem
  not_listed := by
    rintro agent ⟨side, hmem⟩
    cases hmem
  no_record := rfl
  none_inFlight := rfl

theorem built_sampleSubscribe (source : Agent) : Built (sampleSubscribe source) :=
  Or.inl ⟨source, Service.sampleName, none, some (SlimHeaderFlags.default.withForwardTo 2), rfl⟩

theorem allBuilt_twoSources : AllBuilt twoSources := by
  intro connIndex msg sendError hmem
  simp only [twoSources, List.mem_cons, TwoNodesEvent.processA.injEq, reduceCtorEq,
    List.not_mem_nil, or_false] at hmem
  rcases hmem with ⟨-, rfl, -⟩ | ⟨-, rfl, -⟩ | ⟨-, rfl, -⟩
  · exact built_sampleSubscribe _
  · exact built_sampleSubscribe _
  · exact Or.inr ⟨_, _, _, _, rfl⟩

/-- A still has the record of the second application, and B has no route for the name. -/
theorem shared_name_loses_route :
    let s := Runs.run (@step sampleHash) sampleNodes twoSources
    sampleNodes.Fresh ∧ AllBuilt twoSources ∧ s.inFlight = [] ∧
      s.Recorded ⟨Service.sampleName, 8⟩ (agentOf Service.sampleName none) ∧
      ¬ s.nodeB.subscriptionTable.Routed (agentOf Service.sampleName none) s.fromA := by
  refine ⟨fresh_sampleNodes, allBuilt_twoSources, rfl, rfl, fun hrouted => ?_⟩
  obtain ⟨side, hmem⟩ := hrouted.listed
  cases hmem

/-- The first subscription, forwarded and handled, and the connection made again. -/
theorem forwarded_subscriptions_agree_sample :
    (Runs.run (@step sampleHash) sampleNodes
      [.processA 0 (sampleSubscribe ⟨Service.sampleName, 7⟩) none, .deliver,
        .reconnect IterOrder.stored IterOrder.stored,
        .deliver]).nodeB.subscriptionTable.Routed (agentOf Service.sampleName none) 0 := by
  apply (@forwarded_subscriptions_agree sampleHash sampleNodes fresh_sampleNodes _ ?_ ?_ rfl
    (agentOf Service.sampleName none)).2
  · exact ⟨⟨Service.sampleName, 7⟩, rfl⟩
  · intro connIndex msg sendError hmem
    simp only [List.mem_cons, TwoNodesEvent.processA.injEq, reduceCtorEq,
      List.not_mem_nil, or_false] at hmem
    obtain ⟨-, rfl, -⟩ := hmem
    exact built_sampleSubscribe _
  · refine ⟨?_, ?_, trivial, ?_, trivial⟩
    · intro content source hreads
      have hkind := @ProtoMessage.Reads.kind sampleHash _ _ _ hreads
      cases hkind
    · intro msg rest content hinFlight hreads
      cases hinFlight
      have hkind := @ProtoMessage.Reads.kind sampleHash _ _ _ hreads
      cases hkind
    · intro msg rest content hinFlight hreads
      cases hinFlight
      have hkind := @ProtoMessage.Reads.kind sampleHash _ _ _ hreads
      cases hkind

end TwoNodes

end Slim
