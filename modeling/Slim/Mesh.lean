import Mathlib.Combinatorics.SimpleGraph.Star
import Slim.Flooding
import Slim.StreamHandling

/-!
# A network of nodes

The remote connections of a node lead to other nodes.  A message that a node hands to such
a connection arrives at the node at the other end, which handles it like any message: there
is no list of the nodes that a message has passed, no hop count, and no record of the
messages that a node has seen.  What keeps a publication from coming back is that a node
does not send it to the connection on which it came in, and that the connection which the
application has named is cleared when the message is sent on.

Here messages are handled one at a time, each by one node, in any order; `handled_in_steps`
says that this is what the steps of a task do.  Messages can be lost, sends can fail, and
the tables change while messages are on their way.  Where an index of the connection table
leads is fixed: a node that reconnects under another index is not modelled.
-/

namespace Slim

open HashKey Machine
open SubscriptionTableImpl (agentOf sampleType)

/-! ## One node -/

/-- What the environment decides while a message is handled: the random numbers and the
    order of the tables, the sends that fail, and whether forwarding a subscription fails. -/
structure Conditions where
  rng : Rng
  matchOrder : IterOrder (Nat × Nat)
  sendError : Nat → Option String
  forwardError : Option String

namespace Forwarder

section Respond

variable [NameHash]

/-- The tables after a message, and what was handed to other connections.  Where the task
    stops or the message is refused, nothing is. -/
def respond (f : Forwarder Connection) (conn : Nat) (msg : ProtoMessage)
    (conditions : Conditions) : Forwarder Connection × List (Nat × ProtoMessage) :=
  match f.handleNewMessage conn msg conditions.forwardError with
  | .error _ => (f, [])
  | .ok (.invalid _) => (f, [])
  | .ok (.subscription processed) => (processed.forwarder, processed.sent.toList)
  | .ok (.publication stamped) =>
      match f.processPublish stamped conn conditions.rng conditions.matchOrder
          conditions.sendError with
      | .error _ => (f, [])
      | .ok published => (f, published.sent)

/-- The connections to which a publication with this header goes. -/
def outputs (f : Forwarder Connection) (header : ProtoSlimHeader) (destination : ProtoAgent)
    (conn : Nat) (conditions : Conditions) : List Nat :=
  match header.forwardTo with
  | some outConn => [outConn]
  | none =>
      match f.onPublishMsgMatch (AgentType.ofProto destination) destination.agentId conn
          header.fanout conditions.rng conditions.matchOrder with
      | .ok outVec => outVec
      | .error _ => []

end Respond

end Forwarder

/-- What a task of a node does with a message is what the node responds. -/
theorem DataPath.handleAtOnce_respond [NameHash] (d : DataPath) (i : Nat) (task : StreamTask)
    (msg : ProtoMessage) (choices : Choices) (answer : Nat → Option String) :
    let response := d.forwarder.respond task.connIndex msg
      ⟨choices.rng, choices.matchOrder, answer, choices.sendError⟩
    (d.handleAtOnce i task msg choices answer).forwarder = response.1 ∧
      (d.handleAtOnce i task msg choices answer).sent = d.sent ++ response.2 := by
  have hsettle : ∀ (d : DataPath) (result : Except DataPathError Unit),
      (d.settle i task result).forwarder = d.forwarder ∧
        (d.settle i task result).sent = d.sent := by
    intro d result
    cases result with
    | ok done => exact ⟨rfl, rfl⟩
    | error e => exact ⟨rfl, rfl⟩
  unfold handleAtOnce Forwarder.respond
  rcases d.forwarder.handleNewMessage task.connIndex msg choices.sendError with
    panic | ⟨⟨e⟩ | ⟨stamped⟩ | ⟨processed⟩⟩
  · exact ⟨rfl, (List.append_nil _).symm⟩
  · exact ⟨rfl, (List.append_nil _).symm⟩
  · simp only []
    rcases d.forwarder.processPublish stamped task.connIndex choices.rng choices.matchOrder
        answer with panic | published
    · exact ⟨rfl, (List.append_nil _).symm⟩
    · exact hsettle _ _
  · exact hsettle _ _

/-! ## What is sent on -/

/-- The header of a copy that is sent on. -/
def sentHeader (header : ProtoSlimHeader) (conn : Nat) : ProtoSlimHeader :=
  ProtoSlimHeader.clear { header with incomingConn := some conn }

/-- The message asks for a connection on which it is to be sent. -/
def ProtoMessage.NamesOutput (msg : ProtoMessage) : Prop :=
  ∃ conn, msg.getForwardTo = .ok (some conn)

/-! ### Publications -/

/-- A message that every node takes as a publication. -/
structure PublishedMessage (msg : ProtoMessage) (header : ProtoSlimHeader)
    (destination : ProtoAgent) : Prop where
  valid : msg.validate = .ok ()
  span : createSpan msg = .ok ()
  kind : ∃ publish, msg.messageType = some (.publish publish)
  header_eq : msg.tryGetSlimHeader = some header
  destination_eq : header.destination = some destination

namespace PublishedMessage

variable {msg : ProtoMessage} {header changed : ProtoSlimHeader} {destination : ProtoAgent}

/-- The names stay, the other fields of the header may change. -/
theorem withHeader (hmsg : PublishedMessage msg header destination)
    (hsource : changed.source = header.source)
    (hdestination : changed.destination = header.destination) :
    PublishedMessage (msg.withHeader changed) changed destination where
  valid := by
    obtain ⟨other, source, found, hother, hfound, -, hsession⟩ :=
      ProtoMessage.validate_ok_iff.1 hmsg.valid
    rw [hmsg.header_eq, Option.some.injEq] at hother
    subst hother
    exact ProtoMessage.validate_ok_iff.2 ⟨changed, source, destination,
      ProtoMessage.tryGetSlimHeader_withHeader hmsg.header_eq changed, hsource.trans hfound,
      hdestination.trans hmsg.destination_eq, ProtoMessage.session_withHeader hsession⟩
  span := (createSpan_withHeader hmsg.header_eq hsource hdestination).trans hmsg.span
  kind := by
    obtain ⟨publish, hpublish⟩ := hmsg.kind
    rw [ProtoMessage.withHeader, hpublish]
    exact ⟨_, rfl⟩
  header_eq := ProtoMessage.tryGetSlimHeader_withHeader hmsg.header_eq changed
  destination_eq := hdestination.trans hmsg.destination_eq

theorem stamped (hmsg : PublishedMessage msg header destination) (conn : Nat) :
    PublishedMessage (msg.withHeader { header with incomingConn := some conn })
      { header with incomingConn := some conn } destination :=
  hmsg.withHeader rfl rfl

theorem readable (hmsg : PublishedMessage msg header destination) :
    Readable msg (msg.withHeader header.clear) where
  clear := ProtoMessage.modifySlimHeader_of_some _ hmsg.header_eq
  span := by
    rw [← hmsg.span]
    apply createSpan_withHeader hmsg.header_eq
    · rfl
    · rfl

/-- A publication is handed, with a cleared header, to the outputs before the first one
    whose send fails. -/
theorem processPublish (hmsg : PublishedMessage msg header destination) (f : Forwarder Connection)
    (conn : Nat) (conditions : Conditions) :
    ∃ result, f.processPublish msg conn conditions.rng conditions.matchOrder
        conditions.sendError =
      .ok ⟨result, ((f.outputs header destination conn conditions).takeWhile
        (f.sends conditions.sendError)).map fun outConn =>
          (outConn, msg.withHeader header.clear)⟩ := by
  have hslim := ProtoMessage.getSlimHeader_of_some hmsg.header_eq
  have hfanout : msg.getFanout = .ok header.fanout := by
    rw [ProtoMessage.getFanout, hslim]
    rfl
  have hforward : msg.getForwardTo = .ok header.forwardTo := by
    rw [ProtoMessage.getForwardTo, hslim]
    rfl
  simp only [Forwarder.processPublish, hfanout, hforward, Except.mapError, bind_ok,
    ProtoMessage.getDst_of_some hmsg.header_eq hmsg.destination_eq,
    Forwarder.matchAndForwardMsg, Forwarder.outputs]
  rcases header.forwardTo with _ | outConn
  · simp only []
    rcases hmatch : f.onPublishMsgMatch (AgentType.ofProto destination) destination.agentId conn
        header.fanout conditions.rng conditions.matchOrder with e | outVec
    · exact ⟨_, rfl⟩
    · obtain ⟨result, heach, -⟩ := Forwarder.sendEach_eq hmsg.readable f conditions.sendError
        (Forwarder.ne_nil_of_onPublishMsgMatch hmatch)
      exact ⟨result, heach⟩
  · obtain ⟨result, hsent, -⟩ :=
      Forwarder.sendPublication_eq hmsg.readable f conditions.sendError outConn
    refine ⟨result, ?_⟩
    simp only [hsent]
    rcases hsends : f.sends conditions.sendError outConn with _ | _
    · simp [hsends]
    · simp [hsends]

variable [NameHash]

theorem handleNewMessage (hmsg : PublishedMessage msg header destination)
    (f : Forwarder Connection) (conn : Nat) (error : Option String) :
    f.handleNewMessage conn msg error =
      .ok (.publication (msg.withHeader { header with incomingConn := some conn })) := by
  have hstamped := hmsg.stamped conn
  obtain ⟨publish, hpublish⟩ := hstamped.kind
  simp only [Forwarder.handleNewMessage, hmsg.valid, ProtoMessage.setIncomingConn,
    ProtoMessage.modifySlimHeader_of_some _ hmsg.header_eq, hstamped.span, bind_ok,
    ProtoMessage.getType, hpublish, orPanic_some]
  rfl

theorem of_handled {f : Forwarder Connection} {conn : Nat} {error : Option String}
    {stamped : ProtoMessage}
    (hhandled : f.handleNewMessage conn msg error = .ok (.publication stamped)) :
    ∃ header destination, PublishedMessage msg header destination := by
  unfold Forwarder.handleNewMessage at hhandled
  rcases hvalid : msg.validate with e | ⟨⟩
  · rw [hvalid] at hhandled
    cases hhandled
  obtain ⟨header, source, destination, hheader, -, hdestination, -⟩ :=
    ProtoMessage.validate_ok_iff.1 hvalid
  rw [hvalid] at hhandled
  obtain ⟨set, hset, hhandled⟩ := bind_eq_ok hhandled
  obtain ⟨⟨⟩, hspan, hhandled⟩ := bind_eq_ok hhandled
  obtain ⟨messageType, htype, hhandled⟩ := bind_eq_ok hhandled
  rw [ProtoMessage.setIncomingConn, ProtoMessage.modifySlimHeader_of_some _ hheader,
    Except.ok.injEq] at hset
  subst hset
  refine ⟨header, destination, hvalid, ?_, ?_, hheader, hdestination⟩
  · rw [← hspan]
    symm
    apply createSpan_withHeader hheader
    · rfl
    · rfl
  · cases messageType with
    | publish publish =>
        rw [ProtoMessage.getType, ProtoMessage.withHeader] at htype
        rcases hkind : msg.messageType with _ | ⟨original⟩ | ⟨subscribe⟩ | ⟨unsubscribe⟩
        all_goals simp only [hkind] at htype
        all_goals first | exact ⟨_, rfl⟩ | cases htype
    | subscribe subscribe =>
        obtain ⟨processed, -, hleft⟩ := bind_eq_ok hhandled
        cases hleft
    | unsubscribe unsubscribe =>
        obtain ⟨processed, -, hleft⟩ := bind_eq_ok hhandled
        cases hleft

theorem respond (hmsg : PublishedMessage msg header destination) (f : Forwarder Connection)
    (conn : Nat) (conditions : Conditions) :
    f.respond conn msg conditions =
      (f, ((f.outputs header destination conn conditions).takeWhile
        (f.sends conditions.sendError)).map fun outConn =>
          (outConn, msg.withHeader (sentHeader header conn))) := by
  have hcleared : (msg.withHeader { header with incomingConn := some conn }).withHeader
      (sentHeader header conn) = msg.withHeader (sentHeader header conn) := by
    obtain ⟨publish, hpublish⟩ := hmsg.kind
    simp only [ProtoMessage.withHeader, hpublish]
    rfl
  obtain ⟨result, hpublished⟩ := (hmsg.stamped conn).processPublish f conn conditions
  simp only [Forwarder.respond, hmsg.handleNewMessage, hpublished]
  rw [← hcleared]
  rfl

end PublishedMessage

/-! ### All messages -/

section Copies

variable {msg : ProtoMessage} {header : ProtoSlimHeader}

theorem namesOutput_iff (hheader : msg.tryGetSlimHeader = some header) :
    msg.NamesOutput ↔ header.forwardTo ≠ none := by
  rw [Option.ne_none_iff_exists']
  unfold ProtoMessage.NamesOutput ProtoMessage.getForwardTo
  rw [ProtoMessage.getSlimHeader_of_some hheader]
  simp only [bind_ok, pure, Except.pure, Except.ok.injEq]

theorem withHeader_withHeader (msg : ProtoMessage) (first second : ProtoSlimHeader) :
    (msg.withHeader first).withHeader second = msg.withHeader second := by
  unfold ProtoMessage.withHeader
  rcases msg.messageType with _ | ⟨publish⟩ | ⟨subscribe⟩ | ⟨unsubscribe⟩
  all_goals rfl

/-- The second message is a copy of the first one, as it was sent on. -/
def IsCopy (original copy : ProtoMessage) : Prop :=
  ∃ header conn, original.tryGetSlimHeader = some header ∧
    copy = original.withHeader (sentHeader header conn)

theorem IsCopy.not_namesOutput {original copy : ProtoMessage} (hcopy : IsCopy original copy) :
    ¬ copy.NamesOutput := by
  obtain ⟨header, conn, hheader, rfl⟩ := hcopy
  rw [namesOutput_iff (ProtoMessage.tryGetSlimHeader_withHeader hheader _)]
  exact fun hsome => hsome rfl

/-- A copy of a copy is a copy. -/
theorem IsCopy.trans {original copy again : ProtoMessage} (hcopy : IsCopy original copy)
    (hagain : IsCopy copy again) : IsCopy original again := by
  obtain ⟨header, conn, hheader, rfl⟩ := hcopy
  obtain ⟨other, again, hother, rfl⟩ := hagain
  rw [ProtoMessage.tryGetSlimHeader_withHeader hheader, Option.some.injEq] at hother
  subst hother
  exact ⟨header, again, hheader, withHeader_withHeader _ _ _⟩

variable [NameHash] {f : Forwarder Connection} {conn : Nat} {conditions : Conditions}

/-- What `process_subscription` hands over has a cleared header. -/
theorem Forwarder.cleared_of_processSubscription {add : Bool} {error : Option String}
    {processed : Processed} {outConn : Nat} {sent : ProtoMessage}
    (hprocessed : f.processSubscription msg add error = .ok processed)
    (hsent : processed.sent = some (outConn, sent)) : msg.clearSlimHeader = .ok sent := by
  unfold processSubscription at hprocessed
  obtain ⟨⟨agentType, agentId⟩, -, hprocessed⟩ := bind_eq_ok hprocessed
  obtain ⟨⟨incoming, forward⟩, -, hprocessed⟩ := bind_eq_ok hprocessed
  rcases hconnection : f.getConnection incoming with _ | connection
  · simp only [hconnection] at hprocessed
    cases hprocessed
    cases hsent
  simp only [hconnection] at hprocessed
  rcases hupdate : f.onSubscriptionMsg agentType agentId incoming connection.isLocalConnection
      add with ⟨e | ⟨⟩, g⟩
  · simp only [hupdate] at hprocessed
    cases hprocessed
    cases hsent
  simp only [hupdate] at hprocessed
  rcases forward with _ | forward
  · cases hprocessed
    cases hsent
  obtain ⟨source, -, hprocessed⟩ := bind_eq_ok hprocessed
  obtain ⟨transmitted, htransmitted, hprocessed⟩ := bind_eq_ok hprocessed
  rcases transmitted with e | copy
  · cases hprocessed
    cases hsent
  cases hprocessed
  cases hsent
  unfold transmit at htransmitted
  rcases hout : g.getConnection outConn with _ | out
  · simp only [hout, sendMsg] at htransmitted
    cases htransmitted
  simp only [hout] at htransmitted
  obtain ⟨cleared, hcleared, htransmitted⟩ := bind_eq_ok htransmitted
  obtain ⟨⟨⟩, -, htransmitted⟩ := bind_eq_ok htransmitted
  rw [hcleared]
  rcases hsend : g.sendMsg outConn error with e | ⟨⟩
  · rw [hsend] at htransmitted
    cases htransmitted
  · rw [hsend] at htransmitted
    cases htransmitted
    rfl

/-- A message that is handled as a subscription. -/
theorem Forwarder.processSubscription_of_handled {error : Option String} {processed : Processed}
    (hhandled : f.handleNewMessage conn msg error = .ok (.subscription processed)) :
    ∃ header add, msg.tryGetSlimHeader = some header ∧
      f.processSubscription (msg.withHeader { header with incomingConn := some conn }) add
        error = .ok processed := by
  unfold handleNewMessage at hhandled
  rcases hvalid : msg.validate with e | ⟨⟩
  · rw [hvalid] at hhandled
    cases hhandled
  rw [hvalid] at hhandled
  obtain ⟨stamped, hstamped, hhandled⟩ := bind_eq_ok hhandled
  obtain ⟨header, hheader, rfl⟩ := ProtoMessage.modifySlimHeader_eq_ok hstamped
  obtain ⟨⟨⟩, -, hhandled⟩ := bind_eq_ok hhandled
  obtain ⟨messageType, -, hhandled⟩ := bind_eq_ok hhandled
  cases messageType with
  | publish publish => cases hhandled
  | subscribe subscribe =>
      obtain ⟨found, hfound, hleft⟩ := bind_eq_ok hhandled
      cases hleft
      exact ⟨header, true, hheader, hfound⟩
  | unsubscribe unsubscribe =>
      obtain ⟨found, hfound, hleft⟩ := bind_eq_ok hhandled
      cases hleft
      exact ⟨header, false, hheader, hfound⟩

/-- What a node can do with a message. -/
theorem Forwarder.respond_cases (f : Forwarder Connection) (conn : Nat) (msg : ProtoMessage)
    (conditions : Conditions) :
    f.respond conn msg conditions = (f, []) ∨
      (∃ processed, f.handleNewMessage conn msg conditions.forwardError =
          .ok (.subscription processed) ∧
        f.respond conn msg conditions = (processed.forwarder, processed.sent.toList)) ∨
      ∃ header destination, PublishedMessage msg header destination := by
  unfold respond
  rcases hhandled : f.handleNewMessage conn msg conditions.forwardError with
    panic | ⟨⟨e⟩ | ⟨stamped⟩ | ⟨processed⟩⟩
  · exact .inl rfl
  · exact .inl rfl
  · exact .inr (.inr (PublishedMessage.of_handled hhandled))
  · exact .inr (.inl ⟨processed, rfl, rfl⟩)

theorem Forwarder.isCopy_of_mem_respond {answer : Nat × ProtoMessage}
    (hanswer : answer ∈ (f.respond conn msg conditions).2) : IsCopy msg answer.2 := by
  rcases f.respond_cases conn msg conditions with
    hnothing | ⟨processed, hhandled, hresponse⟩ | ⟨header, destination, hmsg⟩
  · rw [hnothing] at hanswer
    cases hanswer
  · rw [hresponse, Option.mem_toList] at hanswer
    obtain ⟨header, add, hheader, hprocessed⟩ := processSubscription_of_handled hhandled
    have hcleared := cleared_of_processSubscription hprocessed hanswer
    obtain ⟨stamped, hstamped, hcopy⟩ := ProtoMessage.modifySlimHeader_eq_ok hcleared
    rw [ProtoMessage.tryGetSlimHeader_withHeader hheader, Option.some.injEq] at hstamped
    subst hstamped
    exact ⟨header, conn, hheader, hcopy.trans (withHeader_withHeader _ _ _)⟩
  · rw [hmsg.respond, List.mem_map] at hanswer
    obtain ⟨outConn, -, rfl⟩ := hanswer
    exact ⟨header, conn, hmsg.header_eq, rfl⟩

end Copies

/-! ### The outputs -/

namespace Forwarder

section Outputs

variable {f : Forwarder Connection} {header : ProtoSlimHeader} {destination : ProtoAgent}
  {conn : Nat} {conditions : Conditions}

theorem nodup_outputs (hunique : f.subscriptionTable.table.Unique) :
    (f.outputs header destination conn conditions).Nodup := by
  unfold outputs
  rcases header.forwardTo with _ | outConn
  · simp only [onPublishMsgMatch]
    by_cases hone : header.fanout = 1
    · simp only [hone, if_true]
      rcases f.subscriptionTable.matchOne (AgentType.ofProto destination) destination.agentId
          conn conditions.rng with e | found
      · exact List.nodup_nil
      · exact List.nodup_singleton found
    · simp only [hone, if_false]
      rcases f.subscriptionTable.matchAll_cases (AgentType.ofProto destination)
          destination.agentId conn conditions.matchOrder with
        ⟨out, isLocal, hout, -, hnodup, -⟩ | ⟨hnone, -⟩
      · rw [hout]
        exact hnodup hunique
      · rw [hnone]
        exact List.nodup_nil
  · exact List.nodup_singleton outConn

/-- A publication goes back only if it names the connection. -/
theorem forwardTo_of_mem_outputs
    (hback : conn ∈ f.outputs header destination conn conditions) : header.forwardTo ≠ none := by
  intro hforward
  simp only [outputs, hforward, onPublishMsgMatch] at hback
  by_cases hone : header.fanout = 1
  · simp only [hone, if_true] at hback
    rcases hfound : f.subscriptionTable.matchOne (AgentType.ofProto destination)
        destination.agentId conn conditions.rng with e | found
    · simp [hfound] at hback
    · obtain ⟨isLocal, hsound⟩ := SubscriptionTableImpl.matchOne_sound hfound
      simp only [hfound] at hback
      exact hsound.not_incoming hback
  · simp only [hone, if_false] at hback
    rcases hfound : f.subscriptionTable.matchAll (AgentType.ofProto destination)
        destination.agentId conn conditions.matchOrder with e | out
    · simp [hfound] at hback
    · obtain ⟨isLocal, hsound⟩ := SubscriptionTableImpl.matchAll_sound hfound
      simp only [hfound] at hback
      exact hsound.not_incoming hback

/-- A publication with fan-out 1 goes to one connection at most. -/
theorem length_outputs_le_one (hone : header.fanout = 1) :
    (f.outputs header destination conn conditions).length ≤ 1 := by
  unfold outputs
  rcases header.forwardTo with _ | outConn
  · simp only [onPublishMsgMatch, hone, if_true]
    rcases f.subscriptionTable.matchOne (AgentType.ofProto destination) destination.agentId
        conn conditions.rng with e | found
    · simp
    · simp
  · simp

end Outputs

variable [NameHash] {f : Forwarder Connection} {V : Type}

/-- A node sends one copy to a connection, none of them back, unless the message asks for
    it. -/
theorem answers_respond (hunique : f.subscriptionTable.table.Unique)
    (c : Flooding.Copy V Nat ProtoMessage) (conditions : Conditions) :
    Flooding.State.Answers ProtoMessage.NamesOutput c
      (f.respond c.port c.message conditions).2 where
  once := by
    rcases f.respond_cases c.port c.message conditions with
      hnothing | ⟨processed, hhandled, hresponse⟩ | ⟨header, destination, hmsg⟩
    · rw [hnothing]
      exact List.nodup_nil
    · rw [hresponse]
      rcases processed.sent with _ | sent
      · exact List.nodup_nil
      · exact List.nodup_singleton _
    · rw [hmsg.respond, List.map_map]
      change (List.map (fun outConn => outConn) _).Nodup
      rw [List.map_id']
      exact (nodup_outputs hunique).sublist (List.takeWhile_sublist _)
  back := by
    intro hback
    rcases f.respond_cases c.port c.message conditions with
      hnothing | ⟨processed, hhandled, hresponse⟩ | ⟨header, destination, hmsg⟩
    · rw [hnothing] at hback
      cases hback
    · obtain ⟨add, content, hreads⟩ := reads_of_handled hhandled
      obtain ⟨header, source, found, hheader, hfields, -⟩ := hreads.header
      obtain ⟨incoming, forward, hconns, hforward⟩ :=
        SlimHeader.getInOutConnections_setIncomingConn content.header c.port
      obtain ⟨other, hother, houtcome⟩ :=
        handleNewMessage_outcome hreads f c.port hconns conditions.forwardError
      rw [hhandled, Except.ok.injEq, Handled.subscription.injEq] at hother
      subst hother
      rw [hresponse] at hback
      rw [namesOutput_iff hheader]
      have hsame : header.forwardTo = content.header.forwardTo :=
        congrArg SlimHeader.forwardTo hfields
      cases houtcome with
      | forwarded hconn hupdate hout hsend hsent =>
          rw [hsame, (hforward _ hout).2]
          exact Option.some_ne_none _
      | _ => cases hback
    · rw [hmsg.respond, List.map_map] at hback
      rw [namesOutput_iff hmsg.header_eq]
      obtain ⟨outConn, hout, hsame⟩ := List.mem_map.1 hback
      have hport : outConn = c.port := hsame
      rw [hport] at hout
      exact forwardTo_of_mem_outputs ((List.takeWhile_sublist _).subset hout)
  cleared := fun _ hanswer => (isCopy_of_mem_respond hanswer).not_namesOutput

end Forwarder

/-! ## The network -/

open Flooding (Copy)

/-- Which connection of a node leads to which connection of another node. -/
abbrev Topology (V : Type) := Flooding.Wiring V Nat

/-- The connections that lead to no other node are those of the applications. -/
def Topology.isLocal {V : Type} (W : Topology V) (v : V) (conn : Nat) : Bool :=
  (W.peer v conn).isNone

structure Mesh (V : Type) where
  nodes : V → Forwarder Connection
  messages : Flooding.State V Nat ProtoMessage

/-- An application hands a message to its node; a node handles a message that has arrived;
    a message is lost; the tables of a node change for another reason. -/
inductive MeshEvent (V : Type) where
  | send (v : V) (conn : Nat) (msg : ProtoMessage)
  | receive (k : Nat) (conditions : Conditions)
  | lose (k : Nat)
  | call (v : V) (call : ForwarderCall Connection)

namespace Mesh

variable {V : Type}

def new : Mesh V := ⟨fun _ => Forwarder.new, Flooding.State.empty⟩

variable [NameHash] [DecidableEq V] (W : Topology V)

def step (n : Mesh V) : MeshEvent V → Mesh V
  | .send v conn msg =>
      if W.isLocal v conn then { n with messages := n.messages.inject v conn msg } else n
  | .receive k conditions =>
      match n.messages.inFlight[k]? with
      | none => n
      | some c =>
          let (f, sent) := (n.nodes c.node).respond c.port c.message conditions
          ⟨Function.update n.nodes c.node f, n.messages.take W k sent⟩
  | .lose k => { n with messages := n.messages.take W k [] }
  | .call v call => { n with nodes := Function.update n.nodes v ((n.nodes v).exec call) }

/-- The flags of a call agree with the topology: the connections of applications are local,
    those to other nodes are not. -/
def RespectsAt (v : V) (f : Forwarder Connection) : ForwarderCall Connection → Prop
  | .connectionEstablished connection existingIndex =>
      ∀ index g, f.onConnectionEstablished connection existingIndex = .ok (some index, g) →
        connection.isLocalConnection = W.isLocal v index
  | .connectionDrop connIndex isLocal _ => isLocal = W.isLocal v connIndex
  | .subscriptionMsg _ _ connIndex isLocal _ => isLocal = W.isLocal v connIndex
  | .forwardedSubscription _ _ _ _ _ => True

def Respects (n : Mesh V) : MeshEvent V → Prop
  | .call v call => RespectsAt W v (n.nodes v) call
  | _ => True

/-- The tables of a node agree with the topology. -/
structure Fits (v : V) (f : Forwarder Connection) : Prop where
  coherent : f.subscriptionTable.Coherent
  listed : ∀ conn, f.subscriptionTable.table.ListedOn conn (sideIndex (W.isLocal v conn))
  typed : ∀ {conn connection}, f.getConnection conn = some connection →
    connection.isLocalConnection = W.isLocal v conn

variable {W} {v : V} {f g : Forwarder Connection}

omit [NameHash] [DecidableEq V] in
theorem fits_new : Fits W v Forwarder.new where
  coherent := SubscriptionTableImpl.consistent_default.toCoherent
  listed := by
    intro conn agent side hmem
    cases hmem
  typed := by
    intro conn connection hget
    simp only [Forwarder.getConnection, Forwarder.new, Pool.get, Pool.withCapacity,
      List.getElem?_replicate] at hget
    split at hget
    · cases hget
    · cases hget

omit [NameHash] [DecidableEq V] in
/-- The connections after a call that respects the topology. -/
theorem Fits.typed_exec (hf : Fits W v f) {call : ForwarderCall Connection}
    (hrespects : RespectsAt W v f call) {conn : Nat} {connection : Connection}
    (hget : (f.exec call).getConnection conn = some connection) :
    connection.isLocalConnection = W.isLocal v conn := by
  cases call with
  | connectionEstablished added existingIndex =>
      cases existingIndex with
      | none =>
          have hadded := hrespects _ _ rfl
          simp only [Forwarder.exec, Forwarder.onConnectionEstablished, Forwarder.getConnection,
            Pool.get_insert] at hget
          split at hget
          · rename_i hindex
            cases hget
            rw [hindex]
            exact hadded
          · exact hf.typed hget
      | some index =>
          simp only [Forwarder.exec] at hget
          rcases hplaced : f.onConnectionEstablished added (some index) with
            panic | ⟨_ | found, g⟩
          · rw [hplaced] at hget
            exact hf.typed hget
          · -- beyond the capacity nothing is put in
            rw [hplaced] at hget
            simp only [Forwarder.onConnectionEstablished, Pool.insertAt] at hplaced
            split at hplaced
            · cases hplaced
            · rename_i hinserted
              split at hinserted
              · cases hinserted
                cases hplaced
                exact hf.typed hget
              · split at hinserted
                · cases hinserted
                  cases hplaced
                · cases hinserted
          · have hadded := hrespects _ _ hplaced
            obtain ⟨rfl, -, -, hconnections⟩ := DataPath.established_at hplaced
            rw [hplaced] at hget
            simp only [hconnections] at hget
            split at hget
            · rename_i hindex
              cases hget
              rw [hindex]
              exact hadded
            · exact hf.typed hget
  | connectionDrop connIndex isLocal order =>
      simp only [Forwarder.exec, Forwarder.onConnectionDrop, Forwarder.getConnection,
        Pool.get_remove] at hget
      split at hget
      · cases hget
      · exact hf.typed hget
  | subscriptionMsg agentType agentId connIndex isLocal add => exact hf.typed hget
  | forwardedSubscription source nameType nameAgentId connIndex add => exact hf.typed hget

omit [NameHash] [DecidableEq V] in
theorem Fits.exec (hf : Fits W v f) {call : ForwarderCall Connection}
    (hrespects : RespectsAt W v f call) : Fits W v (f.exec call) := by
  have hflag : ∀ inner, call.tableCall = some inner →
      inner.isLocal = W.isLocal v inner.conn := by
    intro inner hinner
    cases call with
    | connectionEstablished added existingIndex => cases hinner
    | connectionDrop connIndex isLocal order =>
        cases hinner
        exact hrespects
    | subscriptionMsg agentType agentId connIndex isLocal add =>
        cases add with
        | true =>
            cases hinner
            exact hrespects
        | false =>
            cases hinner
            exact hrespects
    | forwardedSubscription source nameType nameAgentId connIndex add => cases hinner
  refine ⟨?_, ?_, hf.typed_exec hrespects⟩
  · rw [Forwarder.subscriptionTable_exec]
    rcases hinner : call.tableCall with _ | inner
    · exact hf.coherent
    · apply hf.coherent.exec
      rw [SubscriptionTableImpl.Honest, hflag inner hinner]
      exact hf.listed inner.conn
  · rw [Forwarder.subscriptionTable_exec]
    rcases hinner : call.tableCall with _ | inner
    · exact hf.listed
    · exact SubscriptionTableImpl.listedOn_exec hf.listed (hflag inner hinner)

omit [DecidableEq V] in
/-- A message that is handled keeps the tables in agreement with the topology. -/
theorem Fits.respond (hf : Fits W v f) (conn : Nat) (msg : ProtoMessage)
    (conditions : Conditions) : Fits W v (f.respond conn msg conditions).1 := by
  rcases f.respond_cases conn msg conditions with
    hnothing | ⟨processed, hhandled, hresponse⟩ | ⟨header, destination, hmsg⟩
  · rw [hnothing]
    exact hf
  · obtain ⟨add, content, hreads⟩ := reads_of_handled hhandled
    obtain ⟨incoming, forward, hconns, -⟩ :=
      SlimHeader.getInOutConnections_setIncomingConn content.header conn
    obtain ⟨other, hother, houtcome⟩ :=
      handleNewMessage_outcome hreads f conn hconns conditions.forwardError
    rw [hhandled, Except.ok.injEq, Handled.subscription.injEq] at hother
    subst hother
    rw [hresponse]
    -- the table is updated for a connection that was looked up
    have hupdated : ∀ {connection : Connection} {result : Except SubscriptionTableError Unit}
        {g : Forwarder Connection}, f.getConnection incoming = some connection →
        f.onSubscriptionMsg content.agentType content.agentId incoming
          connection.isLocalConnection add = (result, g) → Fits W v g := by
      intro connection result g hconn hupdate
      have hexec : Fits W v (f.exec (.subscriptionMsg content.agentType content.agentId incoming
          connection.isLocalConnection add)) := hf.exec (hf.typed hconn)
      simp only [Forwarder.exec, hupdate] at hexec
      exact hexec
    cases houtcome with
    | unconnected hnone => exact hf
    | failed hconn hupdate => exact hupdated hconn hupdate
    | updated hconn hupdate hforward => exact hupdated hconn hupdate
    | unsent hconn hupdate hforward hsend => exact hupdated hconn hupdate
    | @forwarded connection g outConn sent hconn hupdate hforward hsend hsent =>
        have hexec : Fits W v (g.exec (.forwardedSubscription content.source content.agentType
          content.agentId outConn add)) := (hupdated hconn hupdate).exec trivial
        exact hexec
  · rw [hmsg.respond]
    exact hf

/-- The copy is the message itself, or the message as a node sends it on. -/
def Carries (original copy : ProtoMessage) : Prop := copy = original ∨ IsCopy original copy

/-- Every copy goes back to a message that was sent. -/
theorem descends_step {n : Mesh V} (hn : n.messages.Descends Carries)
    (event : MeshEvent V) : (n.step W event).messages.Descends Carries := by
  cases event with
  | send v conn msg =>
      simp only [Mesh.step]
      split
      · exact hn.inject v conn (.inl rfl)
      · exact hn
  | receive k conditions =>
      simp only [Mesh.step]
      rcases hget : n.messages.inFlight[k]? with _ | c
      · exact hn
      apply hn.take
      intro d hd original horiginal answer hanswer
      rw [hget, Option.some.injEq] at hd
      subst hd
      have hcopy := Forwarder.isCopy_of_mem_respond hanswer
      rcases horiginal with hsame | hdescends
      · exact .inr (hsame ▸ hcopy)
      · exact .inr (hdescends.trans hcopy)
  | lose k =>
      apply hn.take
      intro c hc original horiginal answer hanswer
      cases hanswer
  | call v call => exact hn

/-! ### At most once -/

/-- What holds of the network all along a run. -/
structure Sound (W : Topology V) (n : Mesh V) : Prop where
  fits : ∀ v, Fits W v (n.nodes v)
  once : n.messages.AtMostOnce W ProtoMessage.NamesOutput
  descends : n.messages.Descends Carries

omit [NameHash] [DecidableEq V] in
theorem sound_new : Sound W (new : Mesh V) where
  fits := fun _ => fits_new
  once := Flooding.State.atMostOnce_empty
  descends := Flooding.State.descends_empty

omit [NameHash] in
theorem fits_update {nodes : V → Forwarder Connection} (hnodes : ∀ v, Fits W v (nodes v))
    (hg : Fits W v g) (w : V) : Fits W w (Function.update nodes v g w) := by
  by_cases hw : w = v
  · subst hw
    rw [Function.update_self]
    exact hg
  · rw [Function.update_of_ne hw]
    exact hnodes w

theorem Sound.step {n : Mesh V} (hn : n.Sound W) (hforest : W.IsForest)
    (event : MeshEvent V) (hrespects : n.Respects W event) : (n.step W event).Sound W := by
  have hdescends := descends_step hn.descends (W := W) event
  cases event with
  | send v conn msg =>
      simp only [Mesh.step] at hdescends ⊢
      split
      · rename_i hlocal
        rw [if_pos hlocal] at hdescends
        exact ⟨hn.fits, hn.once.inject (Option.isNone_iff_eq_none.1 hlocal) msg, hdescends⟩
      · exact hn
  | receive k conditions =>
      simp only [Mesh.step] at hdescends ⊢
      rcases hget : n.messages.inFlight[k]? with _ | c
      · exact hn
      rw [hget] at hdescends
      refine ⟨fits_update hn.fits ((hn.fits c.node).respond _ _ _), ?_, hdescends⟩
      apply hn.once.take hforest
      intro d hd
      rw [hget, Option.some.injEq] at hd
      subst hd
      exact Forwarder.answers_respond (hn.fits c.node).coherent.unique c conditions
  | lose k =>
      refine ⟨hn.fits, ?_, hdescends⟩
      apply hn.once.take hforest
      intro c hc
      exact ⟨List.nodup_nil, (fun hback => by cases hback), fun _ hanswer => by cases hanswer⟩
  | call v call => exact ⟨fits_update hn.fits ((hn.fits v).exec hrespects), hn.once, hn.descends⟩

/-- In a network without cycles whose connections lead to the same place for the whole run,
    whatever is sent, lost, refused or changed in the meantime, every node takes a message at
    most once, every application gets it at most once, as it was sent but for the connections
    in its header, and the application that has sent it does not get it back unless the message
    has named a connection. -/
theorem messages_arrive_at_most_once (hforest : W.IsForest)
    (events : List (MeshEvent V))
    (hevents : Runs.Along (Mesh.step W) (Respects W) new events) :
    let messages := (Runs.run (Mesh.step W) new events).messages
    (messages.taken.map Copy.place).Nodup ∧ (messages.delivered.map Copy.position).Nodup ∧
      ∀ d ∈ messages.delivered, ∃ origin, messages.origins[d.tag]? = some origin ∧
        Carries origin.message d.message ∧
        (origin.node = d.node → origin.port = d.port → origin.message.NamesOutput) := by
  have hsound := Runs.run_invariant (I := fun n : Mesh V => n.Sound W)
    (fun n event hn hrespects => hn.step hforest event hrespects) events new hevents sound_new
  refine ⟨?_, hsound.once.exits, ?_⟩
  · have hplaces := hsound.once.places
    rw [Flooding.State.copies, List.map_append] at hplaces
    exact hplaces.of_append_left
  · intro d hd
    obtain ⟨origin, horigin, hcarries⟩ := hsound.descends d (List.mem_append_right _ hd)
    exact ⟨origin, horigin, hcarries, hsound.once.asksBack_of_origin hd horigin⟩

/-- Two nodes that are connected through a third one. -/
inductive SampleNode where
  | left
  | hub
  | right
deriving DecidableEq, Repr

/-- Connection 0 of both outer nodes leads to the hub. -/
def sampleTopology : Topology SampleNode where
  peer := fun v conn =>
    match v, conn with
    | .left, 0 => some (.hub, 0)
    | .right, 0 => some (.hub, 1)
    | .hub, 0 => some (.left, 0)
    | .hub, 1 => some (.right, 0)
    | _, _ => none
  symm := by
    intro v w p q hpeer
    split at hpeer
    all_goals cases hpeer
    all_goals rfl

omit [NameHash] in
theorem sampleTopology_isForest : sampleTopology.IsForest where
  irrefl := by
    intro v p q hpeer
    simp only [sampleTopology] at hpeer
    split at hpeer
    all_goals cases hpeer
  simple := by
    intro v w p p' q q' hpeer hpeer'
    simp only [sampleTopology] at hpeer hpeer'
    split at hpeer
    all_goals cases hpeer
    all_goals
      split at hpeer'
      all_goals cases hpeer'
      all_goals rfl
  acyclic := by
    apply SimpleGraph.IsAcyclic.anti _ (SimpleGraph.isAcyclic_starGraph SampleNode.hub)
    rintro v w ⟨-, p, q, hpeer⟩
    rw [SimpleGraph.starGraph_adj]
    simp only [sampleTopology] at hpeer
    split at hpeer
    all_goals cases hpeer
    all_goals decide

/-- Every node has its connections.  The application at the right node is subscribed, and
    the other two nodes have a route to it. -/
def sampleSetup : List (MeshEvent SampleNode) :=
  [.call .left (.connectionEstablished ⟨.server, .Remote⟩ none),
    .call .left (.connectionEstablished ⟨.server, .Local⟩ none),
    .call .hub (.connectionEstablished ⟨.server, .Remote⟩ none),
    .call .hub (.connectionEstablished ⟨.server, .Remote⟩ none),
    .call .right (.connectionEstablished ⟨.server, .Remote⟩ none),
    .call .right (.connectionEstablished ⟨.server, .Local⟩ none),
    .call .left (.subscriptionMsg sampleType (some 1) 0 false true),
    .call .hub (.subscriptionMsg sampleType (some 1) 1 false true),
    .call .right (.subscriptionMsg sampleType (some 1) 1 true true)]

def sampleConditions : Conditions := ⟨Rng.zero, IterOrder.stored, fun _ => none, none⟩

/-- The application at the left node publishes, and its message is handled where it
    comes. -/
def sampleEvents : List (MeshEvent SampleNode) :=
  sampleSetup ++ [.send .left 1 Forwarder.samplePublication, .receive 0 sampleConditions,
    .receive 0 sampleConditions, .receive 0 sampleConditions]

omit [NameHash] in
theorem sampleEvents_respect :
    Runs.Along (@step _ sampleHash _ sampleTopology) (Respects sampleTopology) new
      sampleEvents := by
  refine ⟨?_, ?_, ?_, ?_, ?_, ?_, rfl, rfl, rfl, trivial, trivial, trivial, trivial, trivial⟩
  all_goals
    intro index g hplaced
    cases hplaced
    rfl

omit [NameHash] in
theorem messages_arrive_at_most_once_sample :
    let messages := (Runs.run (@step _ sampleHash _ sampleTopology) new sampleEvents).messages
    messages.delivered.map Copy.position = [(0, .right, 1)] ∧
      (messages.taken.map Copy.place).Nodup ∧ (messages.delivered.map Copy.position).Nodup := by
  obtain ⟨htaken, hdelivered, -⟩ := @messages_arrive_at_most_once _ sampleHash _ sampleTopology
    sampleTopology_isForest sampleEvents sampleEvents_respect
  exact ⟨rfl, htaken, hdelivered⟩

/-! ### One of many -/

omit [NameHash] [DecidableEq V] in
/-- The fan-out of a message stays with its copies. -/
theorem Carries.getFanout {original copy : ProtoMessage} (hcarries : Carries original copy)
    {fanout : UInt32} (hfanout : original.getFanout = .ok fanout) :
    copy.getFanout = .ok fanout := by
  rcases hcarries with rfl | ⟨header, conn, hheader, rfl⟩
  · exact hfanout
  · rw [ProtoMessage.getFanout, ProtoMessage.getSlimHeader_of_some hheader] at hfanout
    rw [ProtoMessage.getFanout, ProtoMessage.getSlimHeader_of_some
      (ProtoMessage.tryGetSlimHeader_withHeader hheader _)]
    exact hfanout

omit [DecidableEq V] in
theorem length_respond_le_one {msg : ProtoMessage} (hfanout : msg.getFanout = .ok 1)
    (f : Forwarder Connection) (conn : Nat) (conditions : Conditions) :
    (f.respond conn msg conditions).2.length ≤ 1 := by
  rcases f.respond_cases conn msg conditions with
    hnothing | ⟨processed, -, hresponse⟩ | ⟨header, destination, hmsg⟩
  · simp [hnothing]
  · rw [hresponse]
    rcases processed.sent with _ | sent
    · simp
    · simp
  · rw [ProtoMessage.getFanout, ProtoMessage.getSlimHeader_of_some hmsg.header_eq, bind_ok]
      at hfanout
    simp only [pure, Except.pure, Except.ok.injEq] at hfanout
    rw [hmsg.respond, List.length_map]
    exact (List.takeWhile_sublist _).length_le.trans (Forwarder.length_outputs_le_one hfanout)

/-- A message with fan-out 1 has one copy at most. -/
structure Single (n : Mesh V) : Prop where
  descends : n.messages.Descends Carries
  live : ∀ {tag : Nat} {origin : Copy V Nat ProtoMessage},
    n.messages.origins[tag]? = some origin → origin.message.getFanout = .ok 1 →
    n.messages.live tag ≤ 1

theorem Single.step {n : Mesh V} (hn : n.Single) (event : MeshEvent V) :
    (n.step W event).Single := by
  refine ⟨descends_step hn.descends event, ?_⟩
  intro tag origin horigin hfanout
  cases event with
  | send v conn msg =>
      simp only [Mesh.step] at horigin ⊢
      split
      · rename_i hlocal
        rw [if_pos hlocal] at horigin
        rw [Flooding.State.live_inject fun c hc => hn.descends.tag_lt hc]
        split
        · exact le_rfl
        · rename_i hold
          apply hn.live _ hfanout
          have hlt := (List.getElem?_eq_some_iff.1 horigin).1
          simp only [Flooding.State.inject, List.length_append, List.length_singleton] at hlt
          rw [← horigin]
          exact (List.getElem?_append_left (by omega)).symm
      · rename_i hlocal
        rw [if_neg hlocal] at horigin
        exact hn.live horigin hfanout
  | receive k conditions =>
      simp only [Mesh.step] at horigin ⊢
      rcases hget : n.messages.inFlight[k]? with _ | c
      · rw [hget] at horigin
        exact hn.live horigin hfanout
      rw [hget] at horigin
      simp only [Flooding.State.take_eq hget] at horigin
      apply le_trans (Flooding.State.live_take W n.messages k tag _ _) (hn.live horigin hfanout)
      intro d hd htag
      rw [hget, Option.some.injEq] at hd
      subst hd
      obtain ⟨found, hfound, hcarries⟩ :=
        hn.descends c (List.mem_append_left _ (List.mem_of_getElem? hget))
      rw [htag, horigin, Option.some.injEq] at hfound
      subst hfound
      exact length_respond_le_one (hcarries.getFanout hfanout) _ _ _
  | lose k =>
      have hsame : (n.messages.take W k []).origins = n.messages.origins := by
        unfold Flooding.State.take
        split
        · rfl
        · rfl
      simp only [Mesh.step, hsame] at horigin ⊢
      exact le_trans (Flooding.State.live_take W n.messages k tag [] fun _ _ _ => Nat.zero_le 1)
        (hn.live horigin hfanout)
  | call v call => exact hn.live horigin hfanout

/-- Whatever the topology, with cycles or without, a message with fan-out 1 comes to one
    application at most, and while it is on its way it has come to none. -/
theorem one_copy_of_single (events : List (MeshEvent V)) {tag : Nat}
    {origin : Copy V Nat ProtoMessage}
    (horigin : (Runs.run (Mesh.step W) new events).messages.origins[tag]? = some origin)
    (hfanout : origin.message.getFanout = .ok 1) :
    (Runs.run (Mesh.step W) new events).messages.live tag ≤ 1 := by
  have hsingle := Runs.run_invariant (I := fun n : Mesh V => n.Single)
    (P := fun _ _ => True) (fun n event hn _ => hn.step (W := W) event) events new
    (Runs.along_of_forall events new fun _ _ => trivial)
    ⟨Flooding.State.descends_empty, fun hnone => by cases hnone⟩
  exact hsingle.live horigin hfanout

/-- The application at the left node asks for one subscriber. -/
def singlePublication : ProtoMessage :=
  ProtoMessage.newPublish ⟨sampleType, 7⟩ sampleType (some 1)
    (some { SlimHeaderFlags.default with fanout := 1 }) "text" []

omit [NameHash] in
theorem one_copy_of_single_sample :
    let n := Runs.run (@step _ sampleHash _ sampleTopology) new
      (sampleSetup ++ [.send .left 1 singlePublication, .receive 0 sampleConditions,
        .receive 0 sampleConditions, .receive 0 sampleConditions])
    n.messages.delivered.map Copy.position = [(0, .right, 1)] ∧ n.messages.live 0 ≤ 1 :=
  ⟨rfl, @one_copy_of_single _ sampleHash _ sampleTopology _ 0
    ⟨0, .left, 1, singlePublication⟩ rfl rfl⟩

end Mesh

end Slim
