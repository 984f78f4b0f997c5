import Slim.MessageProcessing

/-!
# A subscription from the application to the tables

An application subscribes through `Service`, which builds a message and sends it over
the connection of the application; the node then handles the message.  Here a message
is handled in one go, from the fields of the message on; `run_steps_outcome` says that
this is what the steps of a task do when no other task comes in between.
-/

namespace Slim

open HashKey Machine
open SubscriptionTableImpl (agentOf sampleType)

/-! ## Handling a message -/

/-- What `create_span` reads of a message. -/
def createSpan (msg : ProtoMessage) : Except AccessPanic Unit := do
  let _ ← msg.getSource
  let _ ← msg.getNameAsAgent
  match ← msg.getType with
  | .publish _ => do
      let _ ← msg.getHeaderType
      let _ ← msg.getSessionHeader
      return ()
  | _ => return ()

/-- What a node has done with a subscription: the result, the tables after it, and the
    message it has handed to another connection, if any. -/
structure Processed where
  result : Except DataPathError Unit
  forwarder : Forwarder Connection
  sent : Option (Nat × ProtoMessage)

/-- What `handle_new_message` has done: the message is refused by `validate`, or passed
    on to `process_publish` or to `process_subscription`. -/
inductive Handled where
  | invalid (error : MessageError)
  | publication (msg : ProtoMessage)
  | subscription (processed : Processed)

namespace Forwarder

variable [NameHash]

/-- `send_msg` with the message it hands over: the header is cleared first. -/
def transmit (f : Forwarder Connection) (msg : ProtoMessage) (outConn : Nat)
    (sendError : Option String) : Except AccessPanic (Except DataPathError ProtoMessage) :=
  match f.getConnection outConn with
  | none => return (f.sendMsg outConn sendError).map fun _ => msg
  | some _ => do
      let cleared ← msg.clearSlimHeader
      createSpan cleared
      return (f.sendMsg outConn sendError).map fun _ => cleared

def processSubscription (f : Forwarder Connection) (msg : ProtoMessage) (add : Bool)
    (sendError : Option String) : Except AccessPanic Processed := do
  let (agentType, agentId) ← msg.getName
  let (conn, forward) ← msg.getInOutConnections
  match f.getConnection conn with
  | none => return ⟨.error (.subscriptionError "connection not found"), f, none⟩
  | some connection =>
      match f.onSubscriptionMsg agentType agentId conn connection.isLocalConnection add with
      | (.error e, g) => return ⟨.error (.subscriptionError e.display), g, none⟩
      | (.ok (), g) =>
          match forward with
          | none => return ⟨.ok (), g, none⟩
          | some outConn => do
              let source ← msg.getSource
              match ← g.transmit msg outConn sendError with
              | .error e => return ⟨.error (.unsubscriptionError e.display), g, none⟩
              | .ok sent =>
                  return ⟨.ok (), g.onForwardedSubscription source agentType agentId outConn add,
                    some (outConn, sent)⟩

def handleNewMessage (f : Forwarder Connection) (connIndex : Nat) (msg : ProtoMessage)
    (sendError : Option String) : Except AccessPanic Handled :=
  match msg.validate with
  | .error e => return .invalid e
  | .ok () => do
      let stamped ← msg.setIncomingConn (some connIndex)
      createSpan stamped
      match ← stamped.getType with
      | .subscribe _ => return .subscription (← f.processSubscription stamped true sendError)
      | .unsubscribe _ => return .subscription (← f.processSubscription stamped false sendError)
      | .publish _ => return .publication stamped

end Forwarder

/-! ## What `send_msg` reads -/

section Readable

variable {msg : ProtoMessage}

/-- The span of a message depends on the names in the header only. -/
theorem createSpan_withHeader {header changed : ProtoSlimHeader}
    (hheader : msg.tryGetSlimHeader = some header) (hsource : changed.source = header.source)
    (hdestination : changed.destination = header.destination) :
    createSpan (msg.withHeader changed) = createSpan msg := by
  have hslim := ProtoMessage.getSlimHeader_of_some
    (ProtoMessage.tryGetSlimHeader_withHeader hheader changed)
  unfold createSpan ProtoMessage.getSource ProtoMessage.getNameAsAgent ProtoMessage.getDst
    ProtoMessage.getHeaderType
  simp only [hslim, ProtoMessage.getSlimHeader_of_some hheader, bind_ok,
    ProtoMessage.getSessionHeader_withHeader, ProtoSlimHeader.getSource, ProtoSlimHeader.getDst,
    hsource, hdestination, ProtoMessage.getType]
  unfold ProtoMessage.withHeader
  rcases msg.messageType with _ | ⟨publish⟩ | ⟨subscribe⟩ | ⟨unsubscribe⟩
  all_goals rfl

/-- A message whose span could be made has all that `send_msg` reads. -/
structure Readable (msg cleared : ProtoMessage) : Prop where
  clear : msg.clearSlimHeader = .ok cleared
  span : createSpan cleared = .ok ()

/-- What is handed over is the message with a cleared header, if the send succeeds. -/
theorem Readable.transmit {cleared : ProtoMessage} (hs : Readable msg cleared)
    (f : Forwarder Connection) (outConn : Nat) (sendError : Option String) :
    f.transmit msg outConn sendError =
      .ok ((f.sendMsg outConn sendError).map fun _ => cleared) := by
  unfold Forwarder.transmit
  rcases hconn : f.getConnection outConn with _ | connection
  · simp only [Forwarder.sendMsg, hconn]
    rfl
  · simp only [hs.clear, hs.span, bind_ok]
    rfl

end Readable

/-! ## What a subscription message reads -/

namespace ProtoMessage

/-- Whether the message adds or removes a subscription, if it does one of these. -/
def subscriptionKind (msg : ProtoMessage) : Option Bool :=
  match msg.messageType with
  | some (.subscribe _) => some true
  | some (.unsubscribe _) => some false
  | _ => none

@[simp] theorem subscriptionKind_withHeader (msg : ProtoMessage) (header : ProtoSlimHeader) :
    (msg.withHeader header).subscriptionKind = msg.subscriptionKind := by
  unfold subscriptionKind withHeader
  rcases msg.messageType with _ | ⟨publish⟩ | ⟨subscribe⟩ | ⟨unsubscribe⟩
  all_goals rfl

/-- The name of a message does not depend on the other fields of the header. -/
theorem getName_withHeader [NameHash] {msg : ProtoMessage} {header changed : ProtoSlimHeader}
    (hheader : msg.tryGetSlimHeader = some header)
    (hsame : changed.destination = header.destination) :
    (msg.withHeader changed).getName = msg.getName := by
  have hdst : (msg.withHeader changed).getDst = msg.getDst := by
    simp only [getDst, getSlimHeader_of_some hheader,
      getSlimHeader_of_some (tryGetSlimHeader_withHeader hheader changed), bind_ok,
      ProtoSlimHeader.getDst, hsame]
  unfold getName
  rw [hdst]
  rcases htype : msg.messageType with _ | ⟨publish⟩ | ⟨subscribe⟩ | ⟨unsubscribe⟩
  all_goals
    simp only [withHeader, htype]
    rfl

/-- The message is a subscription (`add`) or an unsubscription with this content. -/
structure Reads [NameHash] (msg : ProtoMessage) (add : Bool) (content : SubscriptionMessage) :
    Prop where
  kind : msg.subscriptionKind = some add
  header : ∃ header source destination, msg.tryGetSlimHeader = some header ∧
    header.toSlimHeader = content.header ∧ header.source = some source ∧
    Agent.ofProto source = .ok content.source ∧ header.destination = some destination
  name : msg.getName = .ok (content.agentType, content.agentId)

section Reads

variable [NameHash] {msg : ProtoMessage} {add : Bool} {content : SubscriptionMessage}

/-- A subscription with its header and both names has a content, if the source has an id. -/
theorem reads_of_header {header : ProtoSlimHeader} {source destination : ProtoAgent}
    {agent : Agent} (hkind : msg.subscriptionKind = some add)
    (hheader : msg.tryGetSlimHeader = some header) (hsource : header.source = some source)
    (hagent : Agent.ofProto source = .ok agent)
    (hdestination : header.destination = some destination) :
    ∃ content, msg.Reads add content ∧ content.header = header.toSlimHeader := by
  have hname : ∃ name, msg.getName = .ok name := by
    unfold getName
    rw [getDst_of_some hheader hdestination]
    rcases msg.messageType with _ | ⟨publish⟩ | ⟨subscribe⟩ | ⟨unsubscribe⟩
    all_goals exact ⟨_, rfl⟩
  obtain ⟨⟨agentType, agentId⟩, hname⟩ := hname
  exact ⟨⟨header.toSlimHeader, agent, agentType, agentId⟩, ⟨hkind, ⟨header, source, destination,
    hheader, rfl, hsource, hagent, hdestination⟩, hname⟩, rfl⟩

theorem Reads.validate (hreads : msg.Reads add content) : msg.validate = .ok () := by
  obtain ⟨header, source, destination, hheader, -, hsource, -, hdestination⟩ := hreads.header
  apply validate_ok_iff.2
  refine ⟨header, source, destination, hheader, hsource, hdestination, ?_⟩
  intro publish hpublish
  have hkind := hreads.kind
  simp only [subscriptionKind, hpublish] at hkind
  cases hkind

theorem Reads.getSource (hreads : msg.Reads add content) : msg.getSource = .ok content.source := by
  obtain ⟨header, source, destination, hheader, -, hsource, hagent, -⟩ := hreads.header
  rw [getSource_of_some hheader hsource, hagent]

theorem Reads.getInOutConnections (hreads : msg.Reads add content) :
    msg.getInOutConnections =
      orPanic .incomingConnectionNotFound content.header.getInOutConnections := by
  obtain ⟨header, source, destination, hheader, hfields, -⟩ := hreads.header
  simp only [ProtoMessage.getInOutConnections, getSlimHeader_of_some hheader, bind_ok,
    ProtoSlimHeader.getInOutConnections, hfields]

theorem Reads.createSpan (hreads : msg.Reads add content) : createSpan msg = .ok () := by
  obtain ⟨header, source, destination, hheader, -, -, -, hdestination⟩ := hreads.header
  have hname : msg.getNameAsAgent = .ok ⟨AgentType.ofProto destination,
      destination.agentId.getD DEFAULT_AGENT_ID⟩ := by
    rw [getNameAsAgent, getDst_of_some hheader hdestination]
    rfl
  have hkind := hreads.kind
  unfold subscriptionKind at hkind
  simp only [Slim.createSpan, hreads.getSource, hname, bind_ok, getType]
  rcases htype : msg.messageType with _ | ⟨publish⟩ | ⟨subscribe⟩ | ⟨unsubscribe⟩
  all_goals simp only [htype] at hkind
  any_goals cases hkind
  all_goals rfl

/-- A change of the connections in the header. -/
theorem Reads.modifySlimHeader (hreads : msg.Reads add content)
    (change : ProtoSlimHeader → ProtoSlimHeader) (changed : SlimHeader)
    (hfields : ∀ header : ProtoSlimHeader, header.toSlimHeader = content.header →
      (change header).toSlimHeader = changed ∧ (change header).source = header.source ∧
        (change header).destination = header.destination) :
    ∃ left, msg.modifySlimHeader change = .ok left ∧
      left.Reads add { content with header := changed } := by
  obtain ⟨header, source, destination, hheader, hconns, hsource, hagent, hdestination⟩ :=
    hreads.header
  obtain ⟨hchanged, hsame, hdst⟩ := hfields header hconns
  refine ⟨_, modifySlimHeader_of_some change hheader, ?_, ?_, ?_⟩
  · rw [subscriptionKind_withHeader]
    exact hreads.kind
  · exact ⟨_, source, destination, tryGetSlimHeader_withHeader hheader _, hchanged,
      hsame.trans hsource, hagent, hdst.trans hdestination⟩
  · rw [getName_withHeader hheader hdst]
    exact hreads.name

/-- A subscription can be sent, and still reads as one with its cleared header. -/
theorem Reads.readable (hreads : msg.Reads add content) :
    ∃ cleared, Readable msg cleared ∧
      cleared.Reads add { content with header := ⟨none, none, content.header.incomingConn⟩ } := by
  obtain ⟨cleared, hcleared, hsent⟩ := hreads.modifySlimHeader
    ProtoSlimHeader.clear ⟨none, none, content.header.incomingConn⟩
    (by
      intro header hheader
      refine ⟨?_, rfl, rfl⟩
      rw [← hheader]
      rfl)
  exact ⟨cleared, ⟨hcleared, hsent.createSpan⟩, hsent⟩

end Reads

end ProtoMessage

/-! ## The outcomes of `process_subscription` -/

/-- What `process_subscription` can do with a message of this content, where `conn` is
    the connection it updates and `forward` the one it forwards to. -/
inductive Outcome [NameHash] (f : Forwarder Connection) (content : SubscriptionMessage)
    (add : Bool) (conn : Nat) (forward : Option Nat) (sendError : Option String) :
    Processed → Prop
  | unconnected (hnone : f.getConnection conn = none) :
      Outcome f content add conn forward sendError
        ⟨.error (.subscriptionError "connection not found"), f, none⟩
  | failed {connection : Connection} {e : SubscriptionTableError} {g : Forwarder Connection}
      (hconn : f.getConnection conn = some connection)
      (hupdate : f.onSubscriptionMsg content.agentType content.agentId conn
        connection.isLocalConnection add = (.error e, g)) :
      Outcome f content add conn forward sendError ⟨.error (.subscriptionError e.display), g, none⟩
  | updated {connection : Connection} {g : Forwarder Connection}
      (hconn : f.getConnection conn = some connection)
      (hupdate : f.onSubscriptionMsg content.agentType content.agentId conn
        connection.isLocalConnection add = (.ok (), g))
      (hforward : forward = none) :
      Outcome f content add conn forward sendError ⟨.ok (), g, none⟩
  | unsent {connection : Connection} {g : Forwarder Connection} {outConn : Nat}
      {e : DataPathError} (hconn : f.getConnection conn = some connection)
      (hupdate : f.onSubscriptionMsg content.agentType content.agentId conn
        connection.isLocalConnection add = (.ok (), g))
      (hforward : forward = some outConn) (hsend : g.sendMsg outConn sendError = .error e) :
      Outcome f content add conn forward sendError
        ⟨.error (.unsubscriptionError e.display), g, none⟩
  | forwarded {connection : Connection} {g : Forwarder Connection} {outConn : Nat}
      {sent : ProtoMessage} (hconn : f.getConnection conn = some connection)
      (hupdate : f.onSubscriptionMsg content.agentType content.agentId conn
        connection.isLocalConnection add = (.ok (), g))
      (hforward : forward = some outConn) (hsend : g.sendMsg outConn sendError = .ok ())
      (hsent : sent.Reads add
        { content with header := ⟨none, none, content.header.incomingConn⟩ }) :
      Outcome f content add conn forward sendError
        ⟨.ok (), g.onForwardedSubscription content.source content.agentType content.agentId
          outConn add, some (outConn, sent)⟩

section Outcome

variable [NameHash] {msg : ProtoMessage} {add : Bool} {content : SubscriptionMessage}

theorem processSubscription_outcome (hreads : msg.Reads add content) (f : Forwarder Connection)
    {conn : Nat} {forward : Option Nat}
    (hconns : content.header.getInOutConnections = some (conn, forward))
    (sendError : Option String) :
    ∃ processed, f.processSubscription msg add sendError = .ok processed ∧
      Outcome f content add conn forward sendError processed := by
  unfold Forwarder.processSubscription
  simp only [hreads.name, hreads.getInOutConnections, hconns, orPanic_some, bind_ok]
  rcases hconn : f.getConnection conn with _ | connection
  · exact ⟨_, rfl, .unconnected hconn⟩
  simp only []
  rcases hupdate : f.onSubscriptionMsg content.agentType content.agentId conn
      connection.isLocalConnection add with ⟨e | ⟨⟩, g⟩
  · exact ⟨_, rfl, .failed hconn hupdate⟩
  simp only []
  rcases hforward : forward with _ | outConn
  · exact ⟨_, rfl, .updated hconn hupdate rfl⟩
  simp only [hreads.getSource, bind_ok]
  obtain ⟨cleared, hreadable, hsent⟩ := hreads.readable
  simp only [hreadable.transmit, bind_ok]
  rcases hsend : g.sendMsg outConn sendError with e | ⟨⟩
  · exact ⟨_, rfl, .unsent hconn hupdate rfl hsend⟩
  · exact ⟨_, rfl, .forwarded hconn hupdate rfl hsend hsent⟩

/-- A message that reads as a subscription is handled as one. -/
theorem handleNewMessage_outcome (hreads : msg.Reads add content) (f : Forwarder Connection)
    (connIndex : Nat) {conn : Nat} {forward : Option Nat}
    (hconns : (content.header.setIncomingConn (some connIndex)).getInOutConnections =
      some (conn, forward))
    (sendError : Option String) :
    ∃ processed, f.handleNewMessage connIndex msg sendError = .ok (.subscription processed) ∧
      Outcome f { content with header := content.header.setIncomingConn (some connIndex) } add
        conn forward sendError processed := by
  obtain ⟨stamped, hstamped, hread⟩ := hreads.modifySlimHeader
    (fun header => { header with incomingConn := some connIndex })
    (content.header.setIncomingConn (some connIndex))
    (by
      intro header hheader
      refine ⟨?_, rfl, rfl⟩
      rw [← hheader]
      rfl)
  obtain ⟨processed, hprocessed, houtcome⟩ := processSubscription_outcome hread f hconns sendError
  refine ⟨processed, ?_, houtcome⟩
  have hkind := hread.kind
  unfold ProtoMessage.subscriptionKind at hkind
  simp only [Forwarder.handleNewMessage, hreads.validate, ProtoMessage.setIncomingConn, hstamped,
    hread.createSpan, bind_ok, ProtoMessage.getType]
  rcases htype : stamped.messageType with _ | ⟨publish⟩ | ⟨subscribe⟩ | ⟨unsubscribe⟩
  all_goals simp only [htype] at hkind
  any_goals cases hkind
  all_goals
    simp only [orPanic_some, bind_ok, hprocessed]
    rfl

/-- A message that is handled as a subscription reads as one. -/
theorem reads_of_handled {f : Forwarder Connection} {connIndex : Nat} {sendError : Option String}
    {processed : Processed}
    (hhandled : f.handleNewMessage connIndex msg sendError = .ok (.subscription processed)) :
    ∃ add content, msg.Reads add content := by
  unfold Forwarder.handleNewMessage at hhandled
  rcases hvalid : msg.validate with e | ⟨⟩
  · rw [hvalid] at hhandled
    cases hhandled
  obtain ⟨header, source, destination, hheader, hsource, hdestination, -⟩ :=
    ProtoMessage.validate_ok_iff.1 hvalid
  rw [hvalid] at hhandled
  obtain ⟨stamped, hstamped, hhandled⟩ := bind_eq_ok hhandled
  obtain ⟨⟨⟩, hspan, hhandled⟩ := bind_eq_ok hhandled
  obtain ⟨messageType, htype, hhandled⟩ := bind_eq_ok hhandled
  rw [ProtoMessage.setIncomingConn, ProtoMessage.modifySlimHeader_of_some _ hheader,
    Except.ok.injEq] at hstamped
  subst hstamped
  obtain ⟨agent, hagent, -⟩ := bind_eq_ok hspan
  have hgot := ProtoMessage.getSource_of_some (ProtoMessage.tryGetSlimHeader_withHeader hheader
    { header with incomingConn := some connIndex }) hsource
  rw [hgot] at hagent
  have hkind : ∃ add, msg.subscriptionKind = some add := by
    rw [← ProtoMessage.subscriptionKind_withHeader msg { header with
      incomingConn := some connIndex }]
    unfold ProtoMessage.getType at htype
    unfold ProtoMessage.subscriptionKind
    rcases hsome : (msg.withHeader { header with incomingConn := some connIndex }).messageType with
      _ | found
    · rw [hsome] at htype
      cases htype
    rw [hsome, orPanic_some, Except.ok.injEq] at htype
    subst htype
    cases found with
    | publish publish => cases hhandled
    | subscribe subscribe => exact ⟨true, rfl⟩
    | unsubscribe unsubscribe => exact ⟨false, rfl⟩
  obtain ⟨add, hkind⟩ := hkind
  obtain ⟨content, hreads, -⟩ :=
    ProtoMessage.reads_of_header hkind hheader hsource hagent hdestination
  exact ⟨add, content, hreads⟩

/-- The steps of a task, taken one after the other, do what the outcome says. -/
theorem run_steps_outcome {s : MessageProcessor} {i connIndex conn : Nat} {forward : Option Nat}
    {sendError : Option String} {processed : Processed} (hidle : (s.tasks i).isFinished = true)
    (hconns : (content.header.setIncomingConn (some connIndex)).getInOutConnections =
      some (conn, forward))
    (houtcome : Outcome s.forwarder
      { content with header := content.header.setIncomingConn (some connIndex) } add conn forward
      sendError processed) :
    Runs.run MessageProcessor.step s [.receive i connIndex content add, .advance i sendError,
        .advance i sendError, .advance i sendError] =
      { s with forwarder := processed.forwarder }.moveTo i (.returned processed.result) := by
  have hreceive : s.step (.receive i connIndex content add) = s.findConnection i
      { content with header := content.header.setIncomingConn (some connIndex) } add := by
    simp only [MessageProcessor.step, hidle, if_true, MessageProcessor.handleNewMessage]
  simp only [Runs.run_cons, Runs.run_nil, hreceive, MessageProcessor.findConnection, hconns]
  cases houtcome with
  | unconnected hnone =>
      simp [hnone, MessageProcessor.step, MessageProcessor.moveTo, MessageProcessor.resume]
  | failed hconn hupdate =>
      simp [hconn, hupdate, MessageProcessor.step, MessageProcessor.moveTo,
        MessageProcessor.resume]
  | updated hconn hupdate hforward =>
      simp [hconn, hupdate, hforward, MessageProcessor.step, MessageProcessor.moveTo,
        MessageProcessor.resume]
  | unsent hconn hupdate hforward hsend =>
      simp [hconn, hupdate, hforward, hsend, MessageProcessor.step, MessageProcessor.moveTo,
        MessageProcessor.resume]
  | forwarded hconn hupdate hforward hsend hsent =>
      simp [hconn, hupdate, hforward, hsend, MessageProcessor.step, MessageProcessor.moveTo,
        MessageProcessor.resume]

end Outcome

/-! ## All or nothing -/

namespace Forwarder

section AllOrNothing

/-- The update of the subscription table that the message asks for succeeds and leaves `g`. -/
structure Updates [NameHash] (f g : Forwarder Connection) (msg : ProtoMessage) (add : Bool)
    (agentType : AgentType) (agentId : Option UInt64) (conn : Nat) : Prop where
  name : msg.getName = .ok (agentType, agentId)
  conns : ∃ forward, msg.getInOutConnections = .ok (conn, forward)
  updated : ∃ connection, f.getConnection conn = some connection ∧
    f.onSubscriptionMsg agentType agentId conn connection.isLocalConnection add = (.ok (), g)

/-- The call succeeds exactly if the message need not be sent on or is sent; otherwise the
    tables are as before, and if it succeeds and the message is to be sent on, then the table
    is updated, the message is sent, and this is recorded. -/
structure AllOrNothing (f g : Forwarder Connection) (msg : ProtoMessage) (add : Bool)
    (agentType : AgentType) (agentId : Option UInt64) (sendError : Option String)
    (processed : Processed) : Prop where
  ok_iff : processed.result = .ok () ↔
    ∀ outConn, msg.getForwardTo = .ok (some outConn) → f.sendMsg outConn sendError = .ok ()
  nothing : ∀ e, processed.result = .error e →
    processed.forwarder.subscriptionTable = f.subscriptionTable ∧
      processed.forwarder.remoteSubscriptionTable = f.remoteSubscriptionTable
  all : ∀ outConn, processed.result = .ok () → msg.getForwardTo = .ok (some outConn) →
    processed.forwarder.subscriptionTable = g.subscriptionTable ∧
      (∃ sent, processed.sent = some (outConn, sent)) ∧
      ∃ source, msg.getSource = .ok source ∧
        processed.forwarder.remoteSubscriptionTable = (f.onForwardedSubscription source agentType
          agentId outConn add).remoteSubscriptionTable

variable {f g : Forwarder Connection} {msg : ProtoMessage} {add : Bool} {agentType : AgentType}
  {agentId : Option UInt64} {conn : Nat} {sendError : Option String}

/-- A message that is not to be sent on needs neither another connection nor its source. -/
theorem allOrNothing_of_forward_none (hforward : msg.getForwardTo = .ok none) :
    f.AllOrNothing g msg add agentType agentId sendError ⟨.ok (), g, none⟩ where
  ok_iff := by simp [hforward]
  nothing := by simp
  all := by simp [hforward]

variable [NameHash]

theorem Updates.not_sent (hs : f.Updates g msg add agentType agentId conn)
    (hconns : msg.getInOutConnections = .ok (conn, none)) :
    f.processSubscription msg add sendError = .ok ⟨.ok (), g, none⟩ := by
  obtain ⟨connection, hconnection, hupdated⟩ := hs.updated
  simp only [processSubscription, hs.name, hconns, bind_ok, hconnection, hupdated]
  rfl

/-- The source is read before the message is sent on. -/
theorem Updates.panics (hs : f.Updates g msg add agentType agentId conn) {outConn : Nat}
    (hconns : msg.getInOutConnections = .ok (conn, some outConn)) {panic : AccessPanic}
    (hsource : msg.getSource = .error panic) :
    f.processSubscription msg add sendError = .error panic := by
  obtain ⟨connection, hconnection, hupdated⟩ := hs.updated
  simp only [processSubscription, hs.name, hconns, bind_ok, hconnection, hupdated, hsource]
  rfl

/-- An update that succeeds leaves the table as it is only if the name is there already. -/
theorem Updates.unchanged_iff (hs : f.Updates g msg add agentType agentId conn) :
    g.subscriptionTable = f.subscriptionTable ↔
      add = true ∧ f.subscriptionTable.connections.Holds (agentOf agentType agentId) conn := by
  obtain ⟨connection, -, hupdated⟩ := hs.updated
  have hg := congrArg (fun left => left.2.subscriptionTable) hupdated
  have hresult := congrArg Prod.fst hupdated
  cases add with
  | true =>
      simp only [onSubscriptionMsg, if_true] at hg
      rw [← hg]
      rcases f.subscriptionTable.addSubscription_cases agentType agentId conn
          connection.isLocalConnection with ⟨hheld, heq⟩ | ⟨hnew, -⟩
      · simp [heq, hheld]
      · simp only [hnew, and_false, iff_false]
        intro hsame
        apply hnew
        rw [← hsame, SubscriptionTableImpl.holds_addSubscription]
        exact .inr ⟨rfl, rfl⟩
  | false =>
      simp only [onSubscriptionMsg, Bool.false_eq_true, if_false] at hg hresult
      simp only [Bool.false_eq_true, false_and, iff_false]
      intro hsame
      rw [← hg] at hsame
      rcases f.subscriptionTable.removeSubscription_cases agentType agentId conn
          connection.isLocalConnection with ⟨-, e, heq⟩ | ⟨-, e, left, heq, -⟩ |
          ⟨hheld, left, connections, heq, -, hleft⟩
      · simp [heq] at hresult
      · simp [heq] at hresult
      · rw [heq] at hsame
        have hstill := (hleft (agentOf agentType agentId) conn).1
        rw [← hsame] at hheld
        exact (hstill hheld).2 ⟨rfl, rfl⟩

/-- The message asks to be sent on, and is not to be handled for another connection. -/
theorem allOrNothing_forwarded_iff (hs : f.Updates g msg add agentType agentId conn)
    {content : SubscriptionMessage} (hreads : msg.Reads add content) {outConn : Nat}
    (hforward : msg.getForwardTo = .ok (some outConn))
    (hconns : content.header.getInOutConnections = some (conn, some outConn)) :
    (∃ processed, f.processSubscription msg add sendError = .ok processed ∧
        f.AllOrNothing g msg add agentType agentId sendError processed) ↔
      f.sendMsg outConn sendError = .ok () ∨
        (add = true ∧
          f.subscriptionTable.connections.Holds (agentOf agentType agentId) conn) := by
  rw [← hs.unchanged_iff]
  obtain ⟨connection, hconnection, hupdated⟩ := hs.updated
  have hname := hs.name
  rw [hreads.name, Except.ok.injEq, Prod.mk.injEq] at hname
  obtain ⟨rfl, rfl⟩ := hname
  obtain ⟨htable, hremote⟩ := onSubscriptionMsg_frame hupdated
  have hsame : g.sendMsg outConn sendError = f.sendMsg outConn sendError := by
    simp only [sendMsg, getConnection, htable]
  -- the update that the outcome speaks of is the one that succeeds
  have hafter : ∀ {other result after}, f.getConnection conn = some other →
      f.onSubscriptionMsg content.agentType content.agentId conn other.isLocalConnection add =
        (result, after) → result = .ok () ∧ after = g := by
    intro other result after hother hupdate
    rw [hconnection, Option.some.injEq] at hother
    rw [← hother, hupdated, Prod.mk.injEq] at hupdate
    exact ⟨hupdate.1.symm, hupdate.2.symm⟩
  obtain ⟨processed, hprocessed, houtcome⟩ :=
    processSubscription_outcome hreads f hconns sendError
  simp only [hprocessed, Except.ok.injEq, exists_eq_left']
  cases houtcome with
  | unconnected hnone => simp [hconnection] at hnone
  | failed hconn hupdate => cases (hafter hconn hupdate).1
  | updated hconn hupdate hnone => simp at hnone
  | unsent hconn hupdate hsome hsend =>
      obtain ⟨-, rfl⟩ := hafter hconn hupdate
      rw [Option.some.injEq] at hsome
      subst hsome
      rw [hsame] at hsend
      simp only [hsend, reduceCtorEq, false_or]
      constructor
      · intro hall
        exact (hall.nothing _ rfl).1
      · intro hunchanged
        refine ⟨?_, fun e _ => ⟨hunchanged, hremote⟩, by simp⟩
        simp [hforward, hsend]
  | forwarded hconn hupdate hsome hsend hsent =>
      obtain ⟨-, rfl⟩ := hafter hconn hupdate
      rw [Option.some.injEq] at hsome
      subst hsome
      rw [hsame] at hsend
      simp only [hsend, true_or, iff_true]
      refine ⟨?_, by simp, ?_⟩
      · simp [hforward, hsend]
      · intro other _ hother
        rw [hforward, Except.ok.injEq, Option.some.injEq] at hother
        subst hother
        refine ⟨rfl, ⟨_, rfl⟩, content.source, hreads.getSource, ?_⟩
        simp only [onForwardedSubscription, hremote]

/-- For every message that `validate` accepts and whose update of the subscription table
    succeeds, forwarding is all or nothing exactly if the message is not to be sent on, or has
    the id of its source, is not to be handled for another connection, and either is sent or
    only repeats a subscription that is there. -/
theorem forwarding_all_or_nothing_iff (hvalid : msg.validate = .ok ())
    (hkind : msg.subscriptionKind = some add)
    (hs : f.Updates g msg add agentType agentId conn) (sendError : Option String) :
    (∃ processed, f.processSubscription msg add sendError = .ok processed ∧
        f.AllOrNothing g msg add agentType agentId sendError processed) ↔
      ∀ outConn, msg.getForwardTo = .ok (some outConn) →
        msg.getRecvFrom = .ok none ∧ msg.SourceHasId ∧
          (f.sendMsg outConn sendError = .ok () ∨
            (add = true ∧
              f.subscriptionTable.connections.Holds (agentOf agentType agentId) conn)) := by
  obtain ⟨header, source, destination, hheader, hsource, hdestination, -⟩ :=
    ProtoMessage.validate_ok_iff.1 hvalid
  have hslim := ProtoMessage.getSlimHeader_of_some hheader
  have hforward : msg.getForwardTo = .ok header.forwardTo := by
    simp only [ProtoMessage.getForwardTo, hslim, bind_ok]
    rfl
  have hrecv : msg.getRecvFrom = .ok header.recvFrom := by
    simp only [ProtoMessage.getRecvFrom, hslim, bind_ok]
    rfl
  obtain ⟨forward, hconns⟩ := hs.conns
  have hinOut : header.toSlimHeader.getInOutConnections = some (conn, forward) := by
    apply eq_some_of_orPanic
    rw [← hconns, ProtoMessage.getInOutConnections, hslim, bind_ok]
    rfl
  rw [hrecv]
  rcases SlimHeader.getInOutConnections_cases hinOut with
    ⟨hto, hnone⟩ | ⟨outConn, other, hto, hother, hnone⟩ | ⟨outConn, hto, hother, hsome⟩
  · subst hnone
    rw [hto] at hforward
    simp only [hs.not_sent hconns, hforward, Except.ok.injEq, exists_eq_left', reduceCtorEq,
      false_implies, implies_true, iff_true]
    exact allOrNothing_of_forward_none hforward
  · -- handled for another connection: the call succeeds and nothing is sent
    subst hnone
    rw [hto] at hforward
    simp only [hs.not_sent hconns, hforward, hother, Except.ok.injEq, exists_eq_left', reduceCtorEq,
      false_and, imp_false, Option.some.injEq, forall_eq', iff_false]
    intro hall
    obtain ⟨-, ⟨sent, hsent⟩, -⟩ := hall.all outConn rfl hforward
    cases hsent
  · subst hsome
    rw [hto] at hforward
    simp only [hforward, hother, Except.ok.injEq, Option.some.injEq, forall_eq', true_and]
    rw [ProtoMessage.sourceHasId_iff hheader hsource]
    rcases hagent : Agent.ofProto source with panic | agent
    · have hpanics : f.processSubscription msg add sendError = .error panic :=
        hs.panics hconns ((ProtoMessage.getSource_of_some hheader hsource).trans hagent)
      simp [hpanics, ProtoMessage.Returns]
    · obtain ⟨content, hreads, hcontent⟩ :=
        ProtoMessage.reads_of_header hkind hheader hsource hagent hdestination
      rw [allOrNothing_forwarded_iff hs hreads hforward (by rw [hcontent, hinOut])]
      simp [ProtoMessage.Returns]

end AllOrNothing

/-- An application on connection 0 and a node on connection 1. -/
def sampleForwarder : Forwarder Connection :=
  Runs.run exec new
    [.connectionEstablished ⟨.server, .Local⟩ none, .connectionEstablished ⟨.client, .Remote⟩ none]

/-- A subscription received on connection 0, to be sent on to `outConn`. -/
def sampleSubscription (outConn : Nat) : ProtoMessage :=
  ⟨HashMap.empty, some (.subscribe
    ⟨some { ProtoSlimHeader.new ⟨sampleType, 7⟩ sampleType none
        (some (SlimHeaderFlags.default.withForwardTo outConn)) with incomingConn := some 0 },
      "org", "ns", "type"⟩)⟩

def sampleSubscribed : AgentType := @AgentType.fromStrings sampleHash "org" "ns" "type"

theorem updates_sample (outConn : Nat) :
    @Updates sampleHash sampleForwarder
      (sampleForwarder.onSubscriptionMsg sampleSubscribed none 0 true true).2
      (sampleSubscription outConn) true sampleSubscribed none 0 :=
  @Updates.mk sampleHash _ _ _ _ _ _ _ rfl ⟨some outConn, rfl⟩ ⟨⟨.server, .Local⟩, rfl, rfl⟩

/-- There is no connection 7: the call fails, and the subscription stays. -/
theorem failed_forward_keeps_subscription :
    (sampleSubscription 7).validate = .ok () ∧
      @Updates sampleHash sampleForwarder
        (sampleForwarder.onSubscriptionMsg sampleSubscribed none 0 true true).2
        (sampleSubscription 7) true sampleSubscribed none 0 ∧
      sampleForwarder.subscriptionTable.matchAll sampleSubscribed none 9 IterOrder.stored =
        .error (SubscriptionTableImpl.noMatch sampleSubscribed none) ∧
      ∃ processed,
        @processSubscription sampleHash sampleForwarder (sampleSubscription 7) true none =
          .ok processed ∧
        processed.result = .error (.unsubscriptionError
          (DataPathError.messageSendError "connection 7 not found").display) ∧
        processed.forwarder.subscriptionTable.matchAll sampleSubscribed none 9 IterOrder.stored =
          .ok [0] ∧
        ¬ AllOrNothing sampleForwarder
          (sampleForwarder.onSubscriptionMsg sampleSubscribed none 0 true true).2
          (sampleSubscription 7) true sampleSubscribed none none processed := by
  refine ⟨rfl, updates_sample 7, rfl, _, rfl, rfl, rfl, fun hall => ?_⟩
  have hsame := congrArg (fun table => table.matchAll sampleSubscribed none 9 IterOrder.stored)
    (hall.nothing _ rfl).1
  cases hsame

/-- Connection 1 is there: the subscription is recorded and sent. -/
theorem forwarding_all_or_nothing_sample :
    ∃ processed,
      @processSubscription sampleHash sampleForwarder (sampleSubscription 1) true none =
        .ok processed ∧
      AllOrNothing sampleForwarder
        (sampleForwarder.onSubscriptionMsg sampleSubscribed none 0 true true).2
        (sampleSubscription 1) true sampleSubscribed none none processed := by
  apply (@forwarding_all_or_nothing_iff sampleForwarder _ (sampleSubscription 1) true
    sampleSubscribed none 0 sampleHash rfl rfl (updates_sample 1) none).2
  intro outConn hforward
  have hone : outConn = 1 := by
    cases hforward
    rfl
  subst hone
  exact ⟨rfl, ⟨_, _, 7, rfl, rfl, rfl⟩, .inl rfl⟩

end Forwarder

end Slim
