import Slim.StreamingOrder

/-!
# How long a stream can be

Ids are counted in 32 bits and the receiver compares them as plain numbers.  A stream
that loses nothing is handed over in full up to `2 ^ 32` messages.  The counter of the
producer then begins anew, and the receiver takes every further message for an old one.
-/

namespace Slim

open HashKey Machine StreamPanic ReceiverBuffer

/-! ## Sequences of events -/

/-- The events one after the other, and all that is sent meanwhile. -/
def Endpoint.processAll [NameHash] (ctx : StreamContext) :
    Endpoint → List StreamEvent → Except StreamPanic (Effects × Endpoint)
  | endpoint, [] => return (Effects.nothing, endpoint)
  | endpoint, event :: events => do
      let (effects, endpoint) ← endpoint.processEvent ctx event
      let (rest, endpoint) ← endpoint.processAll ctx events
      return (⟨effects.toSlim ++ rest.toSlim, effects.toApp ++ rest.toApp⟩, endpoint)

theorem Endpoint.processAll_cons [NameHash] {ctx : StreamContext}
    {endpoint middle left : Endpoint} {event : StreamEvent} {events : List StreamEvent}
    {effects rest : Effects} (hfirst : endpoint.processEvent ctx event = .ok (effects, middle))
    (hrest : middle.processAll ctx events = .ok (rest, left)) :
    endpoint.processAll ctx (event :: events) =
      .ok (⟨effects.toSlim ++ rest.toSlim, effects.toApp ++ rest.toApp⟩, left) := by
  simp only [processAll, hfirst, bind_ok, hrest]
  rfl

/-! ## Messages of one application -/

namespace ProtoMessage

/-- A publication that is well formed and has this source. -/
structure SentBy (name : Agent) (msg : ProtoMessage) : Prop where
  valid : msg.validate = .ok ()
  publish : ∃ publish, msg.messageType = some (.publish publish)
  source : msg.getSource = .ok name

/-- The message as the producer sends it. -/
structure Numbered (name : Agent) (id : UInt32) (msg sent : ProtoMessage) : Prop where
  source : sent.getSource = .ok name
  headerType : sent.getHeaderType = .ok .stream
  messageId : sent.getMessageId = .ok id
  content : sent.content = msg.content
  metadata : sent.metadata = msg.metadata

section Fields

variable {name : Agent} {msg : ProtoMessage}

/-- The headers of a publication that is well formed. -/
theorem SentBy.headers (hmsg : msg.SentBy name) :
    ∃ header session destination, msg.Headers header session ∧ header.getSource = .ok name ∧
      header.getDst = .ok destination := by
  obtain ⟨publish, htype⟩ := hmsg.publish
  have hpublish : msg.isPublish = .ok true := by
    rw [isPublish, getType, htype]
    rfl
  obtain ⟨header, session, destination, hheaders, hdst⟩ :=
    headers_of_validate hmsg.valid hpublish
  exact ⟨header, session, destination, hheaders, hheaders.getSource.symm.trans hmsg.source, hdst⟩

/-- The connections of the last hop do not change who sent the message. -/
theorem getSource_carried (msg : ProtoMessage) (connections : SlimHeader) :
    (msg.carried connections).getSource = msg.getSource := by
  unfold carried
  split
  next => rfl
  next header hheader =>
    simp only [getSource, getSlimHeader_of_some hheader,
      getSlimHeader_of_some (tryGetSlimHeader_withHeader hheader _), bind_ok]
    rfl

theorem getIncomingConn_carried {connections : SlimHeader} {conn : Nat}
    (hconn : connections.incomingConn = some conn) (hsource : msg.getSource = .ok name) :
    (msg.carried connections).getIncomingConn = .ok conn := by
  unfold carried
  split
  next hnone =>
    obtain ⟨header, hheader, -⟩ := bind_eq_ok hsource
    unfold tryGetSlimHeader at hnone
    unfold getSlimHeader at hheader
    split at hheader
    all_goals simp_all [orPanic]
  next header hheader =>
    simp only [getIncomingConn, getSlimHeader_of_some (tryGetSlimHeader_withHeader hheader _),
      bind_ok, hconn, orPanic_some]

end Fields

end ProtoMessage

/-- The messages of an application and what its producer sends for them, numbered from
    `id` on. -/
inductive NumberedFrom (name : Agent) : UInt32 → List ProtoMessage → List ProtoMessage → Prop
  | nil (id : UInt32) : NumberedFrom name id [] []
  | cons {id : UInt32} {msg sent : ProtoMessage} {msgs sents : List ProtoMessage}
      (first : msg.Numbered name id sent) (rest : NumberedFrom name (id + 1) msgs sents) :
      NumberedFrom name id (msg :: msgs) (sent :: sents)

theorem NumberedFrom.length_eq {name : Agent} {id : UInt32} {msgs sents : List ProtoMessage}
    (hsents : NumberedFrom name id msgs sents) : sents.length = msgs.length := by
  induction hsents with
  | nil id => rfl
  | cons first rest ih => rw [List.length_cons, List.length_cons, ih]

/-! ## The producer -/

namespace ProducerState

variable [NameHash]

/-- A message of the application is numbered. -/
theorem stamp_sentBy (producer : ProducerState) {name : Agent} {msg : ProtoMessage}
    (hmsg : msg.SentBy name) :
    ∃ sent, producer.stamp false msg = .ok sent ∧ msg.Numbered name producer.nextId sent ∧
      ProtoMessage.Returns sent.getName := by
  obtain ⟨header, session, destination, hheaders, hsource, hdst⟩ := hmsg.headers
  obtain ⟨sent, hsent, hsentHeaders⟩ := producer.exists_stamp false hheaders
  obtain ⟨-, hcontent, hmetadata⟩ := stamp_eq_ok hsent
  refine ⟨sent, hsent, ⟨?_, ?_, hsentHeaders.getMessageId, hcontent, hmetadata⟩, ?_⟩
  · rw [hsentHeaders.getSource]
    exact hsource
  · rw [hsentHeaders.getHeaderType]
    rfl
  · exact ⟨destination, hsentHeaders.getName hdst⟩

end ProducerState

section Producer

variable [NameHash] {ctx : StreamContext} {name : Agent}

/-- The events of an application that hands over messages while the network takes them. -/
def handedOver (msgs : List ProtoMessage) : List StreamEvent :=
  msgs.map fun msg => .message msg .South false

theorem processMessageFromApp_sentBy (hbuild : ctx.build = .release) (producer : ProducerState)
    {msg : ProtoMessage} (hmsg : msg.SentBy name) :
    ∃ sent next, producer.processMessageFromApp ctx false msg false = .ok (⟨[sent], []⟩, next) ∧
      msg.Numbered name producer.nextId sent ∧ next.nextId = producer.nextId + 1 := by
  obtain ⟨sent, hstamp, hnumbered, hname⟩ := producer.stamp_sentBy hmsg
  obtain ⟨buffer, hpush⟩ := producer.buffer.push_returns hname hnumbered.messageId
  refine ⟨sent, ⟨buffer, producer.nextId + 1⟩, ?_, hnumbered, rfl⟩
  simp only [ProducerState.processMessageFromApp, hstamp, hbuild, Build.succ32_release,
    Except.mapError, bind_ok, hpush]
  rfl

/-- The producer sends every message it is handed, under the numbers that follow. -/
theorem processAll_producer (hbuild : ctx.build = .release) :
    ∀ (msgs : List ProtoMessage) (producer : ProducerState), (∀ msg ∈ msgs, msg.SentBy name) →
      ∃ sents left, (Endpoint.producer producer).processAll ctx (handedOver msgs) =
          .ok (⟨sents, []⟩, left) ∧
        NumberedFrom name producer.nextId msgs sents := by
  intro msgs
  induction msgs with
  | nil => exact fun producer _ => ⟨[], .producer producer, rfl, .nil _⟩
  | cons msg msgs ih =>
      intro producer hmsgs
      obtain ⟨hmsg, hmsgs⟩ := List.forall_mem_cons.1 hmsgs
      obtain ⟨sent, next, hstep, hnumbered, hnext⟩ :=
        processMessageFromApp_sentBy hbuild producer hmsg
      obtain ⟨sents, left, hrest, hsents⟩ := ih next hmsgs
      rw [hnext] at hsents
      refine ⟨sent :: sents, left, ?_, .cons hnumbered hsents⟩
      have hfirst : (Endpoint.producer producer).processEvent ctx (.message msg .South false) =
          .ok (⟨[sent], []⟩, .producer next) := by
        simp only [Endpoint.processEvent, Endpoint.onMessage, hstep, bind_ok]
        rfl
      exact Endpoint.processAll_cons hfirst hrest

end Producer

/-! ## The receiver -/

namespace ReceiverBuffer

variable {M : Type} [Identified M]

/-- The next id is handed over at once when nothing waits. -/
theorem handle_next (build : Build) {s : ReceiverBuffer M} {m : M}
    (hnext : s.lastSent = USIZE_MAX ∨ s.lastSent + 1 = (getId m).toNat) (hempty : s.buffer = []) :
    s.handle build (.received m) =
      .ok (([some m], []), { s with lastSent := (getId m).toNat }) := by
  have hinOrder : s.isInOrder build (getId m).toNat = .ok true := by
    unfold isInOrder
    split
    next => rfl
    next hsent =>
      have hnext := hnext.resolve_left hsent
      have hlt := (getId m).toNat_lt
      rw [build.add_ok (by rw [hnext, USIZE_MAX]; omega), hnext, hempty]
      simp [bind_ok]
  simp only [handle, onReceivedMessage, internalOnReceivedMessage, hinOrder, bind_ok, if_true]

/-- An id that is not above the last one is dropped. -/
theorem handle_old (build : Build) {s : ReceiverBuffer M} {m : M}
    (hsent : s.lastSent < USIZE_MAX) (hold : (getId m).toNat ≤ s.lastSent) :
    s.handle build (.received m) = .ok (([], []), s) := by
  have hinOrder : s.isInOrder build (getId m).toNat = .ok false := by
    have hne : (getId m).toNat ≠ s.lastSent + 1 := by omega
    rw [isInOrder, if_neg (Nat.ne_of_lt hsent), build.add_ok hsent]
    simp [bind_ok, hne]
  simp [handle, onReceivedMessage, internalOnReceivedMessage, hinOrder, bind_ok, hold]

end ReceiverBuffer

namespace ProtoMessage

/-- The message as it arrives, over some connection. -/
def Arrives (sent arrived : ProtoMessage) : Prop :=
  ∃ connections conn, connections.incomingConn = some conn ∧ arrived = sent.carried connections

theorem Numbered.arrives {name : Agent} {id : UInt32} {msg sent arrived : ProtoMessage}
    (hsent : msg.Numbered name id sent) (harrives : sent.Arrives arrived) :
    msg.Numbered name id arrived ∧ Returns arrived.getIncomingConn := by
  obtain ⟨connections, conn, hconn, rfl⟩ := harrives
  refine ⟨⟨?_, ?_, ?_, ?_, ?_⟩, conn, getIncomingConn_carried hconn hsent.source⟩
  · rw [getSource_carried, hsent.source]
  · rw [getHeaderType, getSessionHeader_carried, ← getHeaderType, hsent.headerType]
  · rw [getMessageId, getSessionHeader_carried, ← getMessageId, hsent.messageId]
  · rw [content_carried, hsent.content]
  · rw [metadata_carried, hsent.metadata]

theorem Numbered.bufferCall {name : Agent} {id : UInt32} {msg arrived : ProtoMessage}
    (hmsg : msg.Numbered name id arrived) :
    arrived.bufferCall = .ok (some (.received arrived)) := by
  simp only [ProtoMessage.bufferCall, hmsg.headerType, hmsg.messageId, bind_ok]
  rfl

theorem Numbered.info {name : Agent} {id : UInt32} {msg arrived : ProtoMessage}
    (hmsg : msg.Numbered name id arrived) : Returns (Info.ofMessage arrived) := by
  obtain ⟨session, hsession, -⟩ := bind_eq_ok hmsg.messageId
  obtain ⟨header, hheader, -⟩ := bind_eq_ok hmsg.source
  simp only [Info.ofMessage, hsession, hheader, hmsg.source, bind_ok]
  exact ⟨_, rfl⟩

end ProtoMessage

/-- What an application sees of a message. -/
def ProtoMessage.payload (msg : ProtoMessage) : Option Content × HashMap String String :=
  (msg.content, msg.metadata)

/-- What the items bring to the application, none for an error. -/
def payloads (items : AppItems) : List (Option (Option Content × HashMap String String)) :=
  items.map fun item => (itemMessage item.2).map ProtoMessage.payload

theorem payloads_append (first second : AppItems) :
    payloads (first ++ second) = payloads first ++ payloads second :=
  List.map_append

namespace ReceiverState

variable (ctx : StreamContext) {name : Agent} {id : UInt32} {msg arrived : ProtoMessage}

/-- A message of the stream that asks for nothing to be sent again. -/
theorem process_of_handle (state : ReceiverState) (hmsg : msg.Numbered name id arrived)
    (hconn : ProtoMessage.Returns arrived.getIncomingConn) {recv : List (Option ProtoMessage)}
    {buffer : ReceiverBuffer ProtoMessage}
    (hhandle : (state.bufferOf name).handle ctx.build (.received arrived) =
      .ok ((recv, []), buffer)) {items : List (Except SessionError SessionMessage)}
    (hitems : sendMessageToApp ctx.sessionId recv = .ok items) :
    ∃ next, state.processMessageFromSlim ctx arrived =
        .ok (⟨[], items.map fun item => (some name, item)⟩, next) ∧
      next.bufferOf name = buffer := by
  obtain ⟨conn, hconn⟩ := hconn
  refine ⟨state.put name ({ state.receiverFor name with buffer }.cleanAfter .stream id), ?_, ?_⟩
  · have hhandle' : (state.receiverFor name).buffer.handle ctx.build (.received arrived) =
        .ok ((recv, []), buffer) := hhandle
    simp only [processMessageFromSlim, hmsg.source, hconn, hmsg.headerType, hmsg.messageId,
      hmsg.bufferCall, Except.mapError, bind_ok, hhandle', hitems]
    rfl
  · rw [bufferOf_put_same _ _ rfl, Receiver.buffer_cleanAfter]

theorem process_next (state : ReceiverState) (hmsg : msg.Numbered name id arrived)
    (hconn : ProtoMessage.Returns arrived.getIncomingConn)
    (hnext : (state.bufferOf name).lastSent = USIZE_MAX ∨
      (state.bufferOf name).lastSent + 1 = id.toNat)
    (hempty : (state.bufferOf name).buffer = []) :
    ∃ items next, state.processMessageFromSlim ctx arrived = .ok (⟨[], items⟩, next) ∧
      payloads items = [some msg.payload] ∧ (next.bufferOf name).lastSent = id.toNat ∧
      (next.bufferOf name).buffer = [] := by
  have hid := getId_of_getMessageId hmsg.messageId
  rw [← hid] at hnext
  obtain ⟨info, hinfo⟩ := hmsg.info
  have hitems : sendMessageToApp ctx.sessionId [some arrived] = .ok [.ok ⟨arrived, info⟩] := by
    simp only [sendMessageToApp, hinfo, bind_ok]
    rfl
  obtain ⟨next, hrun, hbuffer⟩ :=
    state.process_of_handle ctx hmsg hconn (handle_next ctx.build hnext hempty) hitems
  refine ⟨_, next, hrun, ?_, ?_, ?_⟩
  · simp only [payloads, List.map_cons, List.map_nil, itemMessage, Option.map_some,
      ProtoMessage.payload, hmsg.content, hmsg.metadata]
  · rw [hbuffer, hid]
  · rw [hbuffer, hempty]

theorem process_old (state : ReceiverState) (hmsg : msg.Numbered name id arrived)
    (hconn : ProtoMessage.Returns arrived.getIncomingConn)
    (hsent : (state.bufferOf name).lastSent < USIZE_MAX)
    (hold : id.toNat ≤ (state.bufferOf name).lastSent) :
    ∃ next, state.processMessageFromSlim ctx arrived = .ok (Effects.nothing, next) ∧
      next.bufferOf name = state.bufferOf name := by
  rw [← getId_of_getMessageId hmsg.messageId] at hold
  exact state.process_of_handle ctx hmsg hconn (handle_old ctx.build hsent hold) rfl

end ReceiverState

section Receiver

variable [NameHash] (ctx : StreamContext) {name : Agent}

/-- The events of a session to which the network hands messages. -/
def arrivals (arrived : List ProtoMessage) : List StreamEvent :=
  arrived.map fun msg => .message msg .North false

theorem processAll_receiver_cons {state next : ReceiverState} {left : Endpoint}
    {msg : ProtoMessage} {msgs : List ProtoMessage} {effects rest : Effects}
    (hfirst : state.processMessageFromSlim ctx msg = .ok (effects, next))
    (hrest : (Endpoint.receiver next).processAll ctx (arrivals msgs) = .ok (rest, left)) :
    (Endpoint.receiver state).processAll ctx (arrivals (msg :: msgs)) =
      .ok (⟨effects.toSlim ++ rest.toSlim, effects.toApp ++ rest.toApp⟩, left) := by
  refine Endpoint.processAll_cons ?_ hrest
  simp only [Endpoint.processEvent, Endpoint.onMessage, hfirst, bind_ok]
  rfl

/-- After the last number every message is taken for an old one. -/
theorem processAll_exhausted :
    ∀ {id : UInt32} {msgs sents arrived : List ProtoMessage} (state : ReceiverState),
      NumberedFrom name id msgs sents → List.Forall₂ ProtoMessage.Arrives sents arrived →
      (state.bufferOf name).lastSent = 2 ^ 32 - 1 →
      ∃ left, (Endpoint.receiver state).processAll ctx (arrivals arrived) =
        .ok (Effects.nothing, left) := by
  intro id msgs sents arrived state hsents
  induction hsents generalizing state arrived with
  | nil id =>
      rintro harrived -
      cases harrived
      exact ⟨.receiver state, rfl⟩
  | cons first rest ih =>
      intro harrived hsent
      rcases harrived with _ | ⟨harrives, harrived⟩
      obtain ⟨hmsg, hconn⟩ := first.arrives harrives
      have hlt : (state.bufferOf name).lastSent < USIZE_MAX := by
        rw [hsent]
        decide
      obtain ⟨next, hstep, hbuffer⟩ := state.process_old ctx hmsg hconn hlt
        (by rw [hsent]; exact Nat.le_sub_one_of_lt (UInt32.toNat_lt _))
      obtain ⟨left, hrest⟩ := ih next harrived (by rw [hbuffer, hsent])
      exact ⟨left, processAll_receiver_cons ctx hstep hrest⟩

/-- From `id` on the messages up to the last number are handed over, and no other. -/
theorem processAll_receiver :
    ∀ {id : UInt32} {msgs sents arrived : List ProtoMessage} (state : ReceiverState),
      NumberedFrom name id msgs sents → List.Forall₂ ProtoMessage.Arrives sents arrived →
      ((state.bufferOf name).lastSent = USIZE_MAX ∨
        (state.bufferOf name).lastSent + 1 = id.toNat) →
      (state.bufferOf name).buffer = [] →
      ∃ items left, (Endpoint.receiver state).processAll ctx (arrivals arrived) =
          .ok (⟨[], items⟩, left) ∧
        payloads items = (msgs.take (2 ^ 32 - id.toNat)).map fun msg => some msg.payload := by
  intro id msgs sents arrived state hsents
  induction hsents generalizing state arrived with
  | nil id =>
      rintro harrived - -
      cases harrived
      exact ⟨[], .receiver state, rfl, by rw [List.take_nil]; rfl⟩
  | @cons id msg sent msgs sents first rest ih =>
      intro harrived hnext hempty
      rcases harrived with _ | ⟨harrives, harrived⟩
      obtain ⟨hmsg, hconn⟩ := first.arrives harrives
      obtain ⟨items, next, hstep, hitems, hlast, hbuffer⟩ :=
        state.process_next ctx hmsg hconn hnext hempty
      have hlt := id.toNat_lt
      by_cases hroom : id.toNat + 1 < 2 ^ 32
      · have hsucc : (id + 1).toNat = id.toNat + 1 := by
          rw [UInt32.toNat_add]
          exact Nat.mod_eq_of_lt hroom
        obtain ⟨more, left, hrest, hmore⟩ := ih next harrived (.inr (by rw [hlast, hsucc])) hbuffer
        refine ⟨items ++ more, left, processAll_receiver_cons ctx hstep hrest, ?_⟩
        have hcount : 2 ^ 32 - id.toNat = (2 ^ 32 - (id.toNat + 1)) + 1 := by omega
        rw [payloads_append, hitems, hmore, hsucc, hcount, List.take_succ_cons]
        rfl
      · -- this is the last number, and the counter of the producer begins anew
        have hmax : id.toNat = 2 ^ 32 - 1 := by omega
        obtain ⟨left, hrest⟩ := processAll_exhausted ctx next rest harrived
          (by rw [hlast, hmax])
        refine ⟨items ++ [], left, processAll_receiver_cons ctx hstep hrest, ?_⟩
        have hcount : 2 ^ 32 - id.toNat = 0 + 1 := by omega
        rw [List.append_nil, hitems, hcount, List.take_succ_cons, List.take_zero]
        rfl

end Receiver

/-! ## A stream without losses -/

/-- What becomes of a stream without losses: neither side stops, the producer sends every
    message once, and the application of the receiver gets as many as there are numbers. -/
theorem stream_takes_first [NameHash] (sender receiver : StreamContext)
    (hbuild : sender.build = .release) (name : Agent) (msgs : List ProtoMessage)
    (hmsgs : ∀ msg ∈ msgs, msg.SentBy name) :
    ∃ sents left, (Endpoint.new .Sender).processAll sender (handedOver msgs) =
        .ok (⟨sents, []⟩, left) ∧
      sents.length = msgs.length ∧
      ∀ arrived, List.Forall₂ ProtoMessage.Arrives sents arrived →
        ∃ items left, (Endpoint.new .Receiver).processAll receiver (arrivals arrived) =
            .ok (⟨[], items⟩, left) ∧
          payloads items = (msgs.take (2 ^ 32)).map fun msg => some msg.payload := by
  obtain ⟨sents, left, hsender, hsents⟩ := processAll_producer hbuild msgs ProducerState.new hmsgs
  refine ⟨sents, left, hsender, hsents.length_eq, ?_⟩
  intro arrived harrived
  exact processAll_receiver receiver ReceiverState.new hsents harrived (.inl rfl) rfl

/-- A stream without losses is handed over in full if and only if it has no more messages
    than there are numbers. -/
theorem lossless_stream_delivered_iff [NameHash] (sender receiver : StreamContext)
    (hbuild : sender.build = .release) (name : Agent) (msgs : List ProtoMessage)
    (hmsgs : ∀ msg ∈ msgs, msg.SentBy name) :
    ∃ sents left, (Endpoint.new .Sender).processAll sender (handedOver msgs) =
        .ok (⟨sents, []⟩, left) ∧
      sents.length = msgs.length ∧
      ∀ arrived, List.Forall₂ ProtoMessage.Arrives sents arrived →
        ∃ items left, (Endpoint.new .Receiver).processAll receiver (arrivals arrived) =
            .ok (⟨[], items⟩, left) ∧
          (payloads items = msgs.map (fun msg => some msg.payload) ↔ msgs.length ≤ 2 ^ 32) := by
  obtain ⟨sents, left, hsender, hlength, hreceiver⟩ :=
    stream_takes_first sender receiver hbuild name msgs hmsgs
  refine ⟨sents, left, hsender, hlength, ?_⟩
  intro arrived harrived
  obtain ⟨items, left, hrun, hitems⟩ := hreceiver arrived harrived
  refine ⟨items, left, hrun, ?_⟩
  rw [hitems]
  constructor
  · intro hall
    have hcount := congrArg List.length hall
    rw [List.length_map, List.length_map, List.length_take] at hcount
    omega
  · intro hshort
    rw [List.take_of_length_le hshort]

/-- A message as the application hands it over. -/
def streamSample : ProtoMessage :=
  ProtoMessage.newPublish ⟨⟨1, 1, 1, none⟩, 7⟩ ⟨1, 1, 2, none⟩ none none "msg" [42]

def releaseContext : StreamContext := ⟨.release, 10, ⟨⟨1, 1, 1, none⟩, 7⟩, 5, 1000⟩

theorem sentBy_streamSample : streamSample.SentBy ⟨⟨1, 1, 1, none⟩, 7⟩ :=
  ⟨rfl, ⟨_, rfl⟩, rfl⟩

/-- A message comes over the connection `0`. -/
def overConnection (sent : ProtoMessage) : ProtoMessage := sent.carried ⟨none, none, some 0⟩

theorem arrives_overConnection (sents : List ProtoMessage) :
    List.Forall₂ ProtoMessage.Arrives sents (sents.map overConnection) := by
  induction sents with
  | nil => exact .nil
  | cons sent sents ih => exact .cons ⟨_, 0, rfl, rfl⟩ ih

/-- One message more than there are numbers: the last one reaches the receiver, which does
    not hand it over. -/
theorem last_of_long_stream_dropped :
    ∃ sents left, (@Endpoint.processAll sampleHash releaseContext (Endpoint.new .Sender)
          (handedOver (List.replicate (2 ^ 32 + 1) streamSample))) = .ok (⟨sents, []⟩, left) ∧
      sents.length = 2 ^ 32 + 1 ∧
      ∃ items left, (@Endpoint.processAll sampleHash releaseContext (Endpoint.new .Receiver)
            (arrivals (sents.map overConnection))) = .ok (⟨[], items⟩, left) ∧
        items.length = 2 ^ 32 := by
  obtain ⟨sents, left, hsender, hlength, hreceiver⟩ :=
    @stream_takes_first sampleHash releaseContext releaseContext rfl _
      (List.replicate (2 ^ 32 + 1) streamSample)
      (fun msg hmsg => List.eq_of_mem_replicate hmsg ▸ sentBy_streamSample)
  rw [List.length_replicate] at hlength
  refine ⟨sents, left, hsender, hlength, ?_⟩
  obtain ⟨items, left, hrun, hitems⟩ := hreceiver _ (arrives_overConnection sents)
  refine ⟨items, left, hrun, ?_⟩
  have hcount := congrArg List.length hitems
  rw [payloads, List.length_map, List.length_map, List.length_take, List.length_replicate] at hcount
  omega

theorem lossless_stream_delivered_iff_sample :
    (∀ msg ∈ [streamSample, streamSample], msg.SentBy ⟨⟨1, 1, 1, none⟩, 7⟩) ∧
      ∃ sents left, (@Endpoint.processAll sampleHash releaseContext (Endpoint.new .Sender)
          (handedOver [streamSample, streamSample])) = .ok (⟨sents, []⟩, left) ∧
        sents.length = 2 ∧
        ∀ arrived, List.Forall₂ ProtoMessage.Arrives sents arrived →
          ∃ items left, (@Endpoint.processAll sampleHash releaseContext (Endpoint.new .Receiver)
              (arrivals arrived)) = .ok (⟨[], items⟩, left) ∧
            (payloads items = [streamSample, streamSample].map (fun msg => some msg.payload) ↔
              2 ≤ 2 ^ 32) := by
  have hmsgs : ∀ msg ∈ [streamSample, streamSample], msg.SentBy ⟨⟨1, 1, 1, none⟩, 7⟩ := by
    intro msg hmsg
    rw [List.eq_of_mem_replicate (n := 2) hmsg]
    exact sentBy_streamSample
  exact ⟨hmsgs, @lossless_stream_delivered_iff sampleHash releaseContext releaseContext rfl _
    [streamSample, streamSample] hmsgs⟩

end Slim
