import Slim.Streaming
import Slim.ReceiverBufferOrder
import Slim.Runs

/-!
# A stream arrives in order

Two streaming sessions are joined by a network that keeps every message ever sent and may
hand over any of them at any time, any number of times or never.  The producer of each
side numbers the messages of its application from `0`.  Whatever the network and the
timers do, the items that the other side hands to its application for this producer are,
once the first one is a message, one for every number from there on: the bytes accepted
under that number, or the report that the message is lost.
-/

namespace Slim

open HashKey Machine StreamPanic ReceiverBuffer

/-! ## Messages of a stream -/

namespace ProtoMessage

/-- The bytes a message carries. -/
def blob (msg : ProtoMessage) : Option (List UInt8) := msg.content.map Content.blob

/-- A receiver takes the message for one of the stream. -/
def IsStreamed (msg : ProtoMessage) : Prop :=
  ∃ headerType, msg.getHeaderType = .ok headerType ∧
    (headerType = .stream ∨ headerType = .pubSub ∨
      headerType = .rtxReply ∧ msg.getError ≠ .ok (some true))

theorem isStreamed_of_bufferCall {msg found : ProtoMessage}
    (hcall : msg.bufferCall = .ok (some (.received found))) : found = msg ∧ msg.IsStreamed := by
  obtain ⟨headerType, htype, hcall⟩ := bind_eq_ok hcall
  obtain ⟨msgId, -, hcall⟩ := bind_eq_ok hcall
  cases headerType with
  | stream =>
      cases hcall
      exact ⟨rfl, _, htype, .inl rfl⟩
  | pubSub =>
      cases hcall
      exact ⟨rfl, _, htype, .inr (.inl rfl)⟩
  | rtxReply =>
      obtain ⟨error, herror, hcall⟩ := bind_eq_ok hcall
      by_cases hlost : error = some true
      · rw [if_pos hlost] at hcall
        cases hcall
      · rw [if_neg hlost] at hcall
        cases hcall
        refine ⟨rfl, _, htype, .inr (.inr ⟨rfl, ?_⟩)⟩
        rw [herror]
        exact fun hsame => hlost (Except.ok.inj hsame)
  | _ => cases hcall

/-- The message as the network hands it over: the connections in its header are those of
    the last hop. -/
def carried (msg : ProtoMessage) (connections : SlimHeader) : ProtoMessage :=
  match msg.tryGetSlimHeader with
  | none => msg
  | some header => msg.withHeader { header with toSlimHeader := connections }

section Carried

variable (msg : ProtoMessage) (connections : SlimHeader)

@[simp] theorem getSessionHeader_carried :
    (msg.carried connections).getSessionHeader = msg.getSessionHeader := by
  unfold carried
  split
  next => rfl
  next => exact getSessionHeader_withHeader _

@[simp] theorem content_carried : (msg.carried connections).content = msg.content := by
  unfold carried
  split
  next => rfl
  next => exact content_withHeader _

@[simp] theorem metadata_carried : (msg.carried connections).metadata = msg.metadata := by
  unfold carried
  split
  next => rfl
  next => rfl

theorem getError_carried : (msg.carried connections).getError = msg.getError := by
  unfold carried
  split
  next => rfl
  next header hheader =>
    simp only [getError, getSlimHeader_of_some hheader,
      getSlimHeader_of_some (tryGetSlimHeader_withHeader hheader _), bind_ok]

theorem isStreamed_carried : (msg.carried connections).IsStreamed ↔ msg.IsStreamed := by
  simp only [IsStreamed, getHeaderType, getSessionHeader_carried, getError_carried]

theorem getId_carried : getId (msg.carried connections) = getId msg := by
  simp only [getId, getMessageId, getSessionHeader_carried]

end Carried

end ProtoMessage

/-- The messages of an application in the order in which its producer has accepted them,
    each with the id it was given. -/
abbrev Accepted := List (UInt32 × ProtoMessage)

/-- The id and the bytes of the message are those of one that the producer accepted, at the
    position that the id says. -/
def Carries (accepted : Accepted) (msg : ProtoMessage) : Prop :=
  ∃ original, accepted[(getId msg).toNat]? = some (getId msg, original) ∧ msg.blob = original.blob

/-- A message that a receiver would take for one of the stream is one. -/
def Trusted (accepted : Accepted) (msg : ProtoMessage) : Prop :=
  msg.IsStreamed → Carries accepted msg

theorem Carries.append {accepted : Accepted} {msg : ProtoMessage}
    (hmsg : Carries accepted msg) (more : Accepted) : Carries (accepted ++ more) msg := by
  obtain ⟨original, haccepted, hblob⟩ := hmsg
  obtain ⟨hlt, -⟩ := List.getElem?_eq_some_iff.1 haccepted
  exact ⟨original, by rw [List.getElem?_append_left hlt, haccepted], hblob⟩

theorem Trusted.append {accepted : Accepted} {msg : ProtoMessage}
    (hmsg : Trusted accepted msg) (more : Accepted) : Trusted (accepted ++ more) msg :=
  fun hstreamed => (hmsg hstreamed).append more

theorem Trusted.carried {accepted : Accepted} {msg : ProtoMessage}
    (hmsg : Trusted accepted msg) (connections : SlimHeader) :
    Trusted accepted (msg.carried connections) := by
  intro hstreamed
  obtain ⟨original, haccepted, hblob⟩ := hmsg ((msg.isStreamed_carried connections).1 hstreamed)
  refine ⟨original, by rwa [msg.getId_carried], ?_⟩
  rwa [ProtoMessage.blob, ProtoMessage.content_carried]

/-- A message of another header type asks for no trust. -/
theorem trusted_of_headerType {accepted : Accepted} {msg : ProtoMessage}
    (headerType : SessionHeaderType) (htype : msg.getHeaderType = .ok headerType)
    (hother : headerType ≠ .stream ∧ headerType ≠ .pubSub ∧ headerType ≠ .rtxReply) :
    Trusted accepted msg := by
  rintro ⟨found, hfound, hkind⟩
  rw [htype] at hfound
  cases hfound
  rcases hkind with hkind | hkind | ⟨hkind, -⟩
  · exact absurd hkind hother.1
  · exact absurd hkind hother.2.1
  · exact absurd hkind hother.2.2

/-! ## The producer -/

namespace ProducerState

/-- The numbers given are those of the accepted messages, and so are the messages kept. -/
structure Holds (accepted : Accepted) (producer : ProducerState) : Prop where
  nextId_eq : producer.nextId.toNat = accepted.length
  kept : ∀ msg, some msg ∈ producer.buffer.buffer → Carries accepted msg

variable {ctx : StreamContext} {isBidirectional slimClosed : Bool} {producer : ProducerState}
  {accepted : Accepted} {msg : ProtoMessage}

theorem holds_new : Holds [] new := by
  constructor
  · rfl
  · intro msg hmsg
    cases List.eq_of_mem_replicate hmsg

/-- A publication can be numbered, and its headers are known then. -/
theorem exists_stamp (producer : ProducerState) (isBidirectional : Bool) {header : ProtoSlimHeader}
    {session : SessionHeader} (hheaders : msg.Headers header session) :
    ∃ sent, producer.stamp isBidirectional msg = .ok sent ∧
      sent.Headers { header with fanout := STREAM_BROADCAST }
        { session with
          headerType := (if isBidirectional then SessionHeaderType.pubSub else .stream).toInt
          messageId := producer.nextId } := by
  obtain ⟨typed, htyped, hheaders⟩ := hheaders.modifySessionHeader fun session =>
    { session with
      headerType := (if isBidirectional then SessionHeaderType.pubSub else .stream).toInt }
  obtain ⟨numbered, hnumbered, hheaders⟩ := hheaders.modifySessionHeader fun session =>
    { session with messageId := producer.nextId }
  obtain ⟨sent, hsent, hheaders⟩ := hheaders.modifySlimHeader fun header =>
    { header with fanout := STREAM_BROADCAST }
  refine ⟨sent, ?_, hheaders⟩
  rw [stamp, ProtoMessage.setHeaderType, htyped, bind_ok, ProtoMessage.setMessageId, hnumbered,
    bind_ok, ProtoMessage.setFanout, hsent]

theorem stamp_eq_ok {sent : ProtoMessage} (hsent : producer.stamp isBidirectional msg = .ok sent) :
    getId sent = producer.nextId ∧ sent.content = msg.content ∧ sent.metadata = msg.metadata := by
  obtain ⟨typed, htyped, hsent⟩ := bind_eq_ok hsent
  obtain ⟨numbered, hnumbered, hsent⟩ := bind_eq_ok hsent
  obtain ⟨session, -, -, hcontent, hmetadata⟩ := ProtoMessage.modifySessionHeader_eq_ok htyped
  obtain ⟨typedSession, -, hsession, hcontent', hmetadata'⟩ :=
    ProtoMessage.modifySessionHeader_eq_ok hnumbered
  obtain ⟨header, -, rfl⟩ := ProtoMessage.modifySlimHeader_eq_ok hsent
  refine ⟨getId_of_getMessageId ?_, ?_, ?_⟩
  · simp only [ProtoMessage.getMessageId, ProtoMessage.getSessionHeader_withHeader, hsession,
      bind_ok]
    rfl
  · rw [ProtoMessage.content_withHeader, hcontent', hcontent]
  · rw [ProtoMessage.metadata_withHeader, hmetadata', hmetadata]

theorem mem_toSlim_sendOrReport {sent : ProtoMessage}
    (hsent : sent ∈ (sendOrReport msg slimClosed).toSlim) : sent = msg := by
  cases slimClosed with
  | true => cases hsent
  | false => exact List.mem_singleton.1 hsent

/-- The items of a producer that sends are reports of the session itself. -/
theorem fst_of_mem_toApp [NameHash] {next : ProducerState} {effects : Effects}
    (hrun : producer.processMessageFromApp ctx isBidirectional msg slimClosed =
      .ok (effects, next)) : ∀ item ∈ effects.toApp, item.1 = none := by
  obtain ⟨stamped, -, hrun⟩ := mapError_bind_eq_ok hrun
  obtain ⟨buffer, -, hrun⟩ := mapError_bind_eq_ok hrun
  obtain ⟨nextId, -, hrun⟩ := mapError_bind_eq_ok hrun
  cases hrun
  intro item hitem
  cases slimClosed with
  | true => rw [List.mem_singleton.1 hitem]
  | false => cases hitem

/-- A message of the application gets the next number. -/
theorem Holds.accept [NameHash] {next : ProducerState} (hp : producer.Holds accepted)
    {effects : Effects}
    (hrun : producer.processMessageFromApp ctx isBidirectional msg slimClosed =
      .ok (effects, next))
    (hcount : accepted.length + 1 < 2 ^ 32) :
    next.Holds (accepted ++ [(producer.nextId, msg)]) ∧
      ∀ sent ∈ effects.toSlim, Carries (accepted ++ [(producer.nextId, msg)]) sent := by
  obtain ⟨stamped, hstamped, hrun⟩ := mapError_bind_eq_ok hrun
  obtain ⟨buffer, hpush, hrun⟩ := mapError_bind_eq_ok hrun
  obtain ⟨nextId, hnext, hrun⟩ := mapError_bind_eq_ok hrun
  cases hrun
  obtain ⟨hid, hcontent, -⟩ := stamp_eq_ok hstamped
  have hcarries : Carries (accepted ++ [(producer.nextId, msg)]) stamped := by
    refine ⟨msg, ?_, by rw [ProtoMessage.blob, hcontent, ProtoMessage.blob]⟩
    rw [hid, hp.nextId_eq, List.getElem?_append_right (Nat.le_refl _), Nat.sub_self]
    rfl
  refine ⟨⟨?_, ?_⟩, ?_⟩
  · rw [List.length_append, List.length_singleton, ← hp.nextId_eq]
    exact Build.toNat_succ32 (by rw [hp.nextId_eq]; exact hcount) hnext
  · intro found hfound
    rcases ProducerBuffer.mem_push hpush hfound with rfl | hold
    · exact hcarries
    · exact (hp.kept found hold).append _
  · intro sent hsent
    rw [mem_toSlim_sendOrReport hsent]
    exact hcarries

/-- The answer to a request is the message kept, or says that there is none. -/
theorem Holds.reply (hp : producer.Holds accepted) {reply : ProtoMessage}
    {answer : Option ProtoMessage} (hrun : producer.processIncomingRtxRequest ctx msg = .ok answer)
    (hreply : reply ∈ answer) :
    Trusted accepted reply := by
  obtain ⟨msgRtxId, -, hrun⟩ := bind_eq_ok hrun
  obtain ⟨pktSrc, -, hrun⟩ := bind_eq_ok hrun
  obtain ⟨incomingConn, -, hrun⟩ := bind_eq_ok hrun
  split at hrun
  next packet hpacket =>
    obtain ⟨payload, hpayload, hrun⟩ := bind_eq_ok hrun
    cases hrun
    obtain ⟨content, rfl, rfl⟩ := Option.map_eq_some_iff.1 hreply
    obtain ⟨hid, hmem⟩ := ProducerBuffer.get_eq_some hpacket
    obtain ⟨original, haccepted, hblob⟩ := hp.kept packet hmem
    intro _
    refine ⟨original, ?_, ?_⟩
    · rw [getId_of_getMessageId hid] at haccepted
      exact haccepted
    · rw [← hblob, ProtoMessage.blob, ProtoMessage.blob, packet.content_of_getPayload hpayload]
      rfl
  next =>
    cases hrun
    cases hreply
    rintro ⟨headerType, htype, hkind⟩
    cases htype
    rcases hkind with hkind | hkind | ⟨-, herror⟩
    · cases hkind
    · cases hkind
    · exact absurd rfl herror

theorem trusted_onTimer {beaconType : SessionHeaderType} {beacon : ProtoMessage}
    (hbeacon : producer.onTimer ctx beaconType = .ok beacon)
    (htype : beaconType = .beaconStream ∨ beaconType = .beaconPubSub) :
    Trusted accepted beacon := by
  obtain ⟨lastMsgId, -, hbeacon⟩ := mapError_bind_eq_ok hbeacon
  cases hbeacon
  rcases htype with rfl | rfl
  · exact trusted_of_headerType .beaconStream rfl (by decide)
  · exact trusted_of_headerType .beaconPubSub rfl (by decide)

end ProducerState

/-! ## The receiver -/

/-- The message of an item for the application; none for an error. -/
def itemMessage : Except SessionError SessionMessage → Option ProtoMessage
  | .ok delivered => some delivered.message
  | .error _ => none

/-- The items are the released messages in order, and the errors among them report losses. -/
theorem sendMessageToApp_eq_ok {sessionId : UInt32} :
    ∀ {messages : List (Option ProtoMessage)} {items : List (Except SessionError SessionMessage)},
      sendMessageToApp sessionId messages = .ok items →
      items.map itemMessage = messages ∧
        ∀ error, .error error ∈ items → error = .messageLost (toString sessionId) := by
  intro messages
  induction messages with
  | nil =>
      intro items hitems
      cases hitems
      exact ⟨rfl, fun _ herror => nomatch herror⟩
  | cons message messages ih =>
      intro items hitems
      cases message with
      | some m =>
          obtain ⟨info, -, hitems⟩ := bind_eq_ok hitems
          obtain ⟨rest, hrest, hitems⟩ := bind_eq_ok hitems
          cases hitems
          obtain ⟨hmessages, herrors⟩ := ih hrest
          refine ⟨by rw [List.map_cons, hmessages]; rfl, ?_⟩
          intro error herror
          rcases List.mem_cons.1 herror with herror | herror
          · cases herror
          · exact herrors error herror
      | none =>
          obtain ⟨rest, hrest, hitems⟩ := bind_eq_ok hitems
          cases hitems
          obtain ⟨hmessages, herrors⟩ := ih hrest
          refine ⟨by rw [List.map_cons, hmessages]; rfl, ?_⟩
          intro error herror
          rcases List.mem_cons.1 herror with herror | herror
          · cases herror
            rfl
          · exact herrors error herror

/-- The items for the application that stand for a producer. -/
def itemsFor (name : Agent) (delivered : AppItems) : List (Except SessionError SessionMessage) :=
  (delivered.filter fun item => decide (item.1.map key = some (key name))).map Prod.snd

theorem itemsFor_append_same {name other : Agent} (hsame : key name = key other)
    (delivered : AppItems)
    (items : List (Except SessionError SessionMessage)) :
    itemsFor other (delivered ++ items.map fun item => (some name, item)) =
      itemsFor other delivered ++ items := by
  simp [itemsFor, List.filter_map, Function.comp_def, hsame]

theorem itemsFor_append_other {name other : Agent} (hother : key name ≠ key other)
    (delivered : AppItems)
    (items : List (Except SessionError SessionMessage)) :
    itemsFor other (delivered ++ items.map fun item => (some name, item)) =
      itemsFor other delivered := by
  simp [itemsFor, List.filter_map, Function.comp_def, hother]

/-- Reports of the session itself stand for no producer. -/
theorem itemsFor_append_own {own : AppItems} (hown : ∀ item ∈ own, item.1 = none) (name : Agent)
    (delivered : AppItems) : itemsFor name (delivered ++ own) = itemsFor name delivered := by
  have hnone : own.filter (fun item => decide (item.1.map key = some (key name))) = [] := by
    rw [List.filter_eq_nil_iff]
    intro item hitem
    simp [hown item hitem]
  rw [itemsFor, List.filter_append, hnone, List.append_nil, itemsFor]

/-- For every producer, the buffer follows calls that brought messages of the stream only,
    and the items for the application are what it has released. -/
def Tracked (accepted : Accepted) (sessionId : UInt32)
    (delivered : AppItems)
    (buffers : Agent → ReceiverBuffer ProtoMessage) : Prop :=
  ∀ name, (∃ calls, Follows calls ((itemsFor name delivered).map itemMessage) (buffers name) ∧
      ∀ msg, .received msg ∈ calls → Carries accepted msg) ∧
    ∀ error, .error error ∈ itemsFor name delivered → error = .messageLost (toString sessionId)

theorem Tracked.append {accepted : Accepted} {sessionId : UInt32}
    {delivered : AppItems}
    {buffers : Agent → ReceiverBuffer ProtoMessage}
    (hs : Tracked accepted sessionId delivered buffers) (more : Accepted) :
    Tracked (accepted ++ more) sessionId delivered buffers := by
  intro name
  obtain ⟨⟨calls, hfollows, hcarries⟩, herrors⟩ := hs name
  exact ⟨⟨calls, hfollows, fun msg hmsg => (hcarries msg hmsg).append more⟩, herrors⟩

theorem Tracked.append_own {accepted : Accepted} {sessionId : UInt32} {delivered own : AppItems}
    {buffers : Agent → ReceiverBuffer ProtoMessage}
    (hs : Tracked accepted sessionId delivered buffers) (hown : ∀ item ∈ own, item.1 = none) :
    Tracked accepted sessionId (delivered ++ own) buffers := by
  intro name
  rw [itemsFor_append_own hown]
  exact hs name

namespace Receiver

/-- What is kept to be sent again are requests. -/
def Requests (receiver : Receiver) : Prop :=
  ∀ msgId rtx, receiver.rtxMap.get? msgId = some rtx → rtx.getHeaderType = .ok .rtxRequest

theorem requests_new : new.Requests := fun _ _ hrtx => nomatch hrtx

theorem Requests.forget {receiver : Receiver} (hs : receiver.Requests) (msgId : UInt32) :
    (receiver.forget msgId).Requests := by
  intro other rtx hrtx
  simp only [Receiver.forget, HashMap.get?_remove] at hrtx
  split at hrtx
  next => cases hrtx
  next => exact hs other rtx hrtx

theorem Requests.cleanAfter {receiver : Receiver} (hs : receiver.Requests)
    (headerType : SessionHeaderType) (msgId : UInt32) :
    (receiver.cleanAfter headerType msgId).Requests := by
  unfold Receiver.cleanAfter
  split
  next => exact hs.forget msgId
  next => exact hs

theorem Requests.track {receiver : Receiver} (hs : receiver.Requests) (ctx : StreamContext)
    (producerName : Agent) (producerConn : Nat) (msgId : UInt32) :
    (Receiver.track ctx producerName producerConn receiver msgId).Requests := by
  intro other rtx hrtx
  simp only [Receiver.track, HashMap.get?_insert] at hrtx
  split at hrtx
  next =>
    cases hrtx
    rfl
  next => exact hs other rtx hrtx

theorem Requests.foldl_track (ctx : StreamContext) (producerName : Agent) (producerConn : Nat)
    (rtx : List UInt32) {receiver : Receiver} (hs : receiver.Requests) :
    (rtx.foldl (Receiver.track ctx producerName producerConn) receiver).Requests := by
  induction rtx generalizing receiver with
  | nil => exact hs
  | cons msgId rest ih => exact ih (hs.track ctx producerName producerConn msgId)

end Receiver

namespace ReceiverState

def bufferOf (state : ReceiverState) (name : Agent) : ReceiverBuffer ProtoMessage :=
  (state.receiverFor name).buffer

variable {name other : Agent} {receiver : Receiver}

theorem receiverFor_of_get (state : ReceiverState)
    (hreceiver : state.buffers.get? name = some receiver) : state.receiverFor name = receiver := by
  rw [receiverFor, hreceiver, Option.getD_some]

theorem receiverFor_put_same (state : ReceiverState) (hsame : key other = key name)
    (receiver : Receiver) :
    (state.put name receiver).receiverFor other = receiver := by
  simp only [receiverFor, put, HashMap.get?_insert, if_pos hsame, Option.getD_some]

theorem receiverFor_put_other (state : ReceiverState) (hother : key other ≠ key name)
    (receiver : Receiver) :
    (state.put name receiver).receiverFor other = state.receiverFor other := by
  simp only [receiverFor, put, HashMap.get?_insert, if_neg hother]

theorem receiverFor_congr (state : ReceiverState)
    (hsame : key other = key name) : state.receiverFor other = state.receiverFor name := by
  simp only [receiverFor, state.buffers.get?_congr hsame]

theorem bufferOf_put_same (state : ReceiverState) (receiver : Receiver)
    (hsame : key name = key other) :
    (state.put name receiver).bufferOf other = receiver.buffer := by
  rw [bufferOf, receiverFor_put_same state hsame.symm]

theorem bufferOf_put_other (state : ReceiverState) (receiver : Receiver)
    (hother : key name ≠ key other) :
    (state.put name receiver).bufferOf other = state.bufferOf other := by
  rw [bufferOf, receiverFor_put_other state hother.symm, bufferOf]

theorem bufferOf_congr (state : ReceiverState)
    (hsame : key name = key other) : state.bufferOf name = state.bufferOf other := by
  rw [bufferOf, state.receiverFor_congr hsame, bufferOf]

theorem requests_put {state : ReceiverState} (hs : ∀ name, (state.receiverFor name).Requests)
    (name : Agent) (hreceiver : receiver.Requests) (other : Agent) :
    ((state.put name receiver).receiverFor other).Requests := by
  by_cases hsame : key other = key name
  · rw [receiverFor_put_same state hsame]
    exact hreceiver
  · rw [receiverFor_put_other state hsame]
    exact hs other

/-- The receivers of a session whose peer has accepted the given messages. -/
structure Served (accepted : Accepted) (sessionId : UInt32)
    (delivered : AppItems) (state : ReceiverState) :
    Prop where
  tracked : Tracked accepted sessionId delivered state.bufferOf
  requests : ∀ name, (state.receiverFor name).Requests

theorem served_new (accepted : Accepted) (sessionId : UInt32) :
    Served accepted sessionId [] new := by
  constructor
  · intro name
    refine ⟨⟨[], .waiting waiting_default, ?_⟩, ?_⟩
    · intro msg hmsg
      cases hmsg
    · intro error herror
      cases herror
  · exact fun _ => Receiver.requests_new

section Steps

variable {ctx : StreamContext} {accepted : Accepted}
  {delivered : AppItems} {state : ReceiverState}

/-- A call on the buffer of a producer, whose output goes to the application. -/
theorem tracked_call (hs : Tracked accepted ctx.sessionId delivered state.bufferOf)
    {name : Agent} {call : BufferCall ProtoMessage} {recv : List (Option ProtoMessage)}
    {rtx : List UInt32} {buffer : ReceiverBuffer ProtoMessage}
    (hrun : (state.bufferOf name).handle ctx.build call = .ok ((recv, rtx), buffer))
    (hcall : ∀ msg, call = .received msg → Carries accepted msg)
    {items : List (Except SessionError SessionMessage)}
    (hitems : sendMessageToApp ctx.sessionId recv = .ok items) {receiver : Receiver}
    (hbuffer : receiver.buffer = buffer) :
    Tracked accepted ctx.sessionId (delivered ++ items.map fun item => (some name, item))
      (state.put name receiver).bufferOf := by
  obtain ⟨hmessages, hlosses⟩ := sendMessageToApp_eq_ok hitems
  intro other
  obtain ⟨⟨calls, hfollows, hcarries⟩, herrors⟩ := hs other
  by_cases hsame : key name = key other
  · rw [itemsFor_append_same hsame, bufferOf_put_same _ _ hsame, hbuffer]
    refine ⟨⟨calls ++ [call], ?_, ?_⟩, ?_⟩
    · rw [List.map_append, hmessages]
      rw [state.bufferOf_congr hsame] at hrun
      exact hfollows.handle hrun
    · intro msg hmsg
      rcases List.mem_append.1 hmsg with hmsg | hmsg
      · exact hcarries msg hmsg
      · exact hcall msg (List.mem_singleton.1 hmsg).symm
    · intro error herror
      rcases List.mem_append.1 herror with herror | herror
      · exact herrors error herror
      · exact hlosses error herror
  · rw [itemsFor_append_other hsame, bufferOf_put_other _ _ hsame]
    exact ⟨⟨calls, hfollows, hcarries⟩, herrors⟩

/-- A change to what is kept for a producer beside its buffer. -/
theorem tracked_put (hs : Tracked accepted ctx.sessionId delivered state.bufferOf) {name : Agent}
    {receiver : Receiver} (hbuffer : receiver.buffer = state.bufferOf name) :
    Tracked accepted ctx.sessionId delivered (state.put name receiver).bufferOf := by
  have hsame : (state.put name receiver).bufferOf = state.bufferOf := by
    funext other
    by_cases hkey : key name = key other
    · rw [bufferOf_put_same _ _ hkey, hbuffer, state.bufferOf_congr hkey]
    · rw [bufferOf_put_other _ _ hkey]
  rwa [hsame]

theorem Served.receive (hs : Served accepted ctx.sessionId delivered state) {msg : ProtoMessage}
    (hmsg : Trusted accepted msg) {effects : Effects} {next : ReceiverState}
    (hrun : state.processMessageFromSlim ctx msg = .ok (effects, next)) :
    Served accepted ctx.sessionId (delivered ++ effects.toApp) next ∧
      ∀ sent ∈ effects.toSlim, sent.getHeaderType = .ok .rtxRequest := by
  obtain ⟨producerName, -, hrun⟩ := mapError_bind_eq_ok hrun
  obtain ⟨producerConn, -, hrun⟩ := mapError_bind_eq_ok hrun
  obtain ⟨headerType, -, hrun⟩ := mapError_bind_eq_ok hrun
  obtain ⟨msgId, -, hrun⟩ := mapError_bind_eq_ok hrun
  obtain ⟨call, hcall, hrun⟩ := mapError_bind_eq_ok hrun
  cases call with
  | none =>
      -- the header type is not one for a receiver, but the producer is known from now on
      cases hrun
      refine ⟨⟨?_, requests_put hs.requests _ (hs.requests _)⟩, List.forall_mem_nil _⟩
      rw [Effects.nothing, List.append_nil]
      exact tracked_put hs.tracked rfl
  | some call =>
      obtain ⟨⟨⟨recv, rtx⟩, buffer⟩, hhandle, hrun⟩ := mapError_bind_eq_ok hrun
      obtain ⟨items, hitems, hrun⟩ := mapError_bind_eq_ok hrun
      cases hrun
      have hcarries : ∀ found, call = .received found → Carries accepted found := by
        rintro found rfl
        obtain ⟨rfl, hstreamed⟩ := ProtoMessage.isStreamed_of_bufferCall hcall
        exact hmsg hstreamed
      refine ⟨⟨tracked_call hs.tracked hhandle hcarries hitems ?_, ?_⟩, ?_⟩
      · rw [Receiver.buffer_foldl_track, Receiver.buffer_cleanAfter]
      · apply requests_put hs.requests
        apply Receiver.Requests.foldl_track
        apply Receiver.Requests.cleanAfter
        exact hs.requests producerName
      · intro sent hsent
        obtain ⟨id, -, rfl⟩ := List.mem_map.1 hsent
        rfl

theorem Served.timeout (hs : Served accepted ctx.sessionId delivered state) (producerName : Agent)
    (msgId : UInt32) :
    Served accepted ctx.sessionId
        (delivered ++ (state.handleRtxTimeout producerName msgId).1.toApp)
        (state.handleRtxTimeout producerName msgId).2 ∧
      ∀ sent ∈ (state.handleRtxTimeout producerName msgId).1.toSlim,
        sent.getHeaderType = .ok .rtxRequest := by
  unfold handleRtxTimeout
  split
  next => exact ⟨by rwa [Effects.nothing, List.append_nil], List.forall_mem_nil _⟩
  next receiver hreceiver =>
    have hfor := state.receiverFor_of_get hreceiver
    have hrequests := hs.requests producerName
    rw [hfor] at hrequests
    split
    next rtx hrtx =>
      refine ⟨by rwa [List.append_nil], ?_⟩
      intro sent hsent
      rw [List.mem_singleton] at hsent
      rw [hsent]
      exact hrequests msgId rtx hrtx
    next =>
      split
      next => exact ⟨by rwa [Effects.nothing, List.append_nil], List.forall_mem_nil _⟩
      next =>
        refine ⟨⟨?_, requests_put hs.requests _ hrequests⟩, List.forall_mem_nil _⟩
        rw [Effects.nothing, List.append_nil]
        exact tracked_put hs.tracked (by rw [bufferOf, hfor])

theorem Served.failure (hs : Served accepted ctx.sessionId delivered state) {producerName : Agent}
    {msgId : UInt32} {effects : Effects} {next : ReceiverState}
    (hrun : state.handleRtxFailure ctx producerName msgId = .ok (effects, next)) :
    Served accepted ctx.sessionId (delivered ++ effects.toApp) next ∧
      ∀ sent ∈ effects.toSlim, sent.getHeaderType = .ok .rtxRequest := by
  unfold handleRtxFailure at hrun
  split at hrun
  next =>
    cases hrun
    exact ⟨by rwa [Effects.nothing, List.append_nil], List.forall_mem_nil _⟩
  next receiver hreceiver =>
    have hfor := state.receiverFor_of_get hreceiver
    have hrequests := hs.requests producerName
    rw [hfor] at hrequests
    obtain ⟨⟨recv, buffer⟩, hlost, hrun⟩ := mapError_bind_eq_ok hrun
    obtain ⟨items, hitems, hrun⟩ := mapError_bind_eq_ok hrun
    cases hrun
    have hhandle : (state.bufferOf producerName).handle ctx.build (.lost msgId) =
        .ok ((recv, []), buffer) := by
      have hbuffer : (receiver.forget msgId).buffer = state.bufferOf producerName := by
        rw [bufferOf, hfor, Receiver.forget]
      simp only [ReceiverBuffer.handle, ← hbuffer, hlost, bind_ok]
    refine ⟨⟨?_, requests_put hs.requests _ (hrequests.forget msgId)⟩, List.forall_mem_nil _⟩
    refine tracked_call hs.tracked hhandle ?_ hitems rfl
    intro msg hmsg
    cases hmsg

theorem Served.timer (hs : Served accepted ctx.sessionId delivered state) {producerName : Agent}
    {msgId : UInt32} {retry : Bool} {effects : Effects} {next : ReceiverState}
    (hrun : state.onRtxTimer ctx producerName msgId retry = .ok (effects, next)) :
    Served accepted ctx.sessionId (delivered ++ effects.toApp) next ∧
      ∀ sent ∈ effects.toSlim, sent.getHeaderType = .ok .rtxRequest := by
  cases retry with
  | true =>
      have hpair : state.handleRtxTimeout producerName msgId = (effects, next) := Except.ok.inj hrun
      have htimeout := hs.timeout producerName msgId
      rwa [hpair] at htimeout
  | false => exact hs.failure hrun

end Steps

end ReceiverState

end Slim
