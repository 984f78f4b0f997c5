import Slim.StreamingOrder

/-!
# Two streaming sessions and the network between them

Each session handles one event at a time, and what it sends goes to the other one.  The
network keeps every message ever sent.  It may hand over any of them at any time, any
number of times or never, with the connections of the last hop in the header.  Timer
events wait in a channel, and so may come at any time too, even for a timer that has been
stopped.

The messages that a producer has accepted, all that was sent and all that was handed to
the application are recorded beside the state.
-/

namespace Slim

open HashKey Machine StreamPanic

/-! ## What one event can do -/

/-- The application message that an event makes the producer accept, with its id. -/
def acceptedBy (prod : Option ProducerState) : StreamEvent → Accepted
  | .message msg .South _ => prod.toList.map fun state => (state.nextId, msg)
  | _ => []

namespace Endpoint

/-- What an event does to the two halves of a session, and what is sent. -/
inductive Outcome [NameHash] (ctx : StreamContext) :
    Option ProducerState → Option ReceiverState → StreamEvent → Effects →
      Option ProducerState → Option ReceiverState → Prop
  | accepted {prod next : ProducerState} {recv : Option ReceiverState} {isBidirectional : Bool}
      {msg : ProtoMessage} {slimClosed : Bool} {effects : Effects}
      (hrun : prod.processMessageFromApp ctx isBidirectional msg slimClosed =
        .ok (effects, next)) :
      Outcome ctx (some prod) recv (.message msg .South slimClosed) effects (some next) recv
  | replied {prod : ProducerState} {recv : Option ReceiverState} {msg : ProtoMessage}
      {slimClosed : Bool} {reply : Option ProtoMessage}
      (hrun : prod.processIncomingRtxRequest ctx msg = .ok reply) :
      Outcome ctx (some prod) recv (.message msg .North slimClosed) ⟨reply.toList, []⟩ (some prod)
        recv
  | received {prod : Option ProducerState} {recv next : ReceiverState} {msg : ProtoMessage}
      {direction : MessageDirection} {slimClosed : Bool} {effects : Effects}
      (hrun : recv.processMessageFromSlim ctx msg = .ok (effects, next))
      (hdirection : direction = .South → prod = none) :
      Outcome ctx prod (some recv) (.message msg direction slimClosed) effects prod (some next)
  | rtxTimer {prod : Option ProducerState} {recv next : ReceiverState} {msgId : UInt32}
      {retry : Bool} {producerName : Agent} {effects : Effects}
      (hrun : recv.onRtxTimer ctx producerName msgId retry = .ok (effects, next)) :
      Outcome ctx prod (some recv) (.rtxTimer msgId retry producerName) effects prod (some next)
  | beacon {prod : ProducerState} {recv : Option ReceiverState} {beaconType : SessionHeaderType}
      {beacon : ProtoMessage} (hrun : prod.onTimer ctx beaconType = .ok beacon)
      (htype : beaconType = .beaconStream ∨ beaconType = .beaconPubSub) :
      Outcome ctx (some prod) recv .producerTimer ⟨[beacon], []⟩ (some prod) recv
  | ignored {prod : Option ProducerState} {recv : Option ReceiverState} {event : StreamEvent}
      (hevent : ∀ msg slimClosed, event ≠ .message msg .South slimClosed) :
      Outcome ctx prod recv event Effects.nothing prod recv

section Outcome

variable [NameHash] {ctx : StreamContext} {endpoint next : Endpoint}

theorem outcome_of_onMessage {msg : ProtoMessage} {direction : MessageDirection} {slimClosed : Bool}
    {effects : Effects}
    (hrun : endpoint.onMessage ctx msg slimClosed direction = .ok (effects, next)) :
    Outcome ctx endpoint.producer? endpoint.receiver? (.message msg direction slimClosed) effects
      next.producer? next.receiver? := by
  cases endpoint with
  | producer prod =>
      cases direction with
      | North =>
          obtain ⟨headerType, -, hrun⟩ := mapError_bind_eq_ok hrun
          split at hrun
          next =>
            obtain ⟨reply, hreply, hrun⟩ := mapError_bind_eq_ok hrun
            cases hrun
            exact .replied hreply
          next =>
            cases hrun
            exact .ignored fun _ _ hsame => nomatch hsame
      | South =>
          obtain ⟨⟨sent, after⟩, haccept, hrun⟩ := bind_eq_ok hrun
          cases hrun
          exact .accepted haccept
  | receiver recv =>
      obtain ⟨⟨sent, after⟩, hreceive, hrun⟩ := bind_eq_ok hrun
      cases hrun
      exact .received hreceive fun _ => rfl
  | bidirectional recv prod =>
      cases direction with
      | North =>
          obtain ⟨headerType, -, hrun⟩ := mapError_bind_eq_ok hrun
          split at hrun
          next =>
            obtain ⟨reply, hreply, hrun⟩ := mapError_bind_eq_ok hrun
            cases hrun
            exact .replied hreply
          next =>
            obtain ⟨⟨sent, after⟩, hreceive, hrun⟩ := bind_eq_ok hrun
            cases hrun
            exact .received hreceive fun hsouth => nomatch hsouth
      | South =>
          obtain ⟨⟨sent, after⟩, haccept, hrun⟩ := bind_eq_ok hrun
          cases hrun
          exact .accepted haccept

theorem outcome_of_onRtxTimer {msgId : UInt32} {retry : Bool} {producerName : Agent}
    {effects : Effects}
    (hrun : endpoint.onRtxTimer ctx msgId retry producerName = .ok (effects, next)) :
    Outcome ctx endpoint.producer? endpoint.receiver? (.rtxTimer msgId retry producerName) effects
      next.producer? next.receiver? := by
  cases endpoint with
  | producer prod =>
      cases hrun
      exact .ignored fun _ _ hsame => nomatch hsame
  | receiver recv =>
      obtain ⟨⟨sent, after⟩, htimer, hrun⟩ := bind_eq_ok hrun
      cases hrun
      exact .rtxTimer htimer
  | bidirectional recv prod =>
      obtain ⟨⟨sent, after⟩, htimer, hrun⟩ := bind_eq_ok hrun
      cases hrun
      exact .rtxTimer htimer

theorem outcome_of_onProducerTimer {effects : Effects}
    (hrun : endpoint.onProducerTimer ctx = .ok (effects, next)) :
    Outcome ctx endpoint.producer? endpoint.receiver? .producerTimer effects
      next.producer? next.receiver? := by
  cases endpoint with
  | producer prod =>
      obtain ⟨beacon, hbeacon, hrun⟩ := bind_eq_ok hrun
      cases hrun
      exact .beacon hbeacon (.inl rfl)
  | receiver recv =>
      cases hrun
      exact .ignored fun _ _ hsame => nomatch hsame
  | bidirectional recv prod =>
      obtain ⟨beacon, hbeacon, hrun⟩ := bind_eq_ok hrun
      cases hrun
      exact .beacon hbeacon (.inr rfl)

theorem outcome_of_processEvent {event : StreamEvent} {effects : Effects}
    (hrun : endpoint.processEvent ctx event = .ok (effects, next)) :
    Outcome ctx endpoint.producer? endpoint.receiver? event effects
      next.producer? next.receiver? := by
  cases event with
  | message msg direction slimClosed => exact outcome_of_onMessage hrun
  | rtxTimer msgId retry producerName => exact outcome_of_onRtxTimer hrun
  | producerTimer => exact outcome_of_onProducerTimer hrun

/-- The halves of a session that has accepted `accepted` and has handed `delivered` to its
    application, while the other session has accepted `peer`. -/
structure HalvesSound (accepted peer : Accepted) (sessionId : UInt32)
    (delivered : AppItems)
    (prod : Option ProducerState) (recv : Option ReceiverState) : Prop where
  holds : ∀ state ∈ prod, state.Holds accepted
  served : ∀ state ∈ recv, state.Served peer sessionId delivered

variable {accepted peer : Accepted}
  {delivered : AppItems}
  {prod prod' : Option ProducerState} {recv recv' : Option ReceiverState} {event : StreamEvent}
  {effects : Effects}

/-- One event, if the network hands over messages of the stream only and the application
    sends on a session with a producer. -/
theorem Outcome.sound (houtcome : Outcome ctx prod recv event effects prod' recv')
    (hs : HalvesSound accepted peer ctx.sessionId delivered prod recv)
    (hnorth : ∀ msg slimClosed, event = .message msg .North slimClosed → Trusted peer msg)
    (hsouth : ∀ msg slimClosed, event = .message msg .South slimClosed → prod.isSome = true)
    (hcount : (accepted ++ acceptedBy prod event).length < 2 ^ 32) :
    HalvesSound (accepted ++ acceptedBy prod event) peer ctx.sessionId
        (delivered ++ effects.toApp) prod' recv' ∧
      ∀ msg ∈ effects.toSlim, Trusted (accepted ++ acceptedBy prod event) msg := by
  have hrequest : ∀ (sent : List ProtoMessage),
      (∀ msg ∈ sent, msg.getHeaderType = .ok .rtxRequest) →
        ∀ msg ∈ sent, Trusted (accepted ++ acceptedBy prod event) msg := by
    intro sent hsent msg hmsg
    exact trusted_of_headerType .rtxRequest (hsent msg hmsg) (by decide)
  cases houtcome with
  | accepted hrun =>
      rw [List.length_append] at hcount
      obtain ⟨hholds, hcarries⟩ := (hs.holds _ rfl).accept hrun hcount
      have hown := ProducerState.fst_of_mem_toApp hrun
      refine ⟨⟨?_, ?_⟩, fun msg hmsg _ => hcarries msg hmsg⟩
      · rintro _ ⟨⟩
        exact hholds
      · intro state hstate
        have hserved := hs.served state hstate
        exact ⟨hserved.tracked.append_own hown, hserved.requests⟩
  | replied hrun =>
      simp only [acceptedBy, List.append_nil]
      refine ⟨hs, ?_⟩
      intro msg hmsg
      exact (hs.holds _ rfl).reply hrun (Option.mem_toList.1 hmsg)
  | @received _ state next msg direction slimClosed _ hrun hdirection =>
      cases direction with
      | South => rw [hdirection rfl] at hsouth; cases hsouth msg slimClosed rfl
      | North =>
          obtain ⟨hserved, hsent⟩ := (hs.served _ rfl).receive (hnorth msg slimClosed rfl) hrun
          refine ⟨⟨?_, ?_⟩, hrequest _ hsent⟩
          · simp only [acceptedBy, List.append_nil]
            exact hs.holds
          · rintro _ ⟨⟩
            exact hserved
  | rtxTimer hrun =>
      obtain ⟨hserved, hsent⟩ := (hs.served _ rfl).timer hrun
      refine ⟨⟨?_, ?_⟩, hrequest _ hsent⟩
      · simp only [acceptedBy, List.append_nil]
        exact hs.holds
      · rintro _ ⟨⟩
        exact hserved
  | beacon hrun htype =>
      simp only [acceptedBy, List.append_nil]
      refine ⟨hs, ?_⟩
      intro msg hmsg
      rw [List.mem_singleton] at hmsg
      rw [hmsg]
      exact ProducerState.trusted_onTimer hrun htype
  | ignored hevent =>
      have hnone : acceptedBy prod event = [] := by
        unfold acceptedBy
        split
        next msg slimClosed => exact absurd rfl (hevent msg slimClosed)
        next => rfl
      rw [hnone, List.append_nil, Effects.nothing, List.append_nil]
      exact ⟨hs, List.forall_mem_nil _⟩

theorem Outcome.isSome_producer (houtcome : Outcome ctx prod recv event effects prod' recv') :
    prod'.isSome = prod.isSome := by
  cases houtcome <;> rfl

/-- Without a receiver only the session itself reports to the application. -/
theorem Outcome.toApp_of_none (houtcome : Outcome ctx prod recv event effects prod' recv')
    (hnone : recv' = none) : ∀ item ∈ effects.toApp, item.1 = none := by
  cases houtcome with
  | received => cases hnone
  | rtxTimer => cases hnone
  | accepted hrun => exact ProducerState.fst_of_mem_toApp hrun
  | _ =>
      intro item hitem
      cases hitem

end Outcome

end Endpoint

/-! ## A session and its record -/

/-- A session: its task, which may have stopped, the application messages that its producer
    has accepted, and all that it has sent. -/
structure StreamSession where
  endpoint : Option Endpoint
  accepted : Accepted
  sent : List ProtoMessage
  delivered : AppItems

namespace StreamSession

def new (direction : SessionDirection) : StreamSession :=
  ⟨some (Endpoint.new direction), [], [], []⟩

def step [NameHash] (ctx : StreamContext) (s : StreamSession) (event : StreamEvent) :
    StreamSession :=
  match s.endpoint with
  | none => s
  | some endpoint =>
      match endpoint.processEvent ctx event with
      | .error _ => { s with endpoint := none }
      | .ok (effects, next) =>
          { endpoint := some next
            accepted := s.accepted ++ acceptedBy endpoint.producer? event
            sent := s.sent ++ effects.toSlim
            delivered := s.delivered ++ effects.toApp }

/-- A session of the given direction, while the other one has accepted `peer`. -/
structure Sound (direction : SessionDirection) (peer : Accepted) (sessionId : UInt32)
    (s : StreamSession) : Prop where
  halves : ∀ endpoint ∈ s.endpoint,
    Endpoint.HalvesSound s.accepted peer sessionId s.delivered endpoint.producer?
      endpoint.receiver?
  sends : direction ≠ .Receiver → ∀ endpoint ∈ s.endpoint, endpoint.producer?.isSome = true
  sent : ∀ msg ∈ s.sent, Trusted s.accepted msg
  tracked : ∃ buffers, Tracked peer sessionId s.delivered buffers

theorem sound_new (direction : SessionDirection) (peer : Accepted) (sessionId : UInt32) :
    Sound direction peer sessionId (new direction) := by
  have hholds := ProducerState.holds_new
  have hserved := ReceiverState.served_new peer sessionId
  refine ⟨?_, ?_, List.forall_mem_nil _, _, hserved.tracked⟩
  · rintro _ ⟨⟩
    constructor
    · intro state hstate
      cases direction with
      | Receiver => cases hstate
      | Sender =>
          cases hstate
          exact hholds
      | Bidirectional =>
          cases hstate
          exact hholds
    · intro state hstate
      cases direction with
      | Sender => cases hstate
      | Receiver =>
          cases hstate
          exact hserved
      | Bidirectional =>
          cases hstate
          exact hserved
  · rintro hsends _ ⟨⟩
    cases direction with
    | Receiver => exact absurd rfl hsends
    | Sender => rfl
    | Bidirectional => rfl

section Step

variable {direction : SessionDirection} {peer : Accepted} {s : StreamSession}

/-- The other session accepts more. -/
theorem Sound.append {sessionId : UInt32} (hs : Sound direction peer sessionId s)
    (more : Accepted) : Sound direction (peer ++ more) sessionId s := by
  refine ⟨?_, hs.sends, hs.sent, ?_⟩
  · intro endpoint hendpoint
    obtain ⟨hholds, hserved⟩ := hs.halves endpoint hendpoint
    refine ⟨hholds, ?_⟩
    intro state hstate
    exact ⟨(hserved state hstate).tracked.append more, (hserved state hstate).requests⟩
  · obtain ⟨buffers, htracked⟩ := hs.tracked
    exact ⟨buffers, htracked.append more⟩

variable [NameHash] {ctx : StreamContext}

/-- The record of the accepted messages only grows. -/
theorem exists_accepted_step (ctx : StreamContext) (s : StreamSession) (event : StreamEvent) :
    ∃ more, (s.step ctx event).accepted = s.accepted ++ more := by
  unfold step
  split
  next => exact ⟨[], (List.append_nil _).symm⟩
  next =>
    split
    next => exact ⟨[], (List.append_nil _).symm⟩
    next => exact ⟨_, rfl⟩

theorem Sound.step (hs : Sound direction peer ctx.sessionId s) {event : StreamEvent}
    (hnorth : ∀ msg slimClosed, event = .message msg .North slimClosed → Trusted peer msg)
    (hsouth : ∀ msg slimClosed, event = .message msg .South slimClosed → direction ≠ .Receiver)
    (hcount : (s.step ctx event).accepted.length < 2 ^ 32) :
    Sound direction peer ctx.sessionId (s.step ctx event) := by
  unfold StreamSession.step at hcount ⊢
  split
  next => exact hs
  next endpoint hendpoint =>
    rw [hendpoint] at hcount
    rcases hrun : endpoint.processEvent ctx event with panic | ⟨effects, next⟩
    · refine ⟨?_, ?_, hs.sent, hs.tracked⟩
      · intro _ hnone
        cases hnone
      · intro _ _ hnone
        cases hnone
    · simp only [hrun] at hcount ⊢
      have houtcome := Endpoint.outcome_of_processEvent hrun
      obtain ⟨hhalves, hsent⟩ := houtcome.sound (hs.halves endpoint hendpoint) hnorth
        (fun msg slimClosed hmsg => hs.sends (hsouth msg slimClosed hmsg) endpoint hendpoint) hcount
      refine ⟨?_, ?_, ?_, ?_⟩
      · rintro _ ⟨⟩
        exact hhalves
      · rintro hsends _ ⟨⟩
        rw [houtcome.isSome_producer]
        exact hs.sends hsends endpoint hendpoint
      · intro msg hmsg
        rcases List.mem_append.1 hmsg with hmsg | hmsg
        · exact (hs.sent msg hmsg).append _
        · exact hsent msg hmsg
      · rcases hreceiver : next.receiver? with _ | state
        · obtain ⟨buffers, htracked⟩ := hs.tracked
          exact ⟨buffers, htracked.append_own (houtcome.toApp_of_none hreceiver)⟩
        · exact ⟨_, (hhalves.served state hreceiver).tracked⟩

end Step

end StreamSession

/-! ## The pair -/

inductive Peer where
  | first
  | second
deriving DecidableEq, Repr

def Peer.other : Peer → Peer
  | first => second
  | second => first

abbrev StreamPair := Peer → StreamSession

/-- What can happen.  `deliver` hands a peer the message that the other one has sent at
    position `index`. -/
inductive StreamPairEvent where
  | fromApp (peer : Peer) (msg : ProtoMessage) (slimClosed : Bool)
  | deliver (peer : Peer) (index : Nat) (connections : SlimHeader)
  | rtxTimer (peer : Peer) (msgId : UInt32) (retry : Bool) (producerName : Agent)
  | producerTimer (peer : Peer)

namespace StreamPair

def new (directions : Peer → SessionDirection) : StreamPair :=
  fun peer => StreamSession.new (directions peer)

/-- The session concerned, and the event for it.  Nothing has been sent at a position
    beyond the end. -/
def eventFor (s : StreamPair) : StreamPairEvent → Option (Peer × StreamEvent)
  | .fromApp peer msg slimClosed => some (peer, .message msg .South slimClosed)
  | .deliver peer index connections =>
      (s peer.other).sent[index]?.map fun msg =>
        (peer, .message (msg.carried connections) .North false)
  | .rtxTimer peer msgId retry producerName => some (peer, .rtxTimer msgId retry producerName)
  | .producerTimer peer => some (peer, .producerTimer)

def step [NameHash] (ctx : Peer → StreamContext) (s : StreamPair) (event : StreamPairEvent) :
    StreamPair :=
  match s.eventFor event with
  | none => s
  | some (peer, event) => Function.update s peer ((s peer).step (ctx peer) event)

/-- What an application has got for a producer. -/
def items (s : StreamPair) (peer : Peer) (name : Agent) :
    List (Except SessionError SessionMessage) :=
  itemsFor name (s peer).delivered

/-- The item for an id: a message with that id and the bytes accepted under it, or the
    report of a loss. -/
def IsItemFor (accepted : Accepted) (sessionId : UInt32) (id : Nat) :
    Except SessionError SessionMessage → Prop
  | .ok delivered =>
      (getId delivered.message).toNat = id ∧
        ∃ original, accepted[id]? = some (getId delivered.message, original) ∧
          delivered.message.blob = original.blob
  | .error error => error = .messageLost (toString sessionId)

/-- A tracked record that begins with a message. -/
theorem isItemFor_of_tracked {accepted : Accepted} {sessionId : UInt32} {delivered : AppItems}
    {buffers : Agent → ReceiverBuffer ProtoMessage}
    (hs : Tracked accepted sessionId delivered buffers) {name : Agent} {first : SessionMessage}
    (hfirst : (itemsFor name delivered).head? = some (.ok first)) (k : Nat)
    (item : Except SessionError SessionMessage)
    (hitem : (itemsFor name delivered)[k]? = some item) :
    IsItemFor accepted sessionId ((getId first.message).toNat + k) item := by
  obtain ⟨⟨calls, hfollows, hcarries⟩, herrors⟩ := hs name
  obtain ⟨rest, hitems⟩ : ∃ rest, itemsFor name delivered = .ok first :: rest := by
    rcases hlist : itemsFor name delivered with _ | ⟨head, rest⟩
    · rw [hlist] at hfirst
      cases hfirst
    · rw [hlist] at hfirst
      cases hfirst
      exact ⟨rest, rfl⟩
  cases item with
  | error error => exact herrors error (List.mem_of_getElem? hitem)
  | ok message =>
      rw [hitems] at hfollows hitem
      have hmapped : (some first.message :: rest.map itemMessage)[k]? =
          some (some message.message) := by
        have hmap := congrArg (Option.map itemMessage) hitem
        rwa [← List.getElem?_map] at hmap
      obtain ⟨hid, hcall⟩ := hfollows.delivered k _ hmapped
      obtain ⟨original, haccepted, hblob⟩ := hcarries _ hcall
      rw [hid] at haccepted
      exact ⟨hid, original, haccepted, hblob⟩

section Runs

variable [NameHash] {ctx : Peer → StreamContext} {directions : Peer → SessionDirection}

/-- Both sessions are sound, as long as the numbers do not run out. -/
def Sound (ctx : Peer → StreamContext) (directions : Peer → SessionDirection) (s : StreamPair) :
    Prop :=
  (∀ peer, (s peer).accepted.length < 2 ^ 32) →
    ∀ peer, (s peer).Sound (directions peer) (s peer.other).accepted (ctx peer).sessionId

/-- An application sends only on a session that has a producer. -/
def Admits (directions : Peer → SessionDirection) (event : StreamPairEvent) : Prop :=
  ∀ peer msg slimClosed, event = .fromApp peer msg slimClosed → directions peer ≠ .Receiver

theorem sound_update {s : StreamPair} (hs : Sound ctx directions s) {peer : Peer}
    {event : StreamEvent}
    (hnorth : ∀ msg slimClosed, event = .message msg .North slimClosed →
      ∃ sent ∈ (s peer.other).sent, ∃ connections, msg = sent.carried connections)
    (hsouth : ∀ msg slimClosed, event = .message msg .South slimClosed →
      directions peer ≠ .Receiver) :
    Sound ctx directions (Function.update s peer ((s peer).step (ctx peer) event)) := by
  intro hcount
  obtain ⟨more, hmore⟩ := StreamSession.exists_accepted_step (ctx peer) (s peer) event
  have hbefore : ∀ side, (s side).accepted.length < 2 ^ 32 := by
    intro side
    have hside := hcount side
    by_cases hsame : side = peer
    · subst hsame
      rw [Function.update_self, hmore, List.length_append] at hside
      omega
    · rwa [Function.update_of_ne hsame] at hside
  have hsound := hs hbefore
  have hne : peer.other ≠ peer := by cases peer <;> decide
  intro side
  by_cases hsame : side = peer
  · subst hsame
    have hside := hcount side
    rw [Function.update_self] at hside
    rw [Function.update_self, Function.update_of_ne hne]
    refine (hsound side).step ?_ hsouth hside
    intro msg slimClosed hmsg
    obtain ⟨sent, hsent, connections, rfl⟩ := hnorth msg slimClosed hmsg
    exact ((hsound side.other).sent sent hsent).carried connections
  · have hother : side.other = peer := by
      cases side <;> cases peer <;> first | rfl | exact absurd rfl hsame
    rw [Function.update_of_ne hsame, hother, Function.update_self, hmore]
    have hpeer := hsound side
    rw [hother] at hpeer
    exact hpeer.append more

theorem sound_step {s : StreamPair} {event : StreamPairEvent} (hs : Sound ctx directions s)
    (hadmits : Admits directions event) : Sound ctx directions (s.step ctx event) := by
  cases event with
  | fromApp peer msg slimClosed =>
      refine sound_update hs ?_ ?_
      · intro _ _ hmsg
        cases hmsg
      · intro _ _ _
        exact hadmits peer msg slimClosed rfl
  | deliver peer index connections =>
      rcases hsent : (s peer.other).sent[index]? with _ | sent
      · simp only [step, eventFor, hsent, Option.map_none]
        exact hs
      · simp only [step, eventFor, hsent, Option.map_some]
        refine sound_update hs ?_ ?_
        · intro msg _ hmsg
          cases hmsg
          exact ⟨sent, List.mem_of_getElem? hsent, connections, rfl⟩
        · intro _ _ hmsg
          cases hmsg
  | rtxTimer peer msgId retry producerName =>
      exact sound_update hs (fun _ _ hmsg => nomatch hmsg) (fun _ _ hmsg => nomatch hmsg)
  | producerTimer peer =>
      exact sound_update hs (fun _ _ hmsg => nomatch hmsg) (fun _ _ hmsg => nomatch hmsg)

theorem sound_run {events : List StreamPairEvent}
    (hadmits : ∀ event ∈ events, Admits directions event) :
    Sound ctx directions (Runs.run (step ctx) (new directions) events) :=
  Runs.run_invariant (fun _ _ hs hevent => sound_step hs hevent) events _
    (Runs.along_of_forall events _ hadmits)
    (fun _ peer => StreamSession.sound_new (directions peer) [] (ctx peer).sessionId)

end Runs

/-- Whatever the network and the timers do, as long as fewer than `2 ^ 32` messages are
    accepted: once the first item that an application has got for a producer is a message,
    the item at position `k` is for the `k`-th id from there on, a message with the bytes
    that the other session accepted under this id or the report of its loss, and no id is
    delivered twice. -/
theorem stream_delivered_in_order [NameHash] (ctx : Peer → StreamContext)
    (directions : Peer → SessionDirection) (events : List StreamPairEvent)
    (hadmits : ∀ event ∈ events, Admits directions event)
    (hcount : ∀ peer,
      (Runs.run (step ctx) (new directions) events peer).accepted.length < 2 ^ 32)
    (peer : Peer) (name : Agent) (first : SessionMessage)
    (hfirst : ((Runs.run (step ctx) (new directions) events).items peer name).head? =
      some (.ok first)) :
    (∀ k item, ((Runs.run (step ctx) (new directions) events).items peer name)[k]? = some item →
      IsItemFor (Runs.run (step ctx) (new directions) events peer.other).accepted
        (ctx peer).sessionId ((getId first.message).toNat + k) item) ∧
    ∀ (k l : Nat) (x y : SessionMessage),
      ((Runs.run (step ctx) (new directions) events).items peer name)[k]? = some (.ok x) →
      ((Runs.run (step ctx) (new directions) events).items peer name)[l]? = some (.ok y) →
      getId x.message = getId y.message → k = l := by
  obtain ⟨buffers, htracked⟩ := (sound_run hadmits hcount peer).tracked
  have hitems := isItemFor_of_tracked htracked hfirst
  refine ⟨hitems, ?_⟩
  intro k l x y hx hy hsame
  have hxid := (hitems k _ hx).1
  have hyid := (hitems l _ hy).1
  rw [hsame] at hxid
  omega

/-- The producer of the examples. -/
def sampleProducer : Agent := ⟨⟨1, 1, 1, none⟩, 7⟩

/-- An application message with one byte. -/
def sampleMessage (byte : UInt8) : ProtoMessage :=
  ProtoMessage.newPublish sampleProducer ⟨1, 1, 2, none⟩ none none "text" [byte]

def sampleContext : Peer → StreamContext
  | .first => ⟨.debug, 5, sampleProducer, 10, Duration.fromMillis 1000⟩
  | .second => ⟨.debug, 5, ⟨⟨1, 1, 3, none⟩, 8⟩, 10, Duration.fromMillis 1000⟩

def sampleDirections : Peer → SessionDirection
  | .first => .Sender
  | .second => .Receiver

/-- Of five messages the second is lost once and retransmitted, the third arrives early,
    and the fourth is lost for good. -/
def sampleEvents : List StreamPairEvent :=
  [.fromApp .first (sampleMessage 10) false, .fromApp .first (sampleMessage 11) false,
    .fromApp .first (sampleMessage 12) false, .deliver .second 0 ⟨none, none, some 3⟩,
    .deliver .second 2 ⟨none, none, some 3⟩, .deliver .first 0 ⟨none, none, some 4⟩,
    .deliver .second 3 ⟨none, none, some 3⟩, .fromApp .first (sampleMessage 13) false,
    .fromApp .first (sampleMessage 14) false, .deliver .second 5 ⟨none, none, some 3⟩,
    .rtxTimer .second 3 true sampleProducer, .rtxTimer .second 3 false sampleProducer]

@[reducible] def sampleRun : StreamPair :=
  @Runs.run _ _ (@step sampleHash sampleContext) (new sampleDirections) sampleEvents

theorem stream_delivered_in_order_sample :
    (sampleRun.items .second sampleProducer).map (fun item => (itemMessage item).bind
        ProtoMessage.blob) = [some [10], some [11], some [12], none, some [14]] ∧
      ∀ k item, (sampleRun.items .second sampleProducer)[k]? = some item →
        IsItemFor (sampleRun .first).accepted 5 (0 + k) item := by
  refine ⟨by decide +kernel, ?_⟩
  have hadmits : ∀ event ∈ sampleEvents, Admits sampleDirections event := by
    intro event hevent peer msg slimClosed hfrom
    subst hfrom
    cases peer with
    | first => decide
    | second => simp [sampleEvents] at hevent
  have hcount : ∀ peer, (sampleRun peer).accepted.length < 2 ^ 32 := by
    intro peer
    cases peer with
    | first => decide +kernel
    | second => decide +kernel
  exact (@stream_delivered_in_order sampleHash sampleContext sampleDirections sampleEvents hadmits
    hcount .second sampleProducer _ rfl).1

end StreamPair

end Slim
