import Slim.StreamingOrder
import Slim.ReceiverCalls

/-!
# Recovery of lost messages

A receiver asks again for every id that is missing.  For each producer it keeps the
requests in `rtxMap` and their timers in `timersMap`.  Whatever messages and timer events
come, a hole in the buffer of a producer has its request and a running timer, or its id
is known to be lost.  The converse needs more: a message that was asked for and arrives
by itself leaves its timer running.
-/

namespace Slim

open HashKey Machine StreamPanic ReceiverBuffer

/-- What a receiver is called for.  Timer events may be stale. -/
inductive ReceiverEvent where
  | message (msg : ProtoMessage)
  | timer (producerName : Agent) (msgId : UInt32) (retry : Bool)

/-- The event calls the buffer of a producer.  A timer without a retry left is like the
    answer to a request that says that the message is gone. -/
inductive ReceiverEvent.Calls : ReceiverEvent → Agent → SessionHeaderType → UInt32 →
    BufferCall ProtoMessage → Prop
  | message {msg : ProtoMessage} {name : Agent} {headerType : SessionHeaderType} {msgId : UInt32}
      {call : BufferCall ProtoMessage} (hsource : msg.getSource = .ok name)
      (htype : msg.getHeaderType = .ok headerType) (hid : msg.getMessageId = .ok msgId)
      (hcall : msg.bufferCall = .ok (some call)) : Calls (.message msg) name headerType msgId call
  | failure {name : Agent} {msgId : UInt32} :
      Calls (.timer name msgId false) name .rtxReply msgId (.lost msgId)

/-- The producer that an event is about. -/
def ReceiverEvent.producer : ReceiverEvent → Option Agent
  | .message msg => msg.getSource.toOption
  | .timer producerName _ _ => some producerName

theorem ReceiverEvent.Calls.producer_eq {event : ReceiverEvent} {name : Agent}
    {headerType : SessionHeaderType} {msgId : UInt32} {call : BufferCall ProtoMessage}
    (hcalls : event.Calls name headerType msgId call) : event.producer = some name := by
  cases hcalls with
  | failure => rfl
  | message hsource _ _ _ =>
      rw [ReceiverEvent.producer, hsource]
      rfl

/-- A call is about the id of its event.  The answer to a request brings the message or gives
    up the id, and nothing else gives up an id. -/
theorem ReceiverEvent.Calls.spec {event : ReceiverEvent} {name : Agent}
    {headerType : SessionHeaderType} {msgId : UInt32} {call : BufferCall ProtoMessage}
    (hcalls : event.Calls name headerType msgId call) :
    call.msgId = msgId.toNat ∧
      (headerType = .rtxReply → call.message.isSome = true ∨ call.GivesUp msgId.toNat) ∧
      ∀ id, call.GivesUp id → headerType = .rtxReply := by
  cases hcalls with
  | failure => exact ⟨rfl, fun _ => .inr rfl, fun _ _ => rfl⟩
  | message hsource htype hid hcall =>
      obtain ⟨found, hfound, hcall⟩ := bind_eq_ok hcall
      rw [htype] at hfound
      cases hfound
      obtain ⟨foundId, hfoundId, hcall⟩ := bind_eq_ok hcall
      rw [hid] at hfoundId
      cases hfoundId
      have hgetId := congrArg UInt32.toNat (getId_of_getMessageId hid)
      cases headerType with
      | stream =>
          cases hcall
          exact ⟨hgetId, fun _ => .inl rfl, fun _ hgives => False.elim hgives⟩
      | pubSub =>
          cases hcall
          exact ⟨hgetId, fun _ => .inl rfl, fun _ hgives => False.elim hgives⟩
      | rtxReply =>
          obtain ⟨error, -, hcall⟩ := bind_eq_ok hcall
          split at hcall
          next =>
            cases hcall
            exact ⟨rfl, fun _ => .inr rfl, fun _ _ => rfl⟩
          next =>
            cases hcall
            exact ⟨hgetId, fun _ => .inl rfl, fun _ _ => rfl⟩
      | beaconStream =>
          cases hcall
          refine ⟨rfl, ?_, fun _ hgives => False.elim hgives⟩
          intro htype
          cases htype
      | beaconPubSub =>
          cases hcall
          refine ⟨rfl, ?_, fun _ hgives => False.elim hgives⟩
          intro htype
          cases htype
      | _ => cases hcall

namespace ReceiverState

def onEvent (ctx : StreamContext) (state : ReceiverState) :
    ReceiverEvent → Except StreamPanic (Effects × ReceiverState)
  | .message msg => state.processMessageFromSlim ctx msg
  | .timer producerName msgId retry => state.onRtxTimer ctx producerName msgId retry

/-- A panic ends the task, and no state comes after it. -/
def step (ctx : StreamContext) (state : ReceiverState) (event : ReceiverEvent) : ReceiverState :=
  match state.onEvent ctx event with
  | .ok (_, next) => next
  | .error _ => state

/-! ## What an event can do -/

/-- The receiver of a producer after a call on its buffer. -/
def afterCall (ctx : StreamContext) (state : ReceiverState) (name : Agent) (conn : Nat)
    (headerType : SessionHeaderType) (msgId : UInt32) (rtx : List UInt32)
    (buffer : ReceiverBuffer ProtoMessage) : Receiver :=
  rtx.foldl (Receiver.track ctx name conn)
    ({ state.receiverFor name with buffer }.cleanAfter headerType msgId)

inductive Transition (ctx : StreamContext) (state : ReceiverState) :
    ReceiverEvent → Effects → ReceiverState → Prop
  | quiet {event : ReceiverEvent} {effects : Effects} {next : ReceiverState}
      (hsame : ∀ name, next.receiverFor name = state.receiverFor name)
      (hslim : effects.toSlim = []) : Transition ctx state event effects next
  | called {event : ReceiverEvent} {effects : Effects} {name : Agent} {conn : Nat}
      {headerType : SessionHeaderType} {msgId : UInt32} {call : BufferCall ProtoMessage}
      {recv : List (Option ProtoMessage)} {rtx : List UInt32}
      {buffer : ReceiverBuffer ProtoMessage} (hcalls : event.Calls name headerType msgId call)
      (hhandle : (state.receiverFor name).buffer.handle ctx.build call = .ok ((recv, rtx), buffer))
      (hslim : effects.toSlim = rtx.map (Receiver.rtxRequest ctx name conn)) :
      Transition ctx state event effects
        (state.put name (state.afterCall ctx name conn headerType msgId rtx buffer))
  | repeated {name : Agent} {msgId : UInt32} {rtx : ProtoMessage}
      (hrtx : (state.receiverFor name).rtxMap.get? msgId = some rtx) :
      Transition ctx state (.timer name msgId true) ⟨[rtx], []⟩ state
  | halted {name : Agent} {msgId : UInt32} {receiver : Receiver}
      (hrtx : (state.receiverFor name).rtxMap.contains msgId = false)
      (htimer : (state.receiverFor name).timersMap.contains msgId = true) :
      Transition ctx state (.timer name msgId true) Effects.nothing (state.put name receiver)

/-- A producer that was not heard of before has a new receiver. -/
theorem receiverFor_put_receiverFor (state : ReceiverState) (name other : Agent) :
    (state.put name (state.receiverFor name)).receiverFor other = state.receiverFor other := by
  by_cases hsame : key other = key name
  · rw [receiverFor_put_same state hsame, state.receiverFor_congr hsame]
  · rw [receiverFor_put_other state hsame]

section Transitions

variable {ctx : StreamContext} {state next : ReceiverState} {effects : Effects}

theorem transition_message {msg : ProtoMessage}
    (hrun : state.processMessageFromSlim ctx msg = .ok (effects, next)) :
    Transition ctx state (.message msg) effects next := by
  obtain ⟨name, hsource, hrun⟩ := mapError_bind_eq_ok hrun
  obtain ⟨conn, -, hrun⟩ := mapError_bind_eq_ok hrun
  obtain ⟨headerType, htype, hrun⟩ := mapError_bind_eq_ok hrun
  obtain ⟨msgId, hid, hrun⟩ := mapError_bind_eq_ok hrun
  obtain ⟨call, hcall, hrun⟩ := mapError_bind_eq_ok hrun
  cases call with
  | none =>
      cases hrun
      exact .quiet (state.receiverFor_put_receiverFor name) rfl
  | some call =>
      obtain ⟨⟨⟨recv, rtx⟩, buffer⟩, hhandle, hrun⟩ := mapError_bind_eq_ok hrun
      obtain ⟨items, -, hrun⟩ := mapError_bind_eq_ok hrun
      cases hrun
      exact .called (.message hsource htype hid hcall) hhandle rfl

theorem transition_timeout (ctx : StreamContext) (state : ReceiverState) (name : Agent)
    (msgId : UInt32) :
    Transition ctx state (.timer name msgId true) (state.handleRtxTimeout name msgId).1
      (state.handleRtxTimeout name msgId).2 := by
  unfold handleRtxTimeout
  split
  next => exact .quiet (fun _ => rfl) rfl
  next receiver hreceiver =>
    have hfor := state.receiverFor_of_get hreceiver
    split
    next rtx hrtx => exact .repeated (by rw [hfor, hrtx])
    next hrtx =>
      split
      next => exact .quiet (fun _ => rfl) rfl
      next timer htimer =>
        apply Transition.halted
        · rw [hfor, HashMap.contains, hrtx]
          rfl
        · rw [hfor, HashMap.contains, htimer]
          rfl

theorem transition_failure {name : Agent} {msgId : UInt32}
    (hrun : state.handleRtxFailure ctx name msgId = .ok (effects, next)) :
    Transition ctx state (.timer name msgId false) effects next := by
  unfold handleRtxFailure at hrun
  split at hrun
  next =>
    cases hrun
    exact .quiet (fun _ => rfl) rfl
  next receiver hreceiver =>
    have hfor := state.receiverFor_of_get hreceiver
    obtain ⟨⟨recv, buffer⟩, hlost, hrun⟩ := mapError_bind_eq_ok hrun
    obtain ⟨items, -, hrun⟩ := mapError_bind_eq_ok hrun
    cases hrun
    have hhandle : (state.receiverFor name).buffer.handle ctx.build (.lost msgId) =
        .ok ((recv, []), buffer) := by
      have hbuffer : (receiver.forget msgId).buffer = (state.receiverFor name).buffer := by
        rw [hfor, Receiver.forget]
      simp only [ReceiverBuffer.handle, ← hbuffer, hlost, bind_ok]
    have hafter : { receiver.forget msgId with buffer } =
        state.afterCall ctx name 0 .rtxReply msgId [] buffer := by
      rw [afterCall, hfor]
      rfl
    rw [hafter]
    exact .called .failure hhandle rfl

theorem transition_onEvent {event : ReceiverEvent}
    (hrun : state.onEvent ctx event = .ok (effects, next)) :
    Transition ctx state event effects next := by
  cases event with
  | message msg => exact transition_message hrun
  | timer name msgId retry =>
      cases retry with
      | true =>
          have hpair : state.handleRtxTimeout name msgId = (effects, next) := Except.ok.inj hrun
          have htimeout := transition_timeout ctx state name msgId
          rwa [hpair] at htimeout
      | false => exact transition_failure hrun

end Transitions

end ReceiverState

/-! ## Requests and timers -/

namespace Receiver

/-- The requests and the timers of a receiver: each request has its timer, which runs, and
    is kept under the id it asks for. -/
structure Paired (receiver : Receiver) : Prop where
  keys : ∀ msgId, receiver.rtxMap.contains msgId = receiver.timersMap.contains msgId
  running : ∀ msgId timer, receiver.timersMap.get? msgId = some timer → timer.stopped = false
  numbered : ∀ msgId rtx, receiver.rtxMap.get? msgId = some rtx → rtx.getMessageId = .ok msgId

theorem paired_new : new.Paired where
  keys := fun _ => rfl
  running := fun _ _ htimer => nomatch htimer
  numbered := fun _ _ hrtx => nomatch hrtx

section Maps

variable {receiver : Receiver} (ctx : StreamContext) (name : Agent) (conn : Nat)

theorem Paired.forget (hs : receiver.Paired) (msgId : UInt32) : (receiver.forget msgId).Paired := by
  constructor
  · intro other
    simp only [Receiver.forget, HashMap.contains_remove, hs.keys]
  · intro other timer htimer
    simp only [Receiver.forget, HashMap.get?_remove] at htimer
    split at htimer
    next => cases htimer
    next => exact hs.running other timer htimer
  · intro other rtx hrtx
    simp only [Receiver.forget, HashMap.get?_remove] at hrtx
    split at hrtx
    next => cases hrtx
    next => exact hs.numbered other rtx hrtx

theorem Paired.track (hs : receiver.Paired) (msgId : UInt32) :
    (Receiver.track ctx name conn receiver msgId).Paired := by
  constructor
  · intro other
    simp only [Receiver.track, HashMap.contains_insert, hs.keys]
  · intro other timer htimer
    simp only [Receiver.track, HashMap.get?_insert] at htimer
    split at htimer
    next =>
      cases htimer
      rfl
    next => exact hs.running other timer htimer
  · intro other rtx hrtx
    simp only [Receiver.track, HashMap.get?_insert] at hrtx
    split at hrtx
    next hsame =>
      cases hrtx
      rw [show other = msgId from hsame]
      rfl
    next => exact hs.numbered other rtx hrtx

theorem Paired.foldl_track (rtx : List UInt32) (hs : receiver.Paired) :
    (rtx.foldl (Receiver.track ctx name conn) receiver).Paired := by
  induction rtx generalizing receiver with
  | nil => exact hs
  | cons msgId rest ih => exact ih (hs.track ctx name conn msgId)

theorem Paired.cleanAfter (hs : receiver.Paired) (headerType : SessionHeaderType)
    (msgId : UInt32) : (receiver.cleanAfter headerType msgId).Paired := by
  unfold Receiver.cleanAfter
  split
  next => exact hs.forget msgId
  next => exact hs

/-- The timers of the tracked requests are as the context says. -/
theorem get?_foldl_track (rtx : List UInt32) (receiver : Receiver) (other : UInt32) :
    (rtx.foldl (track ctx name conn) receiver).timersMap.get? other =
      if other ∈ rtx then some ⟨ctx.timeout, ctx.maxRetries, false⟩
      else receiver.timersMap.get? other := by
  induction rtx generalizing receiver with
  | nil => simp
  | cons msgId rest ih =>
      rw [List.foldl_cons, ih]
      by_cases hrest : other ∈ rest
      · simp [hrest]
      · simp [hrest, track, HashMap.get?_insert]

theorem contains_foldl_track (rtx : List UInt32) (receiver : Receiver) (other : UInt32) :
    (rtx.foldl (track ctx name conn) receiver).timersMap.contains other = true ↔
      other ∈ rtx ∨ receiver.timersMap.contains other = true := by
  rw [HashMap.contains, get?_foldl_track, HashMap.contains]
  split <;> simp [*]

theorem contains_cleanAfter (receiver : Receiver) (headerType : SessionHeaderType)
    (msgId other : UInt32) :
    (receiver.cleanAfter headerType msgId).timersMap.contains other = true ↔
      receiver.timersMap.contains other = true ∧ ¬ (headerType = .rtxReply ∧ other = msgId) := by
  unfold cleanAfter
  split
  next htype =>
    simp only [forget, HashMap.contains_remove, htype, true_and, Bool.and_eq_true, key_uint32]
    simp [and_comm]
  next htype => simp [htype]

end Maps

end Receiver

namespace ReceiverState

section AfterCall

variable (ctx : StreamContext) (state : ReceiverState) (name : Agent) (conn : Nat)
  (headerType : SessionHeaderType) (msgId : UInt32) (rtx : List UInt32)
  (buffer : ReceiverBuffer ProtoMessage)

@[simp] theorem buffer_afterCall :
    (state.afterCall ctx name conn headerType msgId rtx buffer).buffer = buffer := by
  rw [afterCall, Receiver.buffer_foldl_track, Receiver.buffer_cleanAfter]

theorem paired_afterCall (hs : (state.receiverFor name).Paired) :
    (state.afterCall ctx name conn headerType msgId rtx buffer).Paired := by
  apply Receiver.Paired.foldl_track
  apply Receiver.Paired.cleanAfter
  exact ⟨hs.keys, hs.running, hs.numbered⟩

theorem contains_afterCall (other : UInt32) :
    (state.afterCall ctx name conn headerType msgId rtx buffer).timersMap.contains other = true ↔
      other ∈ rtx ∨ (state.receiverFor name).timersMap.contains other = true ∧
        ¬ (headerType = .rtxReply ∧ other = msgId) := by
  rw [afterCall, Receiver.contains_foldl_track, Receiver.contains_cleanAfter]

end AfterCall

end ReceiverState

/-! ## Every hole is asked for -/

namespace Receiver

/-- Every hole of the buffer is lost or has its request and its timer. -/
structure Recovers (receiver : Receiver) : Prop where
  sound : receiver.buffer.Sound
  paired : receiver.Paired
  holes : ∀ id, receiver.buffer.Hole id → receiver.buffer.Lost id ∨
    ∃ msgId : UInt32, msgId.toNat = id ∧ receiver.timersMap.contains msgId = true

theorem recovers_new : new.Recovers where
  sound := sound_default
  paired := paired_new
  holes := by
    intro id hhole
    have hnone : (default : ReceiverBuffer ProtoMessage).slotOf id = none :=
      Idle.slotOf_eq ⟨rfl, rfl, rfl⟩ id
    rw [Hole, show new.buffer.slotOf id = none from hnone] at hhole
    cases hhole

end Receiver

namespace ReceiverState

section Recovery

variable {ctx : StreamContext} {state next : ReceiverState} {effects : Effects}
  {event : ReceiverEvent}

theorem recovers_afterCall {name : Agent} (hs : (state.receiverFor name).Recovers) (conn : Nat)
    {headerType : SessionHeaderType} {msgId : UInt32} {call : BufferCall ProtoMessage}
    {recv : List (Option ProtoMessage)} {rtx : List UInt32}
    {buffer : ReceiverBuffer ProtoMessage} (hcalls : event.Calls name headerType msgId call)
    (hhandle : (state.receiverFor name).buffer.handle ctx.build call = .ok ((recv, rtx), buffer)) :
    (state.afterCall ctx name conn headerType msgId rtx buffer).Recovers := by
  obtain ⟨hsound, heffect⟩ := hs.sound.handle hhandle
  refine ⟨by rwa [buffer_afterCall], paired_afterCall _ _ _ _ _ _ _ _ hs.paired, ?_⟩
  intro id hhole
  rw [buffer_afterCall] at hhole ⊢
  obtain ⟨hbrings, hfrom⟩ := heffect.hole id hhole
  rcases hfrom with hold | ⟨asked, hasked, rfl⟩
  · rcases hs.holes id hold with hlost | ⟨found, rfl, hfound⟩
    · exact .inl (heffect.hole_lost id hhole (.inl hlost))
    · by_cases hclean : headerType = .rtxReply ∧ found = msgId
      · -- the answer has come, and it did not bring the message: the id is lost
        obtain ⟨hid, hanswer, -⟩ := hcalls.spec
        rw [hclean.2] at hbrings hhole ⊢
        rcases hanswer hclean.1 with hmessage | hgives
        · exact absurd ⟨hmessage, .inl hid.symm⟩ hbrings
        · exact .inl (heffect.hole_lost _ hhole (.inr hgives))
      · exact .inr ⟨found, rfl, (contains_afterCall ..).2 (.inr ⟨hfound, hclean⟩)⟩
  · exact .inr ⟨asked, rfl, (contains_afterCall ..).2 (.inl hasked)⟩

theorem recovers_transition (hs : ∀ name, (state.receiverFor name).Recovers)
    (hstep : Transition ctx state event effects next) (other : Agent) :
    (next.receiverFor other).Recovers := by
  cases hstep with
  | quiet hsame _ =>
      rw [hsame]
      exact hs other
  | @called _ _ name conn _ _ _ _ _ _ hcalls hhandle _ =>
      by_cases hkey : key other = key name
      · rw [receiverFor_put_same state hkey]
        exact recovers_afterCall (hs name) conn hcalls hhandle
      · rw [receiverFor_put_other state hkey]
        exact hs other
  | repeated _ => exact hs other
  | @halted name msgId _ hrtx htimer =>
      -- a timer without request does not exist
      rw [(hs name).paired.keys, htimer] at hrtx
      cases hrtx

theorem recovers_step (hs : ∀ name, (state.receiverFor name).Recovers) (event : ReceiverEvent)
    (name : Agent) : ((state.step ctx event).receiverFor name).Recovers := by
  unfold step
  split
  next hrun => exact recovers_transition hs (transition_onEvent hrun) name
  next => exact hs name

theorem recovers_run (ctx : StreamContext) (events : List ReceiverEvent) :
    ∀ name, ((Runs.run (step ctx) new events).receiverFor name).Recovers := by
  apply Runs.run_invariant (I := fun state : ReceiverState =>
    ∀ name : Agent, (state.receiverFor name).Recovers) (P := fun _ _ => True)
  · intro state event hs _
    exact recovers_step hs event
  · exact Runs.along_of_forall (P := fun _ => True) events _ fun _ _ => trivial
  · exact fun _ => Receiver.recovers_new

end Recovery

/-- In every state that a receiver reaches, whatever messages and timer events it was called
    for, and for every producer: the requests and the timers have the same ids; the timers
    run; and every empty slot of the buffer is for an id that is lost, or has its request
    and its timer. -/
theorem holes_recovered (ctx : StreamContext) (events : List ReceiverEvent) (name : Agent) :
    let receiver := (Runs.run (step ctx) new events).receiverFor name
    (∀ msgId, receiver.rtxMap.contains msgId = receiver.timersMap.contains msgId) ∧
      (∀ msgId timer, receiver.timersMap.get? msgId = some timer → timer.stopped = false) ∧
      ∀ j, receiver.buffer.buffer[receiver.buffer.firstEntry + j]? = some none →
        receiver.buffer.lostMsgs.contains (receiver.buffer.lastSent + 1 + j) = true ∨
          ∃ msgId : UInt32, msgId.toNat = receiver.buffer.lastSent + 1 + j ∧
            receiver.rtxMap.contains msgId = true ∧ receiver.timersMap.contains msgId = true := by
  intro receiver
  have hs : receiver.Recovers := recovers_run ctx events name
  refine ⟨hs.paired.keys, hs.paired.running, ?_⟩
  intro j hslot
  rcases hs.sound.phase with hstart | hwindow
  · rw [hstart.buffer_eq, List.getElem?_nil] at hslot
    cases hslot
  · have hhole : receiver.buffer.Hole (receiver.buffer.lastSent + 1 + j) := by
      rw [Hole, hwindow.slotOf_eq (by omega), Nat.add_sub_cancel_left]
      exact hslot
    rcases hs.holes _ hhole with hlost | ⟨msgId, hid, htimer⟩
    · exact .inl hlost
    · exact .inr ⟨msgId, hid, by rw [hs.paired.keys, htimer], htimer⟩

end ReceiverState

/-! ## Recovery that stops in time -/

/-- The ids up to this one that are lost are in the window, and the id itself is not lost. -/
def ReceiverBuffer.Clear {M : Type} (s : ReceiverBuffer M) (id : Nat) : Prop :=
  ∀ lost, s.Lost lost → lost ≤ id → lost ≠ id ∧ s.slotOf lost ≠ none

namespace Receiver

/-- The conditions on a call.  A message that was asked for comes as the answer to the
    request, not by itself; the first message has a lower id than those asked for before
    it; no id is asked for that is known to be lost; and a loss is reported for an id
    that is still asked for. -/
def Expects (receiver : Receiver) (headerType : SessionHeaderType) (msgId : UInt32) :
    BufferCall ProtoMessage → Prop
  | .received _ =>
      (headerType = .rtxReply ∨ receiver.timersMap.contains msgId = false) ∧
        receiver.buffer.Clear msgId.toNat ∧
        (receiver.buffer.lastSent = USIZE_MAX → ∀ other, other ≠ msgId →
          receiver.timersMap.contains other = true → msgId.toNat < other.toNat)
  | .beacon _ => receiver.buffer.Clear msgId.toNat
  | .lost _ => receiver.timersMap.contains msgId = true

/-- The ids that are asked for are missing, and so are the lost ones, which are others. -/
structure Current (receiver : Receiver) : Prop where
  timers : ∀ msgId, receiver.timersMap.contains msgId = true →
    receiver.buffer.Missing msgId.toNat ∧ ¬ receiver.buffer.Lost msgId.toNat
  lost : ∀ id, receiver.buffer.Lost id → receiver.buffer.Missing id

theorem current_new : new.Current where
  timers := fun _ htimer => nomatch htimer
  lost := fun _ hlost => nomatch hlost

end Receiver

namespace ReceiverState

/-- The conditions on an event. -/
def Timely (state : ReceiverState) (event : ReceiverEvent) : Prop :=
  ∀ name headerType msgId call, event.Calls name headerType msgId call →
    (state.receiverFor name).Expects headerType msgId call

section Stops

variable {ctx : StreamContext} {state next : ReceiverState} {effects : Effects}
  {event : ReceiverEvent} {name : Agent} {headerType : SessionHeaderType} {msgId : UInt32}
  {call : BufferCall ProtoMessage} {recv : List (Option ProtoMessage)} {rtx : List UInt32}
  {buffer : ReceiverBuffer ProtoMessage}

/-- An id that is asked for and not by this call answered is not brought by it. -/
theorem not_brings_of_timer (hcalls : event.Calls name headerType msgId call)
    (hexpects : (state.receiverFor name).Expects headerType msgId call) {other : UInt32}
    (htimer : (state.receiverFor name).timersMap.contains other = true)
    (hkept : ¬ (headerType = .rtxReply ∧ other = msgId)) :
    ¬ (state.receiverFor name).buffer.Brings call other.toNat := by
  obtain ⟨hid, -, -⟩ := hcalls.spec
  rintro ⟨hmessage, hbrought⟩
  cases call with
  | beacon _ => cases hmessage
  | lost _ => cases hmessage
  | received m =>
      obtain ⟨hlate, -, hfirst⟩ := hexpects
      by_cases hsame : other = msgId
      · rcases hlate with hreply | hnone
        · exact hkept ⟨hreply, hsame⟩
        · rw [hsame, hnone] at htimer
          cases htimer
      · rw [hid] at hbrought
        rcases hbrought with heq | ⟨hwaiting, hle⟩
        · exact hsame (UInt32.toNat_inj.1 heq)
        · have hlt := hfirst hwaiting other hsame htimer
          omega

/-- An id that is lost is not brought. -/
theorem not_brings_of_lost (hs : (state.receiverFor name).Recovers)
    (hcalls : event.Calls name headerType msgId call)
    (hexpects : (state.receiverFor name).Expects headerType msgId call) {id : Nat}
    (hlost : (state.receiverFor name).buffer.Lost id) :
    ¬ (state.receiverFor name).buffer.Brings call id := by
  obtain ⟨hid, -, -⟩ := hcalls.spec
  rintro ⟨hmessage, hbrought⟩
  cases call with
  | beacon _ => cases hmessage
  | lost _ => cases hmessage
  | received m =>
      rw [hid] at hbrought
      rcases hbrought with heq | ⟨hwaiting, hle⟩
      · exact (hexpects.2.1 id hlost (Nat.le_of_eq heq)).1 heq
      · rcases hs.sound.phase with hstart | hwindow
        · exact (hexpects.2.1 id hlost hle).2 (hstart.slotOf_eq id)
        · exact hwindow.started hwaiting

/-- An id that is asked for now is not lost. -/
theorem not_lost_of_requested (hs : (state.receiverFor name).Recovers)
    (hcalls : event.Calls name headerType msgId call)
    (hexpects : (state.receiverFor name).Expects headerType msgId call)
    (hhandle : (state.receiverFor name).buffer.handle ctx.build call = .ok ((recv, rtx), buffer))
    {asked : UInt32} (hasked : asked ∈ rtx) : ¬ buffer.Lost asked.toNat := by
  obtain ⟨hid, -, -⟩ := hcalls.spec
  obtain ⟨-, heffect⟩ := hs.sound.handle hhandle
  obtain ⟨-, -, hslot, hle⟩ := heffect.requested asked hasked
  intro hlost
  rw [hid] at hle
  cases call with
  | received m =>
      have hbefore := (heffect.lost_sub _ hlost).resolve_right fun hgives => hgives
      exact (hexpects.2.1 _ hbefore hle).2 hslot
  | beacon _ =>
      have hbefore := (heffect.lost_sub _ hlost).resolve_right fun hgives => hgives
      exact (hexpects _ hbefore hle).2 hslot
  | lost _ =>
      obtain ⟨⟨ret, left⟩, -, hhandle⟩ := bind_eq_ok hhandle
      cases hhandle
      cases hasked

theorem current_afterCall (hs : (state.receiverFor name).Recovers)
    (hcurrent : (state.receiverFor name).Current) (conn : Nat)
    (hcalls : event.Calls name headerType msgId call)
    (hexpects : (state.receiverFor name).Expects headerType msgId call)
    (hhandle : (state.receiverFor name).buffer.handle ctx.build call = .ok ((recv, rtx), buffer)) :
    (state.afterCall ctx name conn headerType msgId rtx buffer).Current := by
  obtain ⟨hid, -, hgivesUp⟩ := hcalls.spec
  obtain ⟨-, heffect⟩ := hs.sound.handle hhandle
  constructor
  · intro other htimer
    rw [buffer_afterCall]
    rcases (contains_afterCall ..).1 htimer with hasked | ⟨htimer, hkept⟩
    · exact ⟨(heffect.requested other hasked).1,
        not_lost_of_requested hs hcalls hexpects hhandle hasked⟩
    · obtain ⟨hmissing, hlost⟩ := hcurrent.timers other htimer
      have hgone : ¬ ((state.receiverFor name).buffer.Lost other.toNat ∨
          call.GivesUp other.toNat) := by
        rintro (hgone | hgives)
        · exact hlost hgone
        · apply hkept
          refine ⟨hgivesUp _ hgives, ?_⟩
          cases call with
          | lost lostId => exact UInt32.toNat_inj.1 (hgives.symm.trans hid)
          | received _ => cases hgives
          | beacon _ => cases hgives
      refine ⟨heffect.missing _ hmissing ?_ (.inl hgone), fun hnow => ?_⟩
      · exact not_brings_of_timer hcalls hexpects htimer hkept
      · exact hgone (heffect.lost_sub _ hnow)
  · intro id hlost
    rw [buffer_afterCall] at hlost ⊢
    rcases heffect.lost_sub id hlost with hbefore | hgives
    · exact heffect.missing id (hcurrent.lost id hbefore)
        (not_brings_of_lost hs hcalls hexpects hbefore) (.inr hlost)
    · -- the id is given up now, so it was asked for
      cases call with
      | received _ => cases hgives
      | beacon _ => cases hgives
      | lost lostId =>
          have hsame : id = msgId.toNat := hgives.symm.trans hid
          rw [hsame] at hlost ⊢
          refine heffect.missing _ (hcurrent.timers msgId hexpects).1 ?_ (.inr hlost)
          rintro ⟨hmessage, -⟩
          cases hmessage

theorem current_transition (hs : ∀ name, (state.receiverFor name).Recovers)
    (hcurrent : ∀ name, (state.receiverFor name).Current) (htimely : state.Timely event)
    (hstep : Transition ctx state event effects next) (other : Agent) :
    (next.receiverFor other).Current := by
  cases hstep with
  | quiet hsame _ =>
      rw [hsame]
      exact hcurrent other
  | @called _ _ name conn _ _ _ _ _ _ hcalls hhandle _ =>
      by_cases hkey : key other = key name
      · rw [receiverFor_put_same state hkey]
        exact current_afterCall (hs name) (hcurrent name) conn hcalls
          (htimely _ _ _ _ hcalls) hhandle
      · rw [receiverFor_put_other state hkey]
        exact hcurrent other
  | repeated _ => exact hcurrent other
  | @halted name msgId _ hrtx htimer =>
      rw [(hs name).paired.keys, htimer] at hrtx
      cases hrtx

/-- What is sent asks for a missing id. -/
theorem requests_missing (hs : ∀ name, (state.receiverFor name).Recovers)
    (hcurrent : ∀ name, (state.receiverFor name).Current)
    (hstep : Transition ctx state event effects next) {sent : ProtoMessage}
    (hsent : sent ∈ effects.toSlim) :
    ∃ name msgId, event.producer = some name ∧ sent.getMessageId = .ok msgId ∧
      (next.receiverFor name).buffer.Missing msgId.toNat := by
  cases hstep with
  | quiet _ hslim =>
      rw [hslim] at hsent
      cases hsent
  | @called _ _ name conn _ _ _ _ _ _ hcalls hhandle hslim =>
      rw [hslim] at hsent
      obtain ⟨msgId, hasked, rfl⟩ := List.mem_map.1 hsent
      obtain ⟨-, heffect⟩ := (hs name).sound.handle hhandle
      refine ⟨name, msgId, hcalls.producer_eq, rfl, ?_⟩
      rw [receiverFor_put_same state rfl, buffer_afterCall]
      exact (heffect.requested msgId hasked).1
  | @repeated name msgId rtx hrtx =>
      rw [List.mem_singleton.1 hsent]
      refine ⟨name, msgId, rfl, (hs name).paired.numbered msgId rtx hrtx, ?_⟩
      apply ((hcurrent name).timers msgId _).1
      rw [← (hs name).paired.keys, HashMap.contains, hrtx]
      rfl
  | halted _ _ => cases hsent

theorem current_run (ctx : StreamContext) (events : List ReceiverEvent)
    (hsteps : Runs.Along (step ctx) Timely new events) :
    ∀ name, ((Runs.run (step ctx) new events).receiverFor name).Current := by
  have hboth : ∀ name, ((Runs.run (step ctx) new events).receiverFor name).Recovers ∧
      ((Runs.run (step ctx) new events).receiverFor name).Current := by
    apply Runs.run_invariant (I := fun state : ReceiverState => ∀ name : Agent,
      (state.receiverFor name).Recovers ∧ (state.receiverFor name).Current) (P := Timely)
    · intro state event hs htimely name
      refine ⟨recovers_step (fun name => (hs name).1) event name, ?_⟩
      unfold step
      split
      next hrun =>
        exact current_transition (fun name => (hs name).1) (fun name => (hs name).2) htimely
          (transition_onEvent hrun) name
      next => exact (hs name).2
    · exact hsteps
    · exact fun _ => ⟨Receiver.recovers_new, Receiver.current_new⟩
  exact fun name => (hboth name).2

end Stops

/-- In every run whose events meet the conditions, and in every state of it: an id with a
    timer is missing; no lost id is at or below the last one handed over; and the next
    event, if it meets the conditions too, sends requests for missing ids only and
    reports the loss of missing ids only. -/
theorem recovery_stops (ctx : StreamContext) (events : List ReceiverEvent)
    (hsteps : Runs.Along (step ctx) Timely new events) :
    let state := Runs.run (step ctx) new events
    (∀ name msgId, (state.receiverFor name).timersMap.contains msgId = true →
        (state.receiverFor name).buffer.Missing msgId.toNat) ∧
      (∀ name id, (state.receiverFor name).buffer.lostMsgs.contains id = true →
        ¬ (state.receiverFor name).buffer.Past id) ∧
      ∀ event effects next, state.Timely event → state.onEvent ctx event = .ok (effects, next) →
        (∀ sent ∈ effects.toSlim, ∃ name msgId, event.producer = some name ∧
          sent.getMessageId = .ok msgId ∧
          (next.receiverFor name).buffer.Missing msgId.toNat) ∧
        ∀ name headerType msgId lostId, event.Calls name headerType msgId (.lost lostId) →
          (state.receiverFor name).buffer.Missing lostId.toNat := by
  intro state
  have hcurrent : ∀ name, (state.receiverFor name).Current := current_run ctx events hsteps
  refine ⟨?_, ?_, ?_⟩
  · intro name msgId htimer
    exact ((hcurrent name).timers msgId htimer).1
  · intro name id hlost
    exact ((hcurrent name).lost id hlost).1
  · intro event effects next htimely hrun
    constructor
    · intro sent hsent
      exact requests_missing (recovers_run ctx events) hcurrent (transition_onEvent hrun) hsent
    · intro name headerType msgId lostId hcalls
      have hid : lostId.toNat = msgId.toNat := hcalls.spec.1
      rw [hid]
      exact ((hcurrent name).timers msgId (htimely _ _ _ _ hcalls)).1

/-! ### A late original -/

/-- A message of the stream of one producer, with this header type and id, as the network
    hands it over. -/
def sampleStreamed (headerType : SessionHeaderType) (msgId : UInt32) : ProtoMessage :=
  ProtoMessage.newPublishWithHeaders
    (some { ProtoSlimHeader.new ⟨⟨1, 1, 1, none⟩, 7⟩ ⟨1, 1, 2, none⟩ none none with
      incomingConn := some 3 })
    (some ⟨headerType.toInt, 1, msgId⟩) "" []

def sampleContext : StreamContext where
  build := .release
  sessionId := 1
  source := ⟨⟨1, 1, 2, none⟩, 8⟩
  maxRetries := 10
  timeout := 1000

/-- The message with id 2 is late: it is asked for, and then it comes.  Its timer stays, the
    request is sent again although the message was handed over, and when no retry is left
    the id is kept as lost for ever. -/
theorem late_original_leaves_timer :
    let late := Runs.run (step sampleContext) new
      [.message (sampleStreamed .stream 1), .message (sampleStreamed .stream 3),
        .message (sampleStreamed .stream 2)]
    let receiver := late.receiverFor ⟨⟨1, 1, 1, none⟩, 7⟩
    let failed := (late.step sampleContext (.timer ⟨⟨1, 1, 1, none⟩, 7⟩ 2 false)).receiverFor
      ⟨⟨1, 1, 1, none⟩, 7⟩
    receiver.buffer.lastSent = 3 ∧ receiver.timersMap.contains 2 = true ∧
      (late.handleRtxTimeout ⟨⟨1, 1, 1, none⟩, 7⟩ 2).1.toSlim.length = 1 ∧
      failed.buffer.lostMsgs.contains 2 = true ∧ failed.buffer.Past 2 := by
  decide

theorem recovery_stops_sample :
    let state := Runs.run (step sampleContext) new
      [.message (sampleStreamed .stream 1), .message (sampleStreamed .stream 3),
        .message (sampleStreamed .rtxReply 2)]
    ∀ name msgId, (state.receiverFor name).timersMap.contains msgId = true →
      (state.receiverFor name).buffer.Missing msgId.toNat := by
  apply (recovery_stops sampleContext _ _).1
  refine ⟨?_, ?_, ?_, trivial⟩
  · rintro name headerType msgId call ⟨hsource, htype, hid, hcall⟩
    cases hsource
    cases htype
    cases hid
    cases hcall
    refine ⟨.inr rfl, ?_, ?_⟩
    · intro lost hlost
      cases hlost
    · intro _ other _ htimer
      cases htimer
  · rintro name headerType msgId call ⟨hsource, htype, hid, hcall⟩
    cases hsource
    cases htype
    cases hid
    cases hcall
    refine ⟨.inr rfl, ?_, ?_⟩
    · intro lost hlost
      cases hlost
    · intro hwaiting
      cases hwaiting
  · rintro name headerType msgId call ⟨hsource, htype, hid, hcall⟩
    cases hsource
    cases htype
    cases hid
    cases hcall
    refine ⟨.inl rfl, ?_, ?_⟩
    · intro lost hlost
      cases hlost
    · intro hwaiting
      cases hwaiting

end ReceiverState

end Slim
