import Slim.FireAndForget

/-!
# What a fire-and-forget session can do

Every handler is followed once through its branches.  The result is a list of the changes
that an event can make (`Transition`), and everything that is said about the runs of the
processor is derived from this list.
-/

namespace Slim

open HashKey Machine

/-- A result has a property if the first handler leaves a state from which the second one
    reaches it, or fails with it. -/
theorem bind_rule {ε σ α β : Type} {first : EStateM ε σ α} {second : α → EStateM ε σ β} {s : σ}
    {R : EStateM.Result ε σ α → Prop} {Q : EStateM.Result ε σ β → Prop} (hfirst : R (first s))
    (hok : ∀ value left, R (.ok value left) → Q (second value left))
    (herror : ∀ error left, R (.error error left) → Q (.error error left)) :
    Q ((first >>= second) s) := by
  have hbind : (first >>= second) s = match first s with
      | .ok value left => second value left
      | .error error left => .error error left := rfl
  rw [hbind]
  rcases hresult : first s with ⟨value, left⟩ | ⟨error, left⟩
  · rw [hresult] at hfirst
    exact hok value left hfirst
  · rw [hresult] at hfirst
    exact herror error left hfirst

namespace FireAndForgetProcessor

variable {env : FnfEnvironment} {p : FireAndForgetProcessor}

/-- The processor that a handler leaves. -/
def left {α : Type} : FnfResult α → FireAndForgetProcessor
  | .ok _ p => p
  | .error _ p => p

@[simp] theorem left_ok {α : Type} (value : α) (p : FireAndForgetProcessor) :
    left (.ok value p : FnfResult α) = p := rfl

@[simp] theorem left_error {α : Type} (interruption : Interruption) (p : FireAndForgetProcessor) :
    left (.error interruption p : FnfResult α) = p := rfl

theorem get_rule {α : Type} (next : FireAndForgetProcessor → FnfHandler α) :
    ((get : FnfHandler FireAndForgetProcessor) >>= next) p = next p p := rfl

theorem ofAccess_rule {α β : Type} {computation : Except AccessPanic α} {next : α → FnfHandler β}
    {Q : FnfResult β → Prop} (hok : ∀ value, computation = .ok value → Q (next value p))
    (hpanic : ∀ panic, computation = .error panic → Q (.error (.panic panic) p)) :
    Q ((ofAccess computation >>= next) p) := by
  rcases computation with panic | value
  · exact hpanic panic rfl
  · exact hok value rfl

theorem traced_rule {α β : Type} {computation : Except AccessPanic α} {next : Unit → FnfHandler β}
    {Q : FnfResult β → Prop} (hok : Q (next () p))
    (hpanic : ∀ panic, env.debug = true → computation = .error panic →
      Q (.error (.panic panic) p)) :
    Q ((traced env computation >>= next) p) := by
  unfold traced
  split
  next hdebug =>
    rcases computation with panic | value
    · exact hpanic panic hdebug rfl
    · exact hok
  next => exact hok

/-! ## What the channels take -/

/-- What `send_message` has handed to the network. -/
def handed (p : FireAndForgetProcessor) : List (SlimOrigin × ProtoMessage) :=
  p.toSlim.filter fun item => item.1.isCall

/-- The answers to messages that want one. -/
def acks (p : FireAndForgetProcessor) : List (SlimOrigin × ProtoMessage) :=
  p.toSlim.filter fun item => decide (item.1 = .acknowledgement)

/-- The error that an item brings to the application. -/
def errorOf (item : Option Nat × Except SessionError SessionMessage) :
    Option (Option Nat × SessionError) :=
  match item.2 with
  | .error error => some (item.1, error)
  | .ok _ => none

/-- The errors that the application was told. -/
def reports (p : FireAndForgetProcessor) : List (Option Nat × SessionError) :=
  p.toApp.filterMap errorOf

/-- The application is told of an error. -/
def tell (p : FireAndForgetProcessor) (call : Nat) (error : SessionError) :
    FireAndForgetProcessor :=
  { p with appSends := p.appSends + 1, toApp := p.toApp ++ [(some call, .error error)] }

@[simp] theorem reports_tell (p : FireAndForgetProcessor) (call : Nat) (error : SessionError) :
    (p.tell call error).reports = p.reports ++ [(some call, error)] := by
  simp only [reports, tell, List.filterMap_append]
  rfl

/-- Nothing has changed but messages to the network and messages to the application. -/
structure Frame (p q : FireAndForgetProcessor) : Prop where
  state : q.state = p.state
  sent : q.sent = p.sent
  pushed : q.pushed = p.pushed
  stopped : q.stopped = p.stopped
  reports : q.reports = p.reports
  running : q.running = p.running

/-- The messages to the network are neither calls of `send_message` nor answers. -/
structure Quiet (p q : FireAndForgetProcessor) : Prop extends Frame p q where
  handed : q.handed = p.handed
  acks : q.acks = p.acks

theorem Quiet.rfl : Quiet p p :=
  ⟨⟨Eq.refl _, Eq.refl _, Eq.refl _, Eq.refl _, Eq.refl _, Eq.refl _⟩, Eq.refl _, Eq.refl _⟩

theorem Frame.trans {q r : FireAndForgetProcessor} (hfirst : Frame p q) (hsecond : Frame q r) :
    Frame p r where
  state := hsecond.state.trans hfirst.state
  sent := hsecond.sent.trans hfirst.sent
  pushed := hsecond.pushed.trans hfirst.pushed
  stopped := hsecond.stopped.trans hfirst.stopped
  reports := hsecond.reports.trans hfirst.reports
  running := hsecond.running.trans hfirst.running

/-- A message for the network: it is taken, or the channel is closed. -/
inductive Transmitted (env : FnfEnvironment) (p : FireAndForgetProcessor) (origin : SlimOrigin)
    (message : ProtoMessage) : FnfResult Unit → Prop
  | taken {q : FireAndForgetProcessor} (frame : Frame p q)
      (toSlim : q.toSlim = p.toSlim ++ [(origin, message)]) :
      Transmitted env p origin message (.ok () q)
  | refused {q : FireAndForgetProcessor} {text : String}
      (hclosed : env.slimSend p.slimSends = some text) (quiet : Quiet p q) :
      Transmitted env p origin message (.error (.error (.slimTransmission text)) q)

theorem sendToSlim_transmitted (env : FnfEnvironment) (p : FireAndForgetProcessor)
    (origin : SlimOrigin) (message : ProtoMessage) :
    Transmitted env p origin message (sendToSlim env origin message p) := by
  unfold sendToSlim
  split
  next text htext => exact .refused htext ⟨⟨rfl, rfl, rfl, rfl, rfl, rfl⟩, rfl, rfl⟩
  next => exact .taken ⟨rfl, rfl, rfl, rfl, rfl, rfl⟩ rfl

section Taken

variable {q : FireAndForgetProcessor} {origin : SlimOrigin} {message : ProtoMessage}

theorem handed_of_isCall (htoSlim : q.toSlim = p.toSlim ++ [(origin, message)])
    (horigin : origin.isCall = true) : q.handed = p.handed ++ [(origin, message)] := by
  rw [handed, htoSlim, List.filter_append, List.filter_singleton, horigin]
  rfl

theorem handed_of_not_isCall (htoSlim : q.toSlim = p.toSlim ++ [(origin, message)])
    (horigin : origin.isCall = false) : q.handed = p.handed := by
  rw [handed, htoSlim, List.filter_append, List.filter_singleton, horigin]
  exact List.append_nil _

theorem acks_of_ne (htoSlim : q.toSlim = p.toSlim ++ [(origin, message)])
    (horigin : origin ≠ .acknowledgement) : q.acks = p.acks := by
  rw [acks, htoSlim, List.filter_append, List.filter_singleton, decide_eq_false horigin]
  exact List.append_nil _

end Taken

/-- A message that is neither a call of `send_message` nor an answer. -/
theorem Transmitted.quiet {origin : SlimOrigin} {message : ProtoMessage} {result : FnfResult Unit}
    (hsent : Transmitted env p origin message result) (hcall : origin.isCall = false)
    (hack : origin ≠ .acknowledgement) : Quiet p (left result) := by
  cases hsent with
  | taken frame toSlim =>
      exact ⟨frame, handed_of_not_isCall toSlim hcall, acks_of_ne toSlim hack⟩
  | refused hclosed quiet => exact quiet

theorem sendToApp_quiet (env : FnfEnvironment) (p : FireAndForgetProcessor)
    (message : SessionMessage) :
    Quiet p (left (sendToApp env none (.ok message) p)) := by
  unfold sendToApp
  split
  next => exact ⟨⟨rfl, rfl, rfl, rfl, rfl, rfl⟩, rfl, rfl⟩
  next =>
    refine ⟨⟨rfl, rfl, rfl, rfl, ?_, rfl⟩, rfl, rfl⟩
    simp only [reports, left_ok, List.filterMap_append, List.filterMap_cons, errorOf,
      List.filterMap_nil, List.append_nil]

theorem left_ignoreError (handler : FnfHandler Unit) :
    ignoreError handler p = .ok () (left (handler p)) := by
  unfold ignoreError
  rcases handler p with ⟨value, q⟩ | ⟨interruption, q⟩
  · rfl
  · rfl

/-! ## The calls of `send_message` -/

variable {q : FireAndForgetProcessor} {origin : SlimOrigin} {message : SessionMessage}
  {result : FnfResult Unit}

/-- The message that a call of `send_message` sends. -/
def stamps (env : FnfEnvironment) (p : FireAndForgetProcessor) (message : ProtoMessage) :
    Except AccessPanic ProtoMessage :=
  p.state.stampMessage message (env.draw p.sent.length)

/-- The processor when a call of `send_message` has its message ready. -/
def recorded (env : FnfEnvironment) (p : FireAndForgetProcessor) (origin : SlimOrigin)
    (stamped : ProtoMessage) : FireAndForgetProcessor :=
  p.record origin (env.draw p.sent.length) stamped

/-- What a call of `send_message` can do. -/
inductive Called (env : FnfEnvironment) (origin : SlimOrigin) (message : ProtoMessage)
    (p : FireAndForgetProcessor) : FnfResult Unit → Prop
  | unstamped {panic : AccessPanic} (hstamp : stamps env p message = .error panic) :
      Called env origin message p (.error (.panic panic) p)
  | untraced {stamped : ProtoMessage} {panic : AccessPanic}
      (hstamp : stamps env p message = .ok stamped) (hdebug : env.debug = true)
      (hsource : stamped.getSource = .error panic) :
      Called env origin message p (.error (.panic panic) (recorded env p origin stamped))
  | refused {stamped : ProtoMessage} {text : String} {n : Nat} {q : FireAndForgetProcessor}
      (hstamp : stamps env p message = .ok stamped) (hclosed : env.slimSend n = some text)
      (quiet : Quiet (recorded env p origin stamped) q) :
      Called env origin message p (.error (.error (.slimTransmission text)) q)
  | taken {stamped : ProtoMessage} {q : FireAndForgetProcessor}
      (hstamp : stamps env p message = .ok stamped)
      (frame : Frame (recorded env p origin stamped) q)
      (handed : q.handed = p.handed ++ [(origin, stamped)]) (acks : q.acks = p.acks) :
      Called env origin message p (.ok () q)

theorem sendMessage_called (horigin : origin.isCall = true)
    (message : ProtoMessage) : Called env origin message p (sendMessage env origin message p) := by
  refine ofAccess_rule ?_ fun panic (hpanic : stamps env p message = _) => .unstamped hpanic
  intro stamped hstamp
  refine traced_rule (p := recorded env p origin stamped) ?_
    fun panic hdebug hsource => .untraced hstamp hdebug hsource
  have hsent := sendToSlim_transmitted env (recorded env p origin stamped) origin stamped
  revert hsent
  generalize sendToSlim env origin stamped (recorded env p origin stamped) = result
  intro hsent
  cases hsent with
  | taken frame toSlim =>
      refine .taken hstamp frame (handed_of_isCall toSlim horigin) (acks_of_ne toSlim ?_)
      rintro rfl
      cases horigin
  | refused hclosed quiet => exact .refused hstamp hclosed quiet

/-- What the loop over the buffered messages can do. -/
inductive Flushed (env : FnfEnvironment) :
    List ProtoMessage → FireAndForgetProcessor → FnfResult Unit → Prop
  | done (p : FireAndForgetProcessor) : Flushed env [] p (.ok () p)
  | stop {message : ProtoMessage} {messages : List ProtoMessage} {p q : FireAndForgetProcessor}
      {interruption : Interruption} (first : Called env .buffer message p (.error interruption q)) :
      Flushed env (message :: messages) p (.error interruption q)
  | next {message : ProtoMessage} {messages : List ProtoMessage} {p q : FireAndForgetProcessor}
      {result : FnfResult Unit} (first : Called env .buffer message p (.ok () q))
      (rest : Flushed env messages q result) : Flushed env (message :: messages) p result

theorem sendAll_flushed : ∀ (messages : List ProtoMessage) (p : FireAndForgetProcessor),
    Flushed env messages p (sendAll env messages p) := by
  intro messages
  induction messages with
  | nil => exact fun p => .done p
  | cons message messages ih =>
      intro p
      refine bind_rule (R := Called env .buffer message p) (sendMessage_called rfl message) ?_ ?_
      · intro _ q hcalled
        exact .next hcalled (ih q)
      · intro interruption q hcalled
        exact .stop hcalled

/-! ## The events -/

/-- What an event can do to a processor. -/
inductive Transition (env : FnfEnvironment) (p : FireAndForgetProcessor) :
    FnfEvent → FnfResult Unit → Prop
  | quiet {event : FnfEvent} {result : FnfResult Unit} (quiet : Quiet p (left result)) :
      Transition env p event result
  /-- A message of the network is acknowledged, and given to the application. -/
  | answered {message : SessionMessage} {result : FnfResult Unit}
      (htype : message.message.getHeaderType = .ok .fnfReliable) (frame : Frame p (left result))
      (handed : (left result).handed = p.handed) :
      Transition env p (.onMessage message .North) result
  | configured (config : FireAndForgetConfiguration) :
      Transition env p (.setConfig config)
        (.ok () { p with state := { p.state with config := config } })
  | exited : Transition env p .exit (.ok ()
      { p with state := { p.state with timers := HashMap.empty }, running := false })
  /-- A message of the application is sent. -/
  | application {message : SessionMessage} {typed addressed : ProtoMessage}
      {result : FnfResult Unit}
      (htyped : message.message.setHeaderType p.state.headerType = .ok typed)
      (haddressed : addressed.getHeaderType = typed.getHeaderType)
      (hbound : p.state.isSearching = false)
      (called : Called env .application addressed p result) :
      Transition env p (.onMessage message .South) result
  /-- A message of the application is kept until there is a peer. -/
  | buffered {message : SessionMessage} {typed : ProtoMessage} {q : FireAndForgetProcessor}
      (htyped : message.message.setHeaderType p.state.headerType = .ok typed)
      (hsearching : p.state.isSearching = true)
      (hstatus : p.state.stickySessionStatus ≠ .Established)
      (quiet : Quiet ((p.setStatus .Discovering).push typed) q) :
      Transition env p (.onMessage message .South) (.ok () q)
  /-- The search has begun, but the channel to the network is closed. -/
  | unprobed {message : SessionMessage} {text : String} {n : Nat} {q : FireAndForgetProcessor}
      (hsearching : p.state.isSearching = true)
      (hstatus : p.state.stickySessionStatus = .Uninitialized)
      (hclosed : env.slimSend n = some text) (quiet : Quiet (p.setStatus .Discovering) q) :
      Transition env p (.onMessage message .South) (.error (.error (.slimTransmission text)) q)
  | acknowledged {message : SessionMessage} {messageId : UInt32} {timer : FnfTimer}
      {stored : ProtoMessage} (htype : message.message.getHeaderType = .ok .fnfAck)
      (hid : message.info.messageId = some messageId)
      (hstored : p.state.timers.get? messageId = some (timer, stored)) :
      Transition env p (.onMessage message .North) (.ok () ((p.removeTimer messageId).stop timer))
  | discovered {message : SessionMessage} {source : Agent} {connection : Nat}
      {reply : ProtoMessage} {result : FnfResult Unit}
      (htype : message.message.getHeaderType = .ok .fnfDiscovery)
      (haccepts : p.state.Accepts message.message)
      (hsource : message.message.getSource = .ok source)
      (hconnection : message.message.getIncomingConn = .ok connection)
      (hreply : (discoveryReply p.state.source source connection).setHeaderType
        .fnfDiscoveryReply = .ok reply)
      (called : Called env .discoveryReply reply (p.bindTo source connection) result) :
      Transition env p (.onMessage message .North) result
  | established {message : SessionMessage} {source : Agent} {connection : Nat}
      {result : FnfResult Unit}
      (htype : message.message.getHeaderType = .ok .fnfDiscoveryReply)
      (hstatus : p.state.stickySessionStatus = .Discovering)
      (hsource : message.message.getSource = .ok source)
      (hconnection : message.message.getIncomingConn = .ok connection)
      (flushed : Flushed env p.state.stickyBuffer (p.bindTo source connection).drain result) :
      Transition env p (.onMessage message .North) result
  /-- A timer has given up, and its message has no source that could be reported. -/
  | unreported {messageId : UInt32} {timer : FnfTimer} {stored : ProtoMessage}
      {panic : AccessPanic} (hstored : p.state.timers.get? messageId = some (timer, stored))
      (hinfo : Info.ofMessage stored = .error panic) :
      Transition env p (.timerFailure messageId) (.error (.panic panic) (p.removeTimer messageId))
  /-- A timer has given up, and the application does not listen any more. -/
  | unheard {messageId : UInt32} {timer : FnfTimer} {stored : ProtoMessage} {info : Info}
      {text : String} {n : Nat} {q : FireAndForgetProcessor}
      (hstored : p.state.timers.get? messageId = some (timer, stored))
      (hinfo : Info.ofMessage stored = .ok info) (hclosed : env.appSend n = some text)
      (quiet : Quiet (p.removeTimer messageId) q) :
      Transition env p (.timerFailure messageId) (.ok () q)
  | reported {messageId : UInt32} {timer : FnfTimer} {stored : ProtoMessage} {info : Info}
      (hstored : p.state.timers.get? messageId = some (timer, stored))
      (hinfo : Info.ofMessage stored = .ok info) :
      Transition env p (.timerFailure messageId) (.ok () ((p.removeTimer messageId).tell timer.call
        (.timeout p.state.sessionId messageId ⟨stored, info⟩)))

/-- A handler that fails before it has done anything. -/
theorem Transition.unchanged {event : FnfEvent} {interruption : Interruption} :
    Transition env p event (.error interruption p) :=
  .quiet Quiet.rfl

theorem transition_timerTimeout (messageId : UInt32) :
    Transition env p (.timerTimeout messageId) (handleTimerTimeout env messageId p) := by
  refine .quiet ?_
  unfold handleTimerTimeout
  rw [get_rule]
  rcases p.state.timers.get? messageId with _ | ⟨timer, message⟩
  · exact Quiet.rfl
  · dsimp only
    rw [left_ignoreError]
    exact (sendToSlim_transmitted env p .retransmission message).quiet rfl (by decide)

theorem transition_timerFailure (messageId : UInt32) :
    Transition env p (.timerFailure messageId) (handleTimerFailure env messageId p) := by
  unfold handleTimerFailure
  rw [get_rule]
  rcases hstored : p.state.timers.get? messageId with _ | ⟨timer, stored⟩
  · exact .quiet Quiet.rfl
  · refine ofAccess_rule (p := p.removeTimer messageId) ?_ fun panic hinfo =>
      .unreported hstored hinfo
    intro info hinfo
    rw [left_ignoreError]
    unfold sendToApp
    split
    next text htext =>
      exact .unheard hstored hinfo htext ⟨⟨rfl, rfl, rfl, rfl, rfl, rfl⟩, rfl, rfl⟩
    next => exact .reported hstored hinfo

theorem transition_ack {messageId : UInt32} (htype : message.message.getHeaderType = .ok .fnfAck)
    (hid : message.info.messageId = some messageId) :
    Transition env p (.onMessage message .North) (stopAndRemoveTimer messageId p) := by
  unfold stopAndRemoveTimer
  rw [get_rule]
  rcases hstored : p.state.timers.get? messageId with _ | ⟨timer, stored⟩
  · exact .unchanged
  · exact .acknowledged htype hid hstored

theorem transition_discovery (htype : message.message.getHeaderType = .ok .fnfDiscovery)
    (haccepts : p.state.Accepts message.message) :
    Transition env p (.onMessage message .North) (handleStickySessionDiscovery env message p) := by
  refine ofAccess_rule ?_ fun _ _ => .unchanged
  intro source hsource
  refine ofAccess_rule ?_ fun _ _ => .unchanged
  intro connection hconnection
  rw [get_rule]
  refine ofAccess_rule ?_ fun _ _ => .unchanged
  intro reply hreply
  exact .discovered htype haccepts hsource hconnection hreply (sendMessage_called rfl reply)

theorem transition_discoveryReply (htype : message.message.getHeaderType = .ok .fnfDiscoveryReply) :
    Transition env p (.onMessage message .North)
      (handleStickySessionDiscoveryReply env message p) := by
  refine ofAccess_rule ?_ fun _ _ => .unchanged
  intro source hsource
  refine traced_rule ?_ fun _ _ _ => .unchanged
  rw [get_rule]
  cases hstatus : p.state.stickySessionStatus with
  | Discovering =>
      refine ofAccess_rule ?_ fun _ _ => .unchanged
      intro connection hconnection
      exact .established htype hstatus hsource hconnection (sendAll_flushed _ _)
  | Uninitialized =>
      rcases p.state.stickyName with _ | name
      · exact .quiet Quiet.rfl
      · exact .unchanged
  | Established =>
      rcases p.state.stickyName with _ | name
      · exact .quiet Quiet.rfl
      · exact .unchanged

theorem transition_acknowledge (htype : message.message.getHeaderType = .ok .fnfReliable)
    (messageId : UInt32) :
    Transition env p (.onMessage message .North) (acknowledge env message messageId p) := by
  refine ofAccess_rule ?_ fun _ _ => .unchanged
  intro source hsource
  refine ofAccess_rule ?_ fun _ _ => .unchanged
  intro connection hconnection
  rw [get_rule]
  refine bind_rule (sendToSlim_transmitted env p .acknowledgement _) ?_ ?_
  · intro _ q hsent
    cases hsent with
    | taken frame toSlim =>
        have hquiet := sendToApp_quiet env q message
        refine .answered htype (frame.trans hquiet.toFrame) ?_
        rw [hquiet.handed, handed_of_not_isCall toSlim rfl]
  · intro interruption q hsent
    cases hsent with
    | refused hclosed quiet => exact .quiet quiet

theorem transition_dispatch {messageId : UInt32} {headerType : SessionHeaderType}
    (htype : message.message.getHeaderType = .ok headerType)
    (hid : message.info.messageId = some messageId) (haccepts : p.state.Accepts message.message) :
    Transition env p (.onMessage message .North) (dispatch env message messageId headerType p) := by
  cases headerType with
  | fnf => exact .quiet (sendToApp_quiet env p message)
  | fnfReliable => exact transition_acknowledge htype messageId
  | fnfAck => exact transition_ack htype hid
  | fnfDiscovery => exact transition_discovery htype haccepts
  | fnfDiscoveryReply => exact transition_discoveryReply htype
  | _ => exact .unchanged

/-- A message that passes the check is one that the session accepts. -/
theorem checkSource_accepts (p : FireAndForgetProcessor) (message : ProtoMessage) :
    (∃ interruption, checkSource message p = .error interruption p) ∨
      checkSource message p = .ok () p ∧ p.state.Accepts message := by
  unfold checkSource FireAndForgetState.Accepts
  rw [get_rule]
  rcases p.state.config.sticky with _ | _
  · refine .inr ⟨rfl, ?_⟩
    intro hsticky
    cases hsticky
  rcases p.state.stickyName with _ | name
  · refine .inr ⟨rfl, ?_⟩
    intro _ name hname
    cases hname
  rcases hsource : message.getSource with panic | source
  · exact .inl ⟨.panic panic, rfl⟩
  by_cases hsame : key name = key source
  · refine .inr ⟨?_, ?_⟩
    · change (if key name ≠ key source then _ else _ : FnfHandler Unit) p = _
      rw [if_neg (not_not_intro hsame)]
      rfl
    · rintro _ _ ⟨⟩
      exact ⟨source, rfl, hsame⟩
  · refine .inl ⟨.error (.appTransmission ("message source " ++ source.display ++
      " does not match sticky name " ++ name.display)), ?_⟩
    change (if key name ≠ key source then _ else _ : FnfHandler Unit) p = _
    rw [if_pos hsame]
    rfl

theorem transition_north (message : SessionMessage) :
    Transition env p (.onMessage message .North) (handleMessageToApp env message p) := by
  unfold handleMessageToApp expectMessageId
  rcases hid : message.info.messageId with _ | messageId
  · exact .unchanged
  refine traced_rule ?_ fun _ _ _ => .unchanged
  rcases checkSource_accepts p message.message with ⟨interruption, hcheck⟩ | ⟨hcheck, haccepts⟩
  · refine bind_rule (R := fun result => result = .error interruption p) hcheck ?_ ?_
    · intro _ _ hresult
      cases hresult
    · rintro _ _ ⟨⟩
      exact .unchanged
  · refine bind_rule (R := fun result => result = .ok () p) hcheck ?_ ?_
    · rintro _ _ ⟨⟩
      refine ofAccess_rule ?_ fun _ _ => .unchanged
      intro headerType htype
      exact transition_dispatch htype hid haccepts
    · intro _ _ hresult
      cases hresult

/-- The search for a peer begins, if the channel takes the probe. -/
theorem startStickySessionDiscovery_transmitted (agentType : AgentType) :
    ∃ probe, Transmitted env (p.setStatus .Discovering) .probe probe
      (startStickySessionDiscovery env agentType p) :=
  ⟨_, sendToSlim_transmitted env (p.setStatus .Discovering) .probe _⟩

theorem Quiet.push (hquiet : Quiet p q) (message : ProtoMessage) :
    Quiet (p.push message) (q.push message) where
  state := by simp only [FireAndForgetProcessor.push, hquiet.state]
  sent := hquiet.sent
  pushed := by simp only [FireAndForgetProcessor.push, hquiet.pushed]
  stopped := hquiet.stopped
  reports := hquiet.reports
  running := hquiet.running
  handed := hquiet.handed
  acks := hquiet.acks

theorem transition_unbound {typed : ProtoMessage}
    (htyped : message.message.setHeaderType p.state.headerType = .ok typed)
    (hsearching : p.state.isSearching = true) :
    Transition env p (.onMessage message .South) (handleUnbound env typed p) := by
  unfold handleUnbound
  rw [get_rule]
  cases hstatus : p.state.stickySessionStatus with
  | Established => exact .unchanged
  | Discovering =>
      refine .buffered htyped hsearching (by rw [hstatus]; decide) ?_
      have hsame : p.setStatus .Discovering = p := by rw [setStatus, ← hstatus]
      rw [hsame]
      exact Quiet.rfl
  | Uninitialized =>
      refine ofAccess_rule ?_ fun _ _ => .unchanged
      rintro ⟨agentType, agentId⟩ -
      obtain ⟨probe, hprobe⟩ := startStickySessionDiscovery_transmitted (p := p) agentType
      refine bind_rule hprobe ?_ ?_
      · intro _ q hsent
        refine .buffered htyped hsearching (by rw [hstatus]; decide) ?_
        exact (hsent.quiet rfl (by decide)).push typed
      · intro interruption q hsent
        cases hsent with
        | refused hclosed quiet => exact .unprobed hsearching hstatus hclosed quiet

theorem transition_south (message : SessionMessage) :
    Transition env p (.onMessage message .South) (handleMessageToSlim env message p) := by
  unfold handleMessageToSlim
  rw [get_rule]
  refine ofAccess_rule ?_ fun _ _ => .unchanged
  intro typed htyped
  by_cases hsticky : p.state.config.sticky = true
  · rw [if_pos hsticky]
    rcases hname : p.state.stickyName with _ | name
    · refine transition_unbound htyped ?_
      rw [FireAndForgetState.isSearching, hsticky, hname]
      rfl
    · refine ofAccess_rule ?_ fun _ _ => .unchanged
      intro destined hdestined
      refine ofAccess_rule ?_ fun _ _ => .unchanged
      intro addressed haddressed
      refine .application htyped ?_ ?_ (sendMessage_called rfl addressed)
      · obtain ⟨header, -, rfl⟩ := ProtoMessage.modifySlimHeader_eq_ok hdestined
        obtain ⟨header, -, rfl⟩ := ProtoMessage.modifySlimHeader_eq_ok haddressed
        simp only [ProtoMessage.getHeaderType, ProtoMessage.getSessionHeader_withHeader]
      · rw [FireAndForgetState.isSearching, hname, Option.isNone_some, Bool.and_false]
  · rw [if_neg hsticky]
    refine .application htyped rfl ?_ (sendMessage_called rfl typed)
    rw [FireAndForgetState.isSearching, Bool.eq_false_iff.2 hsticky, Bool.false_and]

/-- Every event makes one of the changes. -/
theorem transition_handleEvent (env : FnfEnvironment) (p : FireAndForgetProcessor)
    (event : FnfEvent) : Transition env p event (handleEvent env event p) := by
  cases event with
  | onMessage message direction =>
      cases direction with
      | North => exact transition_north message
      | South => exact transition_south message
  | setConfig config => exact .configured config
  | timerTimeout messageId => exact transition_timerTimeout messageId
  | timerFailure messageId => exact transition_timerFailure messageId
  | exit => exact .exited

/-! ## What every call leaves alone -/

/-- The two states differ in their timers only. -/
def OnlyTimers (p q : FireAndForgetProcessor) : Prop :=
  q.state = { p.state with timers := q.state.timers }

theorem OnlyTimers.of_state (hstate : q.state = p.state) :
    OnlyTimers p q := by
  unfold OnlyTimers
  rw [hstate]

theorem OnlyTimers.trans {r : FireAndForgetProcessor} (hfirst : OnlyTimers p q)
    (hsecond : OnlyTimers q r) : OnlyTimers p r := by
  unfold OnlyTimers at *
  rw [hsecond, hfirst]

theorem onlyTimers_recorded (env : FnfEnvironment) (p : FireAndForgetProcessor)
    (origin : SlimOrigin) (stamped : ProtoMessage) :
    OnlyTimers p (recorded env p origin stamped) := by
  unfold OnlyTimers recorded record FireAndForgetState.startTimer
  rcases p.state.config.timeout with _ | duration
  · rfl
  · rfl

/-- A call of `send_message` stops at once, or has its message ready and goes on from there. -/
theorem Called.cases {message : ProtoMessage} (hcalled : Called env origin message p result) :
    left result = p ∨ ∃ stamped, stamps env p message = .ok stamped ∧
      Frame (recorded env p origin stamped) (left result) ∧
      ((left result).handed = p.handed ∨
        (left result).handed = p.handed ++ [(origin, stamped)]) := by
  cases hcalled with
  | unstamped hstamp => exact .inl rfl
  | untraced hstamp hdebug hsource => exact .inr ⟨_, hstamp, Quiet.rfl.toFrame, .inl rfl⟩
  | refused hstamp hclosed quiet => exact .inr ⟨_, hstamp, quiet.toFrame, .inl quiet.handed⟩
  | taken hstamp frame handed acks => exact .inr ⟨_, hstamp, frame, .inr handed⟩

theorem Called.onlyTimers {message : ProtoMessage}
    (hcalled : Called env origin message p result) : OnlyTimers p (left result) := by
  rcases hcalled.cases with hsame | ⟨stamped, -, frame, -⟩
  · exact .of_state (by rw [hsame])
  · exact (onlyTimers_recorded env p origin stamped).trans (.of_state frame.state)

theorem Called.stopped {message : ProtoMessage}
    (hcalled : Called env origin message p result) : (left result).stopped = p.stopped := by
  rcases hcalled.cases with hsame | ⟨stamped, -, frame, -⟩
  · rw [hsame]
  · rw [frame.stopped]
    rfl

theorem Called.acks {message : ProtoMessage}
    (hcalled : Called env origin message p result) : (left result).acks = p.acks := by
  cases hcalled with
  | unstamped hstamp => rfl
  | untraced hstamp hdebug hsource => rfl
  | refused hstamp hclosed quiet => exact quiet.acks
  | taken hstamp frame handed acks => exact acks

/-- What every call keeps, the loop over the buffered messages keeps. -/
theorem Flushed.invariant {I : FireAndForgetProcessor → Prop} {messages : List ProtoMessage}
    (hflushed : Flushed env messages p result) :
    (∀ message ∈ messages, ∀ q result, I q → Called env .buffer message q result →
      I (left result)) → I p → I (left result) := by
  induction hflushed with
  | done p => exact fun _ hinit => hinit
  | stop first => exact fun hcall hinit => hcall _ List.mem_cons_self _ _ hinit first
  | next first rest ih =>
      intro hcall hinit
      apply ih
      · exact fun message hmessage => hcall message (List.mem_cons_of_mem _ hmessage)
      · exact hcall _ List.mem_cons_self _ _ hinit first

theorem Flushed.onlyTimers {messages : List ProtoMessage}
    (hflushed : Flushed env messages p result) : OnlyTimers p (left result) := by
  refine hflushed.invariant (I := OnlyTimers p) ?_ (.of_state rfl)
  intro message _ q result hq hcalled
  exact hq.trans hcalled.onlyTimers

theorem Flushed.stopped {messages : List ProtoMessage}
    (hflushed : Flushed env messages p result) : (left result).stopped = p.stopped := by
  refine hflushed.invariant (I := fun q => q.stopped = p.stopped) ?_ rfl
  intro message _ q result hq hcalled
  rw [hcalled.stopped, hq]

theorem Flushed.acks {messages : List ProtoMessage}
    (hflushed : Flushed env messages p result) : (left result).acks = p.acks := by
  refine hflushed.invariant (I := fun q => q.acks = p.acks) ?_ rfl
  intro message _ q result hq hcalled
  rw [hcalled.acks, hq]

/-! ## Steps -/

/-- A step of a loop that has ended does nothing; the others are transitions. -/
theorem step_cases (env : FnfEnvironment) (p : FireAndForgetProcessor) (event : FnfEvent) :
    p.running = false ∧ step env p event = p ∨
      ∃ result, p.running = true ∧ Transition env p event result ∧
        step env p event = settle result := by
  by_cases hrunning : p.running = true
  · refine .inr ⟨_, hrunning, transition_handleEvent env p event, ?_⟩
    rw [step, if_pos hrunning]
  · exact .inl ⟨Bool.eq_false_iff.2 hrunning, by rw [step, if_neg hrunning]⟩

theorem settle_error (interruption : Interruption) (q : FireAndForgetProcessor) :
    settle (.error interruption q) =
      if interruption.isPanic then { q with running := false } else q := rfl

/-- A panic changes nothing but that the loop does not go on. -/
theorem settle_cases (result : FnfResult Unit) :
    settle result = left result ∨ settle result = { left result with running := false } := by
  rcases result with ⟨value, q⟩ | ⟨interruption, q⟩
  · exact .inl rfl
  · by_cases hpanic : interruption.isPanic = true
    · exact .inr (by rw [settle_error, if_pos hpanic, left_error])
    · exact .inl (by rw [settle_error, if_neg hpanic, left_error])

/-- Whatever does not depend on it is as the handler leaves it. -/
theorem settle_eq {β : Type} (f : FireAndForgetProcessor → β)
    (hf : ∀ q : FireAndForgetProcessor, f { q with running := false } = f q)
    (result : FnfResult Unit) : f (settle result) = f (left result) := by
  rcases settle_cases result with hsettle | hsettle
  · rw [hsettle]
  · rw [hsettle, hf]

theorem settle_state (result : FnfResult Unit) : (settle result).state = (left result).state :=
  settle_eq FireAndForgetProcessor.state (fun _ => rfl) result

theorem settle_handed (result : FnfResult Unit) : (settle result).handed = (left result).handed :=
  settle_eq handed (fun _ => rfl) result

/-- Only a message that wants to be acknowledged is. -/
theorem acks_step (env : FnfEnvironment) (p : FireAndForgetProcessor) (event : FnfEvent) :
    (step env p event).acks = p.acks ∨ ∃ message, event = .onMessage message .North ∧
      message.message.getHeaderType = .ok .fnfReliable := by
  rcases step_cases env p event with ⟨-, hsame⟩ | ⟨result, -, htransition, hsettle⟩
  · exact .inl (by rw [hsame])
  rw [hsettle, settle_eq acks (fun _ => rfl)]
  cases htransition with
  | answered htype frame handed => exact .inr ⟨_, rfl, htype⟩
  | quiet quiet => exact .inl quiet.acks
  | configured config => exact .inl rfl
  | exited => exact .inl rfl
  | application htyped haddressed hbound called => exact .inl called.acks
  | buffered htyped hsearching hstatus quiet => exact .inl quiet.acks
  | unprobed hsearching hstatus hclosed quiet => exact .inl quiet.acks
  | acknowledged htype hid hstored => exact .inl rfl
  | discovered htype haccepts hsource hconnection hreply called => exact .inl called.acks
  | established htype hstatus hsource hconnection flushed => exact .inl flushed.acks
  | unreported hstored hinfo => exact .inl rfl
  | unheard hstored hinfo hclosed quiet => exact .inl quiet.acks
  | reported hstored hinfo => exact .inl rfl

/-- A loop that goes on has not met a panic. -/
theorem settle_running (hrunning : (settle result).running = true) :
    settle result = left result ∧
      ∀ interruption q, result = .error interruption q → interruption.isPanic = false := by
  rcases result with ⟨value, q⟩ | ⟨interruption, q⟩
  · refine ⟨rfl, ?_⟩
    intro _ _ hresult
    cases hresult
  · by_cases hpanic : interruption.isPanic = true
    · rw [settle_error, if_pos hpanic] at hrunning
      cases hrunning
    · refine ⟨by rw [settle_error, if_neg hpanic, left_error], ?_⟩
      rintro _ _ ⟨⟩
      exact Bool.eq_false_iff.2 hpanic

/-- An invariant of a processor whose loop goes on: only the transitions that end without a
    panic count. -/
theorem running_step {env : FnfEnvironment} {p : FireAndForgetProcessor} {event : FnfEvent}
    {I : FireAndForgetProcessor → Prop} (hs : p.running = true → I p)
    (hkeeps : ∀ result, I p → Transition env p event result → (left result).running = true →
      (∀ interruption q, result = .error interruption q → interruption.isPanic = false) →
      I (left result)) :
    (p.step env event).running = true → I (p.step env event) := by
  rcases step_cases env p event with ⟨-, hsame⟩ | ⟨result, hrunning, htransition, hsettle⟩
  · rwa [hsame]
  · rw [hsettle]
    intro hlater
    obtain ⟨hleft, hpanic⟩ := settle_running hlater
    rw [hleft] at hlater ⊢
    exact hkeeps result (hs hrunning) htransition hlater hpanic

end FireAndForgetProcessor

end Slim
