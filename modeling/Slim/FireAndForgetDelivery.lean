import Slim.FireAndForgetSticky

/-!
# What becomes of the messages of a fire-and-forget session

With a timeout a message that is sent waits in the map of timers for its acknowledgement.
Its id is random, and a message with the same id takes its place in the map.
-/

namespace Slim

open HashKey Machine Runs

namespace FireAndForgetProcessor

variable {env : FnfEnvironment} {p : FireAndForgetProcessor}

/-! ## The fates of a call -/

/-- The message of the call waits for its acknowledgement. -/
def Pending (env : FnfEnvironment) (p : FireAndForgetProcessor) (call : Nat) : Prop :=
  ∃ timer message, p.state.timers.get? (env.draw call) = some (timer, message) ∧ timer.call = call

/-- The calls whose messages were acknowledged. -/
def acknowledgedCalls (p : FireAndForgetProcessor) : List Nat := p.stopped.map FnfTimer.call

/-- The calls whose timers have given up. -/
def reportedCalls (p : FireAndForgetProcessor) : List Nat := p.reports.filterMap Prod.fst

/-- One of the three holds, and no other. -/
def ExactlyOne (first second third : Prop) : Prop :=
  first ∧ ¬ second ∧ ¬ third ∨ ¬ first ∧ second ∧ ¬ third ∨ ¬ first ∧ ¬ second ∧ third

/-- Every entry of the map is that of the call which has put it there, every call is accounted
    for once, and the reports are about messages that were sent. -/
structure Ledger (env : FnfEnvironment) (sessionId : UInt32) (p : FireAndForgetProcessor) :
    Prop where
  sessionId_eq : p.state.sessionId = sessionId
  timeout : p.state.config.timeout.isSome = true
  owned : ∀ id timer message, p.state.timers.get? id = some (timer, message) →
    env.draw timer.call = id ∧ timer.timerId = id ∧
      ∃ origin, p.sent[timer.call]? = some (origin, message)
  ids : ∀ call origin (message : ProtoMessage), p.sent[call]? = some (origin, message) →
    message.getMessageId = .ok (env.draw call)
  stopped : ∀ timer ∈ p.stopped, timer.call < p.sent.length ∧ timer.timerId = env.draw timer.call
  reported : ∀ report ∈ p.reports, ∃ call origin message info,
    p.sent[call]? = some (origin, message) ∧
      report = (some call, .timeout sessionId (env.draw call) ⟨message, info⟩)
  once : ∀ call < p.sent.length,
    ExactlyOne (p.Pending env call) (call ∈ p.acknowledgedCalls) (call ∈ p.reportedCalls)

section Ledger

variable {sessionId id : UInt32} {q : FireAndForgetProcessor} {event : FnfEvent} {timer : FnfTimer}
  {message stored stamped : ProtoMessage} {result : FnfResult Unit}

theorem ledger_new (env : FnfEnvironment) (sessionId : UInt32) (source : Agent)
    {config : FireAndForgetConfiguration} (htimeout : config.timeout.isSome = true) :
    Ledger env sessionId (new sessionId source config) where
  sessionId_eq := rfl
  timeout := htimeout
  owned := by
    intro id timer message hstored
    cases hstored
  ids := by
    intro call origin message hsent
    cases hsent
  stopped := List.forall_mem_nil _
  reported := List.forall_mem_nil _
  once := by
    intro call hcall
    exact absurd hcall (Nat.not_lt_zero call)

/-- What the ledger says depends on the timers and the logs. -/
theorem Ledger.congr (hs : p.Ledger env sessionId)
    (hsessionId : q.state.sessionId = p.state.sessionId)
    (htimeout : q.state.config.timeout.isSome = true) (htimers : q.state.timers = p.state.timers)
    (hsent : q.sent = p.sent) (hstopped : q.stopped = p.stopped)
    (hreports : q.reports = p.reports) :
    q.Ledger env sessionId where
  sessionId_eq := hsessionId.trans hs.sessionId_eq
  timeout := htimeout
  owned := by rw [htimers, hsent]; exact hs.owned
  ids := by rw [hsent]; exact hs.ids
  stopped := by rw [hstopped, hsent]; exact hs.stopped
  reported := by rw [hreports, hsent]; exact hs.reported
  once := by
    simp only [Pending, acknowledgedCalls, reportedCalls, htimers, hsent, hstopped, hreports]
    exact hs.once

theorem Ledger.of_frame (hs : p.Ledger env sessionId)
    (hframe : Frame p q) : q.Ledger env sessionId :=
  hs.congr (by rw [hframe.state]) (by rw [hframe.state]; exact hs.timeout) (by rw [hframe.state])
    hframe.sent hframe.stopped hframe.reports

theorem Ledger.bindTo (hs : p.Ledger env sessionId) (name : Agent) (connection : Nat) :
    (p.bindTo name connection).Ledger env sessionId :=
  hs.congr rfl hs.timeout rfl rfl rfl rfl

theorem Ledger.drain (hs : p.Ledger env sessionId) : p.drain.Ledger env sessionId :=
  hs.congr rfl hs.timeout rfl rfl rfl rfl

theorem Ledger.call_lt (hs : p.Ledger env sessionId)
    (hstored : p.state.timers.get? id = some (timer, message)) :
    timer.call < p.sent.length := by
  obtain ⟨-, -, origin, hsent⟩ := hs.owned id timer message hstored
  exact (List.getElem?_eq_some_iff.1 hsent).1

theorem Ledger.acknowledged_lt (hs : p.Ledger env sessionId) {call : Nat}
    (hcall : call ∈ p.acknowledgedCalls) : call < p.sent.length := by
  obtain ⟨timer, htimer, rfl⟩ := List.mem_map.1 hcall
  exact (hs.stopped timer htimer).1

theorem Ledger.reported_lt (hs : p.Ledger env sessionId) {call : Nat}
    (hcall : call ∈ p.reportedCalls) : call < p.sent.length := by
  obtain ⟨report, hreport, hcall⟩ := List.mem_filterMap.1 hcall
  obtain ⟨found, origin, message, info, hsent, rfl⟩ := hs.reported report hreport
  cases hcall
  exact (List.getElem?_eq_some_iff.1 hsent).1

/-! ## A new message -/

/-- The ids of the next calls are not in use, and differ from one another. -/
def Fresh (env : FnfEnvironment) (p : FireAndForgetProcessor) (count : Nat) : Prop :=
  ∀ call, p.sent.length ≤ call → call < p.sent.length + count →
    p.state.timers.get? (env.draw call) = none ∧
      ∀ earlier, p.sent.length ≤ earlier → earlier < call → env.draw earlier ≠ env.draw call

/-- With a timeout the message is in the map under its id. -/
theorem timers_recorded (env : FnfEnvironment) (htimeout : p.state.config.timeout.isSome = true)
    (origin : SlimOrigin) (stamped : ProtoMessage) :
    ∃ timer : FnfTimer, timer.call = p.sent.length ∧ timer.timerId = env.draw p.sent.length ∧
      (recorded env p origin stamped).state.timers =
        p.state.timers.insert (env.draw p.sent.length) (timer, stamped) := by
  obtain ⟨duration, hduration⟩ := Option.isSome_iff_exists.1 htimeout
  refine ⟨⟨env.draw p.sent.length, duration, p.state.config.maxRetries, p.sent.length⟩, rfl, rfl,
    ?_⟩
  simp only [recorded, record, FireAndForgetState.startTimer, hduration]

/-- Of the session header only the two ids are written; a binding changes the other header. -/
theorem getSessionHeader_of_stampMessage {state : FireAndForgetState} {messageId : UInt32}
    (hstamp : state.stampMessage message messageId = .ok stamped) :
    ∃ session, message.getSessionHeader = .ok session ∧
      stamped.getSessionHeader =
        .ok { session with messageId := messageId, sessionId := state.sessionId } := by
  obtain ⟨numbered, hnumbered, hstamp⟩ := bind_eq_ok hstamp
  obtain ⟨session, horiginal, hsession, -, -⟩ := ProtoMessage.modifySessionHeader_eq_ok hnumbered
  refine ⟨session, horiginal, ?_⟩
  rcases hname : state.stickyName with _ | name
  · rw [hname] at hstamp
    cases hstamp
    exact hsession
  · simp only [hname] at hstamp
    obtain ⟨destined, hdestined, hstamp⟩ := bind_eq_ok hstamp
    obtain ⟨header, -, rfl⟩ := ProtoMessage.modifySlimHeader_eq_ok hdestined
    obtain ⟨header, -, rfl⟩ := ProtoMessage.modifySlimHeader_eq_ok hstamp
    simp only [ProtoMessage.getSessionHeader_withHeader]
    exact hsession

theorem getMessageId_of_stampMessage {state : FireAndForgetState} {messageId : UInt32}
    (hstamp : state.stampMessage message messageId = .ok stamped) :
    stamped.getMessageId = .ok messageId := by
  obtain ⟨session, -, hsession⟩ := getSessionHeader_of_stampMessage hstamp
  rw [ProtoMessage.getMessageId, hsession, bind_ok]
  rfl

theorem pending_recorded (htimeout : p.state.config.timeout.isSome = true)
    (hfresh : p.state.timers.get? (env.draw p.sent.length) = none) (origin : SlimOrigin)
    (stamped : ProtoMessage) (call : Nat) :
    (recorded env p origin stamped).Pending env call ↔
      p.Pending env call ∨ call = p.sent.length := by
  obtain ⟨timer, hcall, -, htimers⟩ := timers_recorded env htimeout origin stamped
  simp only [Pending, htimers, HashMap.get?_insert, key_uint32]
  by_cases hsame : env.draw call = env.draw p.sent.length
  · rw [if_pos hsame, hsame, hfresh]
    constructor
    · rintro ⟨found, message, hfound, rfl⟩
      cases hfound
      exact .inr hcall
    · rintro (⟨found, message, hfound, -⟩ | rfl)
      · cases hfound
      · exact ⟨timer, stamped, rfl, hcall⟩
  · rw [if_neg hsame]
    refine ⟨.inl, ?_⟩
    rintro (hpending | rfl)
    · exact hpending
    · exact absurd rfl hsame

/-- The message is sent last. -/
theorem sent_recorded (env : FnfEnvironment) (p : FireAndForgetProcessor) (origin : SlimOrigin)
    (stamped : ProtoMessage) (call : Nat) (item : SlimOrigin × ProtoMessage) :
    (recorded env p origin stamped).sent[call]? = some item ↔
      p.sent[call]? = some item ∨ call = p.sent.length ∧ item = (origin, stamped) := by
  have hsent : (recorded env p origin stamped).sent = p.sent ++ [(origin, stamped)] := rfl
  rw [hsent]
  rcases Nat.lt_trichotomy call p.sent.length with hlt | rfl | hgt
  · rw [List.getElem?_append_left hlt]
    exact ⟨.inl, fun hitem => hitem.resolve_right fun hlast => Nat.ne_of_lt hlt hlast.1⟩
  · rw [List.getElem?_concat_length, List.getElem?_eq_none (Nat.le_refl _)]
    simp [eq_comm]
  · rw [List.getElem?_eq_none (by rw [List.length_append, List.length_singleton]; exact hgt),
      List.getElem?_eq_none (Nat.le_of_lt hgt)]
    simp [Nat.ne_of_gt hgt]

theorem length_sent_recorded (env : FnfEnvironment) (p : FireAndForgetProcessor)
    (origin : SlimOrigin) (stamped : ProtoMessage) :
    (recorded env p origin stamped).sent.length = p.sent.length + 1 := by
  simp [recorded, record]

theorem Ledger.recorded (hs : p.Ledger env sessionId)
    (hfresh : p.state.timers.get? (env.draw p.sent.length) = none) (origin : SlimOrigin)
    (hstamp : stamps env p message = .ok stamped) :
    (recorded env p origin stamped).Ledger env sessionId := by
  have htimers := onlyTimers_recorded env p origin stamped
  constructor
  · rw [htimers]
    exact hs.sessionId_eq
  · rw [htimers]
    exact hs.timeout
  · obtain ⟨timer, hcall, hid, hinsert⟩ := timers_recorded env hs.timeout origin stamped
    intro id found stored hstored
    rw [hinsert, HashMap.get?_insert] at hstored
    split at hstored
    next hsame =>
      cases hstored
      refine ⟨by rw [hcall]; exact hsame.symm, by rw [hid]; exact hsame.symm, origin, ?_⟩
      exact (sent_recorded ..).2 (.inr ⟨hcall, rfl⟩)
    next =>
      obtain ⟨hdraw, htimer, earlier, hearlier⟩ := hs.owned id found stored hstored
      exact ⟨hdraw, htimer, earlier, (sent_recorded ..).2 (.inl hearlier)⟩
  · intro call found stored hstored
    rcases (sent_recorded ..).1 hstored with hearlier | ⟨rfl, hlast⟩
    · exact hs.ids call found stored hearlier
    · cases hlast
      exact getMessageId_of_stampMessage hstamp
  · intro timer htimer
    obtain ⟨hlt, hid⟩ := hs.stopped timer htimer
    exact ⟨by rw [length_sent_recorded]; omega, hid⟩
  · intro report hreport
    obtain ⟨call, found, stored, info, hstored, heq⟩ := hs.reported report hreport
    exact ⟨call, found, stored, info, (sent_recorded ..).2 (.inl hstored), heq⟩
  · intro call hcall
    rw [pending_recorded hs.timeout hfresh]
    rw [length_sent_recorded] at hcall
    rcases Nat.lt_or_ge call p.sent.length with hlt | hge
    · have hne : call ≠ p.sent.length := Nat.ne_of_lt hlt
      simp only [hne, or_false]
      exact hs.once call hlt
    · have hsame : call = p.sent.length := by omega
      refine .inl ⟨.inr hsame, ?_, ?_⟩
      · intro hacknowledged
        exact absurd (hs.acknowledged_lt hacknowledged) (Nat.not_lt_of_ge hge)
      · intro hreported
        exact absurd (hs.reported_lt hreported) (Nat.not_lt_of_ge hge)

/-- The next calls have ids that are still free after a call. -/
theorem Fresh.recorded {count : Nat} (hfresh : p.Fresh env (count + 1))
    (htimeout : p.state.config.timeout.isSome = true) (origin : SlimOrigin)
    (stamped : ProtoMessage) : (recorded env p origin stamped).Fresh env count := by
  obtain ⟨timer, -, -, htimers⟩ := timers_recorded env htimeout origin stamped
  intro call hge hlt
  rw [length_sent_recorded] at hge hlt
  obtain ⟨hnone, hdistinct⟩ := hfresh call (by omega) (by omega)
  constructor
  · have hne : key (env.draw call) ≠ key (env.draw p.sent.length) :=
      (hdistinct p.sent.length (Nat.le_refl _) (by omega)).symm
    rw [htimers, HashMap.get?_insert_of_ne _ _ hne, hnone]
  · intro earlier hearlier
    rw [length_sent_recorded] at hearlier
    exact hdistinct earlier (by omega)

theorem Fresh.of_frame {count : Nat} (hfresh : p.Fresh env count)
    (hframe : Frame p q) : q.Fresh env count := by
  unfold Fresh
  rw [hframe.sent, hframe.state]
  exact hfresh

theorem Fresh.next {count : Nat} (hfresh : p.Fresh env (count + 1)) :
    p.state.timers.get? (env.draw p.sent.length) = none :=
  (hfresh p.sent.length (Nat.le_refl _) (by omega)).1

theorem Ledger.called (hs : p.Ledger env sessionId)
    (hnone : p.state.timers.get? (env.draw p.sent.length) = none) {origin : SlimOrigin}
    (hcalled : Called env origin message p result) : (left result).Ledger env sessionId := by
  rcases hcalled.cases with hsame | ⟨stamped, hstamp, frame, -⟩
  · rwa [hsame]
  · exact (hs.recorded hnone origin hstamp).of_frame frame

theorem Ledger.flushed (hs : p.Ledger env sessionId) {messages : List ProtoMessage}
    (hfresh : p.Fresh env messages.length)
    (hflushed : Flushed env messages p result) : (left result).Ledger env sessionId := by
  induction hflushed with
  | done p => exact hs
  | stop first => exact hs.called hfresh.next first
  | next first rest ih =>
      refine ih (hs.called hfresh.next first) ?_
      cases first with
      | taken hstamp frame handed acks => exact (hfresh.recorded hs.timeout _ _).of_frame frame

/-! ## A message that leaves the map -/

theorem pending_removeTimer (hs : p.Ledger env sessionId)
    (hstored : p.state.timers.get? id = some (timer, stored)) (call : Nat) :
    (p.removeTimer id).Pending env call ↔ p.Pending env call ∧ call ≠ timer.call := by
  obtain ⟨hdraw, -⟩ := hs.owned id timer stored hstored
  simp only [Pending, removeTimer, HashMap.get?_remove, key_uint32]
  by_cases hsame : env.draw call = id
  · rw [if_pos hsame, hsame, hstored]
    constructor
    · rintro ⟨found, message, hfound, -⟩
      cases hfound
    · rintro ⟨⟨found, message, hfound, rfl⟩, hne⟩
      cases hfound
      exact absurd rfl hne
  · rw [if_neg hsame]
    refine ⟨fun hpending => ⟨hpending, ?_⟩, And.left⟩
    rintro rfl
    exact hsame hdraw

/-- The call whose timer is in the map has no other fate yet. -/
theorem Ledger.pending_only (hs : p.Ledger env sessionId)
    (hstored : p.state.timers.get? id = some (timer, stored)) :
    timer.call ∉ p.acknowledgedCalls ∧ timer.call ∉ p.reportedCalls := by
  obtain ⟨hdraw, -⟩ := hs.owned id timer stored hstored
  have hpending : p.Pending env timer.call := ⟨timer, stored, by rw [hdraw]; exact hstored, rfl⟩
  rcases hs.once timer.call (hs.call_lt hstored) with ⟨-, hothers⟩ | ⟨hnot, -⟩ | ⟨hnot, -⟩
  · exact hothers
  · exact absurd hpending hnot
  · exact absurd hpending hnot

/-- What stays in the map is still owned by its call. -/
theorem Ledger.owned_removeTimer (hs : p.Ledger env sessionId) (messageId : UInt32) (id : UInt32)
    (timer : FnfTimer) (message : ProtoMessage)
    (hstored : (p.removeTimer messageId).state.timers.get? id = some (timer, message)) :
    env.draw timer.call = id ∧ timer.timerId = id ∧
      ∃ origin, p.sent[timer.call]? = some (origin, message) := by
  simp only [removeTimer, HashMap.get?_remove] at hstored
  split at hstored
  next => cases hstored
  next => exact hs.owned id timer message hstored

theorem Ledger.acknowledged (hs : p.Ledger env sessionId)
    (hstored : p.state.timers.get? id = some (timer, stored)) :
    ((p.removeTimer id).stop timer).Ledger env sessionId := by
  obtain ⟨hdraw, hid, -⟩ := hs.owned id timer stored hstored
  have hcalls : ((p.removeTimer id).stop timer).acknowledgedCalls =
      p.acknowledgedCalls ++ [timer.call] := by
    simp [acknowledgedCalls, stop, removeTimer]
  refine ⟨hs.sessionId_eq, hs.timeout, hs.owned_removeTimer id, hs.ids, ?_, hs.reported, ?_⟩
  · intro found hfound
    rcases List.mem_append.1 hfound with hfound | hfound
    · exact hs.stopped found hfound
    · rw [List.mem_singleton.1 hfound]
      exact ⟨hs.call_lt hstored, by rw [hid, hdraw]⟩
  · intro call hcall
    have hpending : ((p.removeTimer id).stop timer).Pending env call ↔
        p.Pending env call ∧ call ≠ timer.call := pending_removeTimer hs hstored call
    rw [hpending, hcalls, List.mem_append, List.mem_singleton]
    by_cases hsame : call = timer.call
    · obtain ⟨-, hreported⟩ := hs.pending_only hstored
      rw [← hsame] at hreported
      exact .inr (.inl ⟨fun hboth => hboth.2 hsame, .inr hsame, hreported⟩)
    · simp only [hsame, ne_eq, not_false_eq_true, and_true, or_false]
      exact hs.once call hcall

theorem Ledger.told (hs : p.Ledger env sessionId)
    (hstored : p.state.timers.get? id = some (timer, stored)) (info : Info) :
    ((p.removeTimer id).tell timer.call (.timeout p.state.sessionId id ⟨stored, info⟩)).Ledger env
      sessionId := by
  obtain ⟨hdraw, -, origin, horigin⟩ := hs.owned id timer stored hstored
  refine ⟨hs.sessionId_eq, hs.timeout, hs.owned_removeTimer id, hs.ids, hs.stopped, ?_, ?_⟩
  · intro report hreport
    rw [reports_tell] at hreport
    rcases List.mem_append.1 hreport with hreport | hreport
    · exact hs.reported report hreport
    · rw [List.mem_singleton.1 hreport, hs.sessionId_eq]
      exact ⟨timer.call, origin, stored, info, horigin, by rw [hdraw]⟩
  · intro call hcall
    have hpending : ((p.removeTimer id).tell timer.call
        (.timeout p.state.sessionId id ⟨stored, info⟩)).Pending env call ↔
        p.Pending env call ∧ call ≠ timer.call := pending_removeTimer hs hstored call
    have hreported : ((p.removeTimer id).tell timer.call
        (.timeout p.state.sessionId id ⟨stored, info⟩)).reportedCalls =
        p.reportedCalls ++ [timer.call] := by
      rw [reportedCalls, reports_tell, List.filterMap_append]
      rfl
    rw [hpending, hreported, List.mem_append, List.mem_singleton]
    by_cases hsame : call = timer.call
    · obtain ⟨hnot, -⟩ := hs.pending_only hstored
      rw [← hsame] at hnot
      exact .inr (.inr ⟨fun hboth => hboth.2 hsame, hnot, .inr hsame⟩)
    · simp only [hsame, ne_eq, not_false_eq_true, and_true, or_false]
      exact hs.once call hcall

/-! ## Runs -/

/-- The ids that the calls of this step draw are not in use, and differ from one another. -/
def FreshIds (env : FnfEnvironment) (p : FireAndForgetProcessor) : FnfEvent → Prop
  | .onMessage _ .South => p.state.isSearching = false → p.Fresh env 1
  | .onMessage message .North =>
      (message.message.getHeaderType = .ok .fnfDiscovery → p.state.Accepts message.message →
        p.Fresh env 1) ∧
      (message.message.getHeaderType = .ok .fnfDiscoveryReply →
        p.state.stickySessionStatus = .Discovering → p.Fresh env p.state.stickyBuffer.length)
  | _ => True

/-- A new configuration has a timeout too. -/
def KeepsTimeout : FnfEvent → Prop
  | .setConfig config => config.timeout.isSome = true
  | _ => True

theorem Ledger.transition (happ : ∀ n, env.appSend n = none) (hs : p.Ledger env sessionId)
    (hkeeps : KeepsTimeout event) (hfresh : p.FreshIds env event)
    (htransition : Transition env p event result) (hrunning : (left result).running = true)
    (hpanic : ∀ interruption q, result = .error interruption q → interruption.isPanic = false) :
    (left result).Ledger env sessionId := by
  cases htransition with
  | quiet quiet => exact hs.of_frame quiet.toFrame
  | answered htype frame handed => exact hs.of_frame frame
  | configured config => exact hs.congr rfl hkeeps rfl rfl rfl rfl
  | exited => cases hrunning
  | application htyped haddressed hbound called => exact hs.called (hfresh hbound).next called
  | buffered htyped hsearching hstatus quiet =>
      refine Ledger.of_frame ?_ quiet.toFrame
      exact hs.congr rfl hs.timeout rfl rfl rfl rfl
  | unprobed hsearching hstatus hclosed quiet =>
      refine Ledger.of_frame ?_ quiet.toFrame
      exact hs.congr rfl hs.timeout rfl rfl rfl rfl
  | acknowledged htype hid hstored => exact hs.acknowledged hstored
  | discovered htype haccepts hsource hconnection hreply called =>
      exact (hs.bindTo _ _).called (hfresh.1 htype haccepts).next called
  | established htype hstatus hsource hconnection flushed =>
      refine (hs.bindTo _ _).drain.flushed ?_ flushed
      exact hfresh.2 htype hstatus
  | unreported hstored hinfo => cases hpanic _ _ rfl
  | unheard hstored hinfo hclosed quiet =>
      rw [happ] at hclosed
      cases hclosed
  | reported hstored hinfo => exact hs.told hstored _

theorem Ledger.step (happ : ∀ n, env.appSend n = none)
    (hs : p.running = true → p.Ledger env sessionId) (hkeeps : KeepsTimeout event)
    (hfresh : p.FreshIds env event) :
    (p.step env event).running = true → (p.step env event).Ledger env sessionId := by
  apply running_step hs
  intro result hledger htransition
  exact hledger.transition happ hkeeps hfresh htransition

/-- The event acknowledges the message id. -/
def Acknowledges (messageId : UInt32) (event : FnfEvent) : Prop :=
  ∃ ack, event = .onMessage ack .North ∧ ack.message.getHeaderType = .ok .fnfAck ∧
    ack.info.messageId = some messageId

/-- A timer is stopped by an acknowledgement of its id. -/
theorem stopped_step (hs : p.running = true → p.Ledger env sessionId)
    (htimer : timer ∈ (p.step env event).stopped) :
    timer ∈ p.stopped ∨ Acknowledges timer.timerId event := by
  rcases step_cases env p event with ⟨-, hsame⟩ | ⟨result, hrunning, htransition, hsettle⟩
  · rw [hsame] at htimer
    exact .inl htimer
  · rw [hsettle, settle_eq FireAndForgetProcessor.stopped (fun _ => rfl)] at htimer
    cases htransition with
    | acknowledged htype hid hstored =>
        rcases List.mem_append.1 htimer with htimer | htimer
        · exact .inl htimer
        · obtain ⟨-, htimerId, -⟩ := (hs hrunning).owned _ _ _ hstored
          rw [List.mem_singleton.1 htimer, htimerId]
          exact .inr ⟨_, rfl, htype, hid⟩
    | quiet quiet => exact .inl (by rwa [quiet.stopped] at htimer)
    | answered htype frame handed => exact .inl (by rwa [frame.stopped] at htimer)
    | configured config => exact .inl htimer
    | exited => exact .inl htimer
    | application htyped haddressed hbound called =>
        exact .inl (by rwa [called.stopped] at htimer)
    | buffered htyped hsearching hstatus quiet =>
        rw [left_ok, quiet.stopped] at htimer
        exact .inl htimer
    | unprobed hsearching hstatus hclosed quiet =>
        rw [left_error, quiet.stopped] at htimer
        exact .inl htimer
    | discovered htype haccepts hsource hconnection hreply called =>
        rw [called.stopped] at htimer
        exact .inl htimer
    | established htype hstatus hsource hconnection flushed =>
        rw [flushed.stopped] at htimer
        exact .inl htimer
    | unreported hstored hinfo => exact .inl htimer
    | unheard hstored hinfo hclosed quiet =>
        rw [left_ok, quiet.stopped] at htimer
        exact .inl htimer
    | reported hstored hinfo => exact .inl htimer

end Ledger

/-- The message of the call is in the map under its id. -/
def InTimers (env : FnfEnvironment) (p : FireAndForgetProcessor) (call : Nat)
    (message : ProtoMessage) : Prop :=
  ∃ timer, p.state.timers.get? (env.draw call) = some (timer, message) ∧ timer.call = call

/-- The timer of the call was stopped, for an acknowledgement with its id. -/
def AcknowledgedIn (env : FnfEnvironment) (events : List FnfEvent) (p : FireAndForgetProcessor)
    (call : Nat) : Prop :=
  (∃ timer ∈ p.stopped, timer.call = call) ∧ ∃ event ∈ events, Acknowledges (env.draw call) event

/-- The application was told that the message of the call has timed out. -/
def TimedOut (env : FnfEnvironment) (sessionId : UInt32) (p : FireAndForgetProcessor) (call : Nat)
    (message : ProtoMessage) : Prop :=
  ∃ info, (some call, .error (.timeout sessionId (env.draw call) ⟨message, info⟩)) ∈ p.toApp

theorem mem_reports {call : Option Nat} {error : SessionError} :
    (call, error) ∈ p.reports ↔ (call, .error error) ∈ p.toApp := by
  rw [reports, List.mem_filterMap]
  constructor
  · rintro ⟨⟨found, item⟩, hitem, herror⟩
    cases item with
    | error found => cases herror; exact hitem
    | ok message => cases herror
  · intro hitem
    exact ⟨_, hitem, rfl⟩

section Fates

variable {sessionId : UInt32} {call : Nat} {origin : SlimOrigin} {message : ProtoMessage}

theorem Ledger.pending_iff (hs : p.Ledger env sessionId)
    (hsent : p.sent[call]? = some (origin, message)) :
    p.Pending env call ↔ p.InTimers env call message := by
  constructor
  · rintro ⟨timer, stored, hstored, rfl⟩
    obtain ⟨-, -, found, hfound⟩ := hs.owned _ timer stored hstored
    rw [hsent] at hfound
    cases hfound
    exact ⟨timer, hstored, rfl⟩
  · rintro ⟨timer, hstored, hcall⟩
    exact ⟨timer, message, hstored, hcall⟩

theorem Ledger.reported_iff (hs : p.Ledger env sessionId)
    (hsent : p.sent[call]? = some (origin, message)) :
    call ∈ p.reportedCalls ↔ p.TimedOut env sessionId call message := by
  rw [reportedCalls, List.mem_filterMap]
  constructor
  · rintro ⟨report, hreport, hcall⟩
    obtain ⟨found, earlier, stored, info, hstored, rfl⟩ := hs.reported report hreport
    cases hcall
    rw [hsent] at hstored
    cases hstored
    exact ⟨info, mem_reports.1 hreport⟩
  · rintro ⟨info, hitem⟩
    exact ⟨_, mem_reports.2 hitem, rfl⟩

end Fates

/-- As long as no call draws an id that is in use, every message that was sent has one fate:
    it waits for its acknowledgement, or has got it, or the application was told. -/
theorem reliable_messages_accounted (env : FnfEnvironment) (happ : ∀ n, env.appSend n = none)
    (sessionId : UInt32) (source : Agent) (config : FireAndForgetConfiguration)
    (htimeout : config.timeout.isSome = true) (events : List FnfEvent)
    (hkeeps : ∀ event ∈ events, KeepsTimeout event)
    (hfresh : Along (step env) (FreshIds env) (new sessionId source config) events) :
    let p := run (step env) (new sessionId source config) events
    p.running = true → ∀ call origin message, p.sent[call]? = some (origin, message) →
      message.getMessageId = .ok (env.draw call) ∧
        ExactlyOne (p.InTimers env call message) (p.AcknowledgedIn env events call)
          (p.TimedOut env sessionId call message) := by
  intro p hrunning call origin message hsent
  have hinit : (new sessionId source config).Ledger env sessionId :=
    ledger_new env sessionId source htimeout
  have halong := along_and_forall hfresh hkeeps
  have hstep : ∀ (q : FireAndForgetProcessor) (event : FnfEvent),
      (q.running = true → q.Ledger env sessionId) →
      (q.FreshIds env event ∧ KeepsTimeout event) →
      ((q.step env event).running = true → (q.step env event).Ledger env sessionId) :=
    fun q event hq hboth => Ledger.step happ hq hboth.2 hboth.1
  have hs : p.Ledger env sessionId := run_invariant
    (I := fun q : FireAndForgetProcessor => q.running = true → q.Ledger env sessionId)
    hstep events _ halong (fun _ => hinit) hrunning
  have hstopped : ∀ timer ∈ p.stopped, ∃ event ∈ events, Acknowledges timer.timerId event := by
    intro timer htimer
    have hrecorded := run_records FireAndForgetProcessor.stopped hstep
      (fun q event hq _ timer htimer => stopped_step hq htimer) events _ halong
      (fun _ => hinit) timer htimer
    exact hrecorded.resolve_left List.not_mem_nil
  have hacknowledged : call ∈ p.acknowledgedCalls ↔ p.AcknowledgedIn env events call := by
    rw [acknowledgedCalls, List.mem_map]
    constructor
    · rintro ⟨timer, htimer, rfl⟩
      obtain ⟨event, hevent, hacknowledges⟩ := hstopped timer htimer
      rw [(hs.stopped timer htimer).2] at hacknowledges
      exact ⟨⟨timer, htimer, rfl⟩, event, hevent, hacknowledges⟩
    · rintro ⟨hfound, -⟩
      exact hfound
  have honce := hs.once call (List.getElem?_eq_some_iff.1 hsent).1
  rw [hs.pending_iff hsent, hacknowledged, hs.reported_iff hsent] at honce
  exact ⟨hs.ids call origin message hsent, honce⟩

def reliableConfig : FireAndForgetConfiguration := ⟨some 1000, some 5, false⟩

/-- Two messages draw the same id: the first one is not in the map any more, nobody has
    acknowledged it, and the application is told nothing. -/
theorem same_id_forgets_message :
    let env := openEnvironment fun _ => 5
    let events := [FnfEvent.onMessage (fnfMessage 3 0 .fnf 0) .South,
      .onMessage (fnfMessage 3 0 .fnf 0) .South]
    let p := run (step env) (fnfNew reliableConfig) events
    p.running = true ∧ p.sent.length = 2 ∧ p.state.timers.len = 1 ∧
      (∀ message, ¬ p.InTimers env 0 message) ∧ ¬ p.AcknowledgedIn env events 0 ∧
      ∀ message, ¬ p.TimedOut env 10 0 message := by
  refine ⟨rfl, rfl, rfl, ?_, ?_, ?_⟩
  · rintro message ⟨timer, hstored, hcall⟩
    cases hstored
    cases hcall
  · rintro ⟨⟨timer, htimer, -⟩, -⟩
    cases htimer
  · rintro message ⟨info, hitem⟩
    cases hitem

theorem reliable_messages_accounted_sample :
    let env := openEnvironment fun _ => 5
    let events := [FnfEvent.onMessage (fnfMessage 3 0 .fnf 0) .South,
      .onMessage (fnfMessage 7 1 .fnfAck 5) .North]
    let p := run (step env) (fnfNew reliableConfig) events
    p.running = true ∧ p.stopped.length = 1 ∧
      ∀ call origin message, p.sent[call]? = some (origin, message) →
        message.getMessageId = .ok (env.draw call) ∧
          ExactlyOne (p.InTimers env call message) (p.AcknowledgedIn env events call)
            (p.TimedOut env 10 call message) := by
  refine ⟨rfl, rfl, ?_⟩
  refine reliable_messages_accounted (openEnvironment fun _ => 5) (fun _ => rfl) 10
    ⟨⟨1, 1, 2, none⟩, 3⟩ reliableConfig rfl
    [.onMessage (fnfMessage 3 0 .fnf 0) .South, .onMessage (fnfMessage 7 1 .fnfAck 5) .North] ?_ ?_
    rfl
  · intro event hevent
    rcases List.mem_cons.1 hevent with rfl | hevent
    · trivial
    · rw [List.mem_singleton.1 hevent]
      trivial
  · refine ⟨?_, ⟨?_, ?_⟩, trivial⟩
    · intro _ call _ hlt
      refine ⟨rfl, ?_⟩
      intro earlier _ hearlier
      have hzero : call < 0 + 1 := hlt
      omega
    · intro htype
      cases htype
    · intro htype
      cases htype

/-! ## What can be acknowledged -/

theorem getHeaderType_of_stampMessage {state : FireAndForgetState}
    {message stamped : ProtoMessage} {messageId : UInt32}
    (hstamp : state.stampMessage message messageId = .ok stamped) :
    stamped.getHeaderType = message.getHeaderType := by
  obtain ⟨session, horiginal, hsession⟩ := getSessionHeader_of_stampMessage hstamp
  rw [ProtoMessage.getHeaderType, ProtoMessage.getHeaderType, hsession, horiginal, bind_ok, bind_ok]

/-- A message of the application that the peer acknowledges. -/
def FromApplication (p : FireAndForgetProcessor) (message : ProtoMessage) : Prop :=
  message.getHeaderType = .ok .fnfReliable ∧
    ((.application, message) ∈ p.sent ∨ (.buffer, message) ∈ p.sent)

/-- The timers are for messages of the application that the peer acknowledges, and so are the
    reports. -/
structure Acknowledgeable (p : FireAndForgetProcessor) : Prop where
  timers : ∀ id timer message, p.state.timers.get? id = some (timer, message) →
    p.FromApplication message
  reports : ∀ report ∈ p.reports, ∃ sessionId id message info,
    report.2 = .timeout sessionId id ⟨message, info⟩ ∧ p.FromApplication message

theorem FromApplication.mono {q : FireAndForgetProcessor} {message : ProtoMessage}
    (hmessage : p.FromApplication message) (hsent : ∀ item ∈ p.sent, item ∈ q.sent) :
    q.FromApplication message :=
  ⟨hmessage.1, hmessage.2.imp (hsent _) (hsent _)⟩

theorem Acknowledgeable.congr {q : FireAndForgetProcessor} (hs : p.Acknowledgeable)
    (htimers : q.state.timers = p.state.timers) (hsent : ∀ item ∈ p.sent, item ∈ q.sent)
    (hreports : q.reports = p.reports) : q.Acknowledgeable where
  timers := by
    rw [htimers]
    intro id timer message hstored
    exact (hs.timers id timer message hstored).mono hsent
  reports := by
    rw [hreports]
    intro report hreport
    obtain ⟨sessionId, id, message, info, heq, hmessage⟩ := hs.reports report hreport
    exact ⟨sessionId, id, message, info, heq, hmessage.mono hsent⟩

theorem Acknowledgeable.of_frame {q : FireAndForgetProcessor} (hs : p.Acknowledgeable)
    (hframe : Frame p q) : q.Acknowledgeable :=
  hs.congr (by rw [hframe.state]) (by rw [hframe.sent]; exact fun _ hitem => hitem) hframe.reports

theorem Acknowledgeable.removeTimer (hs : p.Acknowledgeable) (messageId : UInt32) :
    (p.removeTimer messageId).Acknowledgeable := by
  refine ⟨?_, hs.reports⟩
  intro id timer message hstored
  simp only [FireAndForgetProcessor.removeTimer, HashMap.get?_remove] at hstored
  split at hstored
  next => cases hstored
  next => exact hs.timers id timer message hstored

/-- A call that starts a timer has a message of the application that can be acknowledged. -/
theorem Acknowledgeable.called (hs : p.Acknowledgeable) {origin : SlimOrigin}
    {message : ProtoMessage} (hmessage : p.state.config.timeout.isSome = true →
      message.getHeaderType = .ok .fnfReliable ∧ (origin = .application ∨ origin = .buffer))
    {result : FnfResult Unit} (hcalled : Called env origin message p result) :
    (left result).Acknowledgeable := by
  rcases hcalled.cases with hsame | ⟨stamped, hstamp, frame, -⟩
  · rwa [hsame]
  refine Acknowledgeable.of_frame ?_ frame
  have hsent : ∀ item ∈ p.sent, item ∈ (recorded env p origin stamped).sent :=
    fun item hitem => List.mem_append_left _ hitem
  by_cases htimeout : p.state.config.timeout.isSome = true
  · obtain ⟨timer, -, -, htimers⟩ := timers_recorded env htimeout origin stamped
    obtain ⟨htype, horigin⟩ := hmessage htimeout
    have hnew : (recorded env p origin stamped).FromApplication stamped := by
      have hmem : (origin, stamped) ∈ (recorded env p origin stamped).sent :=
        List.mem_append_right _ List.mem_cons_self
      refine ⟨by rw [getHeaderType_of_stampMessage hstamp, htype], ?_⟩
      rcases horigin with rfl | rfl
      · exact .inl hmem
      · exact .inr hmem
    constructor
    · intro id found stored hstored
      rw [htimers, HashMap.get?_insert] at hstored
      split at hstored
      next =>
        cases hstored
        exact hnew
      next => exact (hs.timers id found stored hstored).mono hsent
    · intro report hreport
      obtain ⟨sessionId, id, stored, info, heq, hstored⟩ := hs.reports report hreport
      exact ⟨sessionId, id, stored, info, heq, hstored.mono hsent⟩
  · refine hs.congr ?_ hsent rfl
    have hnone : p.state.config.timeout = none := by
      rwa [Bool.not_eq_true, Option.isSome_eq_false_iff, Option.isNone_iff_eq_none] at htimeout
    simp only [recorded, record, FireAndForgetState.startTimer, hnone]

theorem Acknowledgeable.flushed (hs : p.Acknowledgeable) {messages : List ProtoMessage}
    (hmessages : p.state.config.timeout.isSome = true →
      ∀ message ∈ messages, message.getHeaderType = .ok .fnfReliable)
    {result : FnfResult Unit} (hflushed : Flushed env messages p result) :
    (left result).Acknowledgeable := by
  refine (hflushed.invariant (I := fun q => q.Acknowledgeable ∧ OnlyTimers p q) ?_
    ⟨hs, .of_state rfl⟩).1
  intro message hmessage q result hq hcalled
  refine ⟨hq.1.called ?_ hcalled, hq.2.trans hcalled.onlyTimers⟩
  intro htimeout
  rw [hq.2] at htimeout
  exact ⟨hmessages htimeout message hmessage, .inr rfl⟩

/-- No peer finds the session while there is a timeout, and messages that wait for a peer are
    sent with a timeout only if they were buffered with one. -/
def SendsAcknowledgeable (p : FireAndForgetProcessor) : FnfEvent → Prop
  | .onMessage message .North =>
      (message.message.getHeaderType = .ok .fnfDiscovery → p.state.Accepts message.message →
        p.state.config.timeout = none) ∧
      (message.message.getHeaderType = .ok .fnfDiscoveryReply →
        p.state.stickySessionStatus = .Discovering → p.state.config.timeout.isSome = true →
        ∀ buffered ∈ p.state.stickyBuffer, buffered.getHeaderType = .ok .fnfReliable)
  | _ => True

theorem getHeaderType_of_setHeaderType {message typed : ProtoMessage}
    {headerType : SessionHeaderType} (htyped : message.setHeaderType headerType = .ok typed) :
    typed.getHeaderType = .ok headerType := by
  obtain ⟨session, -, hsession, -, -⟩ := ProtoMessage.modifySessionHeader_eq_ok htyped
  simp only [ProtoMessage.getHeaderType, hsession, bind_ok, SessionHeaderType.tryFrom_toInt,
    Option.getD_some]
  rfl

theorem Acknowledgeable.transition (hs : p.Acknowledgeable) {event : FnfEvent}
    (hsends : p.SendsAcknowledgeable event) {result : FnfResult Unit}
    (htransition : Transition env p event result) : (left result).Acknowledgeable := by
  cases htransition with
  | quiet quiet => exact hs.of_frame quiet.toFrame
  | answered htype frame handed => exact hs.of_frame frame
  | configured config => exact ⟨hs.timers, hs.reports⟩
  | exited =>
      refine ⟨?_, hs.reports⟩
      intro id timer message hstored
      cases hstored
  | application htyped haddressed hbound called =>
      refine hs.called ?_ called
      intro htimeout
      refine ⟨?_, .inl rfl⟩
      rw [haddressed, getHeaderType_of_setHeaderType htyped, FireAndForgetState.headerType,
        if_pos htimeout]
  | buffered htyped hsearching hstatus quiet =>
      exact hs.congr (by rw [left_ok, quiet.state]; rfl)
        (by rw [left_ok, quiet.sent]; exact fun _ hitem => hitem) quiet.reports
  | unprobed hsearching hstatus hclosed quiet =>
      exact hs.congr (by rw [left_error, quiet.state]; rfl)
        (by rw [left_error, quiet.sent]; exact fun _ hitem => hitem) quiet.reports
  | acknowledged htype hid hstored => exact (hs.removeTimer _).congr rfl (fun _ hitem => hitem) rfl
  | @discovered _ source connection _ _ htype haccepts hsource hconnection hreply called =>
      have hbound : (p.bindTo source connection).Acknowledgeable := ⟨hs.timers, hs.reports⟩
      refine hbound.called ?_ called
      intro htimeout
      rw [FireAndForgetProcessor.bindTo, hsends.1 htype haccepts] at htimeout
      cases htimeout
  | @established _ source connection _ htype hstatus hsource hconnection flushed =>
      have hbound : (p.bindTo source connection).drain.Acknowledgeable := ⟨hs.timers, hs.reports⟩
      exact hbound.flushed (hsends.2 htype hstatus) flushed
  | unreported hstored hinfo => exact hs.removeTimer _
  | unheard hstored hinfo hclosed quiet => exact (hs.removeTimer _).of_frame quiet.toFrame
  | reported hstored hinfo =>
      refine ⟨(hs.removeTimer _).timers, ?_⟩
      intro report hreport
      rw [left_ok, reports_tell] at hreport
      rcases List.mem_append.1 hreport with hreport | hreport
      · exact hs.reports report hreport
      · rw [List.mem_singleton.1 hreport]
        exact ⟨_, _, _, _, rfl, hs.timers _ _ _ hstored⟩

theorem Acknowledgeable.step (hs : p.Acknowledgeable) {event : FnfEvent}
    (hsends : p.SendsAcknowledgeable event) : (p.step env event).Acknowledgeable := by
  rcases step_cases env p event with ⟨-, hsame⟩ | ⟨result, -, htransition, hsettle⟩
  · rwa [hsame]
  · have hleft := hs.transition hsends htransition
    rw [hsettle]
    rcases settle_cases result with heq | heq
    · rwa [heq]
    · rw [heq]
      exact ⟨hleft.timers, hleft.reports⟩

/-- As long as no peer finds the session while there is a timeout, and nothing that was
    buffered without a timeout is sent with one, only messages that the peer acknowledges are
    sent again, and a timeout is reported only for a message of the application. -/
theorem only_acknowledgeable_retransmitted (env : FnfEnvironment) (sessionId : UInt32)
    (source : Agent) (config : FireAndForgetConfiguration) (events : List FnfEvent)
    (hsteps : Along (step env) SendsAcknowledgeable (new sessionId source config) events) :
    let p := run (step env) (new sessionId source config) events
    (∀ id timer message, p.state.timers.get? id = some (timer, message) →
        message.getHeaderType = .ok .fnfReliable) ∧
      (∀ call session id message info,
        (call, .error (.timeout session id ⟨message, info⟩)) ∈ p.toApp →
          p.FromApplication message) ∧
      ∀ peerEnv (peer : FireAndForgetProcessor) message,
        (peer.step peerEnv (.onMessage message .North)).acks ≠ peer.acks →
          message.message.getHeaderType = .ok .fnfReliable := by
  intro p
  have hinit : (new sessionId source config).Acknowledgeable := by
    refine ⟨?_, List.forall_mem_nil _⟩
    intro id timer message hstored
    cases hstored
  have hs : p.Acknowledgeable :=
    run_invariant (fun q event hq hsends => hq.step hsends) events _ hsteps hinit
  refine ⟨?_, ?_, ?_⟩
  · intro id timer message hstored
    exact (hs.timers id timer message hstored).1
  · intro call session id message info hitem
    obtain ⟨_, _, found, _, heq, hfound⟩ := hs.reports _ (mem_reports.2 hitem)
    cases heq
    exact hfound
  · intro peerEnv peer message hacks
    rcases acks_step peerEnv peer (.onMessage message .North) with hsame | ⟨found, heq, htype⟩
    · exact absurd hsame hacks
    · cases heq
      exact htype

/-- The answer to a peer that finds the session gets a timer too.  It is never acknowledged,
    and the application is told of a timeout of a message it has not sent. -/
theorem discovery_reply_times_out :
    let p := run (step (openEnvironment fun _ => 5)) (fnfNew reliableConfig)
      [.onMessage (fnfMessage 7 1 .fnfDiscovery 1) .North]
    let q := run (step (openEnvironment fun _ => 5)) p [.timerFailure 5]
    (∃ timer message, p.state.timers.get? 5 = some (timer, message) ∧
        message.getHeaderType = .ok .fnfDiscoveryReply) ∧
      ∃ message info, (some 0, .error (.timeout 10 5 ⟨message, info⟩)) ∈ q.toApp ∧
        message.getHeaderType = .ok .fnfDiscoveryReply := by
  refine ⟨⟨_, _, rfl, rfl⟩, _, _, List.mem_cons_self, rfl⟩

theorem only_acknowledgeable_retransmitted_sample :
    let p := run (step (openEnvironment fun _ => 5)) (fnfNew reliableConfig)
      [.onMessage (fnfMessage 3 0 .fnf 0) .South, .timerFailure 5]
    p.toApp.length = 1 ∧
      (∀ id timer message, p.state.timers.get? id = some (timer, message) →
        message.getHeaderType = .ok .fnfReliable) ∧
      (∀ call session id message info,
        (call, .error (.timeout session id ⟨message, info⟩)) ∈ p.toApp →
          p.FromApplication message) ∧
      ∀ peerEnv (peer : FireAndForgetProcessor) message,
        (peer.step peerEnv (.onMessage message .North)).acks ≠ peer.acks →
          message.message.getHeaderType = .ok .fnfReliable :=
  ⟨rfl, only_acknowledgeable_retransmitted (openEnvironment fun _ => 5) 10 ⟨⟨1, 1, 2, none⟩, 3⟩
    reliableConfig [.onMessage (fnfMessage 3 0 .fnf 0) .South, .timerFailure 5]
    ⟨trivial, trivial, trivial⟩⟩

end FireAndForgetProcessor

end Slim
