import Mathlib.Data.List.Induction
import Slim.FireAndForgetSteps

/-!
# Sticky sessions

A session is bound to a peer when it gets a reply to its own search, or when a peer that
searches finds it.  The second binds it again whenever it happens, and leaves the messages
that wait for the first in the buffer.
-/

namespace Slim

open HashKey Machine Runs

/-! ## The binding -/

/-- The message goes to the agent over the connection. -/
def ProtoMessage.AddressedTo (name : Agent) (connection : Nat) (msg : ProtoMessage) : Prop :=
  ∃ header, msg.tryGetSlimHeader = some header ∧
    header.destination = some (ProtoAgent.ofAgent name) ∧ header.forwardTo = some connection

theorem FireAndForgetState.addressedTo_of_stampMessage {state : FireAndForgetState} {name : Agent}
    {connection : Nat} (hname : state.stickyName = some name)
    (hconnection : state.stickyConnection = some connection) {message stamped : ProtoMessage}
    {messageId : UInt32} (hstamp : state.stampMessage message messageId = .ok stamped) :
    stamped.AddressedTo name connection := by
  obtain ⟨numbered, -, hstamp⟩ := bind_eq_ok hstamp
  simp only [hname, hconnection] at hstamp
  obtain ⟨destined, hdestined, hstamp⟩ := bind_eq_ok hstamp
  obtain ⟨header, hheader, rfl⟩ := ProtoMessage.modifySlimHeader_eq_ok hdestined
  have hfound := ProtoMessage.tryGetSlimHeader_withHeader hheader
    { header with destination := some (ProtoAgent.ofAgent name) }
  obtain ⟨found, hsame, rfl⟩ := ProtoMessage.modifySlimHeader_eq_ok hstamp
  rw [hfound, Option.some.injEq] at hsame
  subst hsame
  exact ⟨_, ProtoMessage.tryGetSlimHeader_withHeader hfound _, rfl, rfl⟩

namespace FireAndForgetProcessor

variable {env : FnfEnvironment} {p : FireAndForgetProcessor}

/-- A session with a peer does not search. -/
def Settled (p : FireAndForgetProcessor) : Prop :=
  p.state.stickyName ≠ none → p.state.stickySessionStatus = .Established

theorem stickyName_of_isSearching (hsearching : p.state.isSearching = true) :
    p.state.stickyName = none := by
  rw [FireAndForgetState.isSearching, Bool.and_eq_true] at hsearching
  exact Option.isNone_iff_eq_none.1 hsearching.2

/-- What an event can do to the binding and to the buffer. -/
inductive StickyChange (p q : FireAndForgetProcessor) : FnfEvent → Prop
  | kept {event : FnfEvent} (name_eq : q.state.stickyName = p.state.stickyName)
      (connection_eq : q.state.stickyConnection = p.state.stickyConnection)
      (status_eq : q.state.stickySessionStatus = p.state.stickySessionStatus)
      (buffer_eq : q.state.stickyBuffer = p.state.stickyBuffer) : StickyChange p q event
  /-- A message of the application makes the session search, or finds it searching. -/
  | searching {message : SessionMessage} (hsearching : p.state.isSearching = true)
      (hstatus : p.state.stickySessionStatus ≠ .Established)
      (name_eq : q.state.stickyName = p.state.stickyName)
      (connection_eq : q.state.stickyConnection = p.state.stickyConnection)
      (status_eq : q.state.stickySessionStatus = .Discovering) :
      StickyChange p q (.onMessage message .South)
  /-- The session has found a peer, or a peer has found it. -/
  | bound {event : FnfEvent} (hname : q.state.stickyName.isSome = true)
      (hconnection : q.state.stickyConnection.isSome = true)
      (status_eq : q.state.stickySessionStatus = .Established)
      (hbuffer : q.state.stickyBuffer = p.state.stickyBuffer ∨ q.state.stickyBuffer = []) :
      StickyChange p q event

section Changes

variable {q : FireAndForgetProcessor} {event : FnfEvent}

theorem StickyChange.of_state (hstate : q.state = p.state) : StickyChange p q event := by
  apply StickyChange.kept <;> rw [hstate]

theorem StickyChange.onlyTimers {r : FireAndForgetProcessor} (hchange : StickyChange p q event)
    (hsame : OnlyTimers q r) : StickyChange p r event := by
  have hname : r.state.stickyName = q.state.stickyName := by rw [hsame]
  have hconnection : r.state.stickyConnection = q.state.stickyConnection := by rw [hsame]
  have hstatus : r.state.stickySessionStatus = q.state.stickySessionStatus := by rw [hsame]
  have hbuffer : r.state.stickyBuffer = q.state.stickyBuffer := by rw [hsame]
  cases hchange with
  | kept name_eq connection_eq status_eq buffer_eq =>
      exact .kept (hname.trans name_eq) (hconnection.trans connection_eq)
        (hstatus.trans status_eq) (hbuffer.trans buffer_eq)
  | searching hsearching hnot name_eq connection_eq status_eq =>
      exact .searching hsearching hnot (hname.trans name_eq) (hconnection.trans connection_eq)
        (hstatus.trans status_eq)
  | bound hsome hsomeConnection status_eq hkept =>
      rw [← hname] at hsome
      rw [← hconnection] at hsomeConnection
      rw [← hbuffer] at hkept
      exact .bound hsome hsomeConnection (hstatus.trans status_eq) hkept

theorem Transition.stickyChange {result : FnfResult Unit}
    (htransition : Transition env p event result) : StickyChange p (left result) event := by
  cases htransition with
  | quiet quiet => exact .of_state quiet.state
  | answered htype frame handed => exact .of_state frame.state
  | configured config => exact .kept rfl rfl rfl rfl
  | exited => exact .kept rfl rfl rfl rfl
  | application htyped haddressed hbound called =>
      exact (StickyChange.of_state rfl).onlyTimers called.onlyTimers
  | @buffered _ typed q htyped hsearching hstatus quiet =>
      refine StickyChange.onlyTimers (q := (p.setStatus .Discovering).push typed) ?_
        (.of_state quiet.state)
      exact .searching hsearching hstatus rfl rfl rfl
  | unprobed hsearching hstatus hclosed quiet =>
      have hnot : p.state.stickySessionStatus ≠ .Established := by
        rw [hstatus]
        decide
      refine StickyChange.onlyTimers (q := p.setStatus .Discovering) ?_ (.of_state quiet.state)
      exact .searching hsearching hnot rfl rfl rfl
  | acknowledged htype hid hstored => exact .kept rfl rfl rfl rfl
  | @discovered _ source connection _ _ htype haccepts hsource hconnection hreply called =>
      refine StickyChange.onlyTimers (q := p.bindTo source connection) ?_ called.onlyTimers
      exact .bound rfl rfl rfl (.inl rfl)
  | @established _ source connection _ htype hstatus hsource hconnection flushed =>
      refine StickyChange.onlyTimers (q := (p.bindTo source connection).drain) ?_
        flushed.onlyTimers
      exact .bound rfl rfl rfl (.inr rfl)
  | unreported hstored hinfo => exact .kept rfl rfl rfl rfl
  | @unheard messageId _ _ _ _ _ _ hstored hinfo hclosed quiet =>
      refine StickyChange.onlyTimers (q := p.removeTimer messageId) ?_ (.of_state quiet.state)
      exact .kept rfl rfl rfl rfl
  | reported hstored hinfo => exact .kept rfl rfl rfl rfl

end Changes

theorem stickyChange_step (env : FnfEnvironment) (p : FireAndForgetProcessor) (event : FnfEvent) :
    StickyChange p (p.step env event) event := by
  rcases step_cases env p event with ⟨-, hsame⟩ | ⟨result, -, htransition, hsettle⟩
  · rw [hsame]
    exact .of_state rfl
  · rw [hsettle]
    exact htransition.stickyChange.onlyTimers (.of_state (settle_state result))

/-- The three fields of the binding agree. -/
structure Coherent (p : FireAndForgetProcessor) : Prop where
  name_iff : p.state.stickyName.isSome = true ↔ p.state.stickySessionStatus = .Established
  connection_iff :
    p.state.stickyConnection.isSome = true ↔ p.state.stickySessionStatus = .Established

theorem Coherent.settled (hs : p.Coherent) : p.Settled := by
  intro hname
  apply hs.name_iff.1
  exact Option.isSome_iff_ne_none.2 hname

theorem Coherent.change {q : FireAndForgetProcessor} {event : FnfEvent} (hs : p.Coherent)
    (hchange : StickyChange p q event) : q.Coherent := by
  cases hchange with
  | kept name_eq connection_eq status_eq buffer_eq =>
      constructor
      · rw [name_eq, status_eq]
        exact hs.name_iff
      · rw [connection_eq, status_eq]
        exact hs.connection_iff
  | searching hsearching hstatus name_eq connection_eq status_eq =>
      -- there was no binding before, and the search does not bring one
      have hnone : q.state.stickySessionStatus ≠ .Established := by simp [status_eq]
      constructor
      · rw [name_eq]
        exact iff_of_false (fun hsome => hstatus (hs.name_iff.1 hsome)) hnone
      · rw [connection_eq]
        exact iff_of_false (fun hsome => hstatus (hs.connection_iff.1 hsome)) hnone
  | bound hname hconnection status_eq hbuffer =>
      exact ⟨iff_of_true hname status_eq, iff_of_true hconnection status_eq⟩

theorem Coherent.step (hs : p.Coherent) (event : FnfEvent) : (p.step env event).Coherent :=
  hs.change (stickyChange_step env p event)

theorem coherent_run (env : FnfEnvironment) (sessionId : UInt32) (source : Agent)
    (config : FireAndForgetConfiguration) (events : List FnfEvent) :
    (run (step env) (new sessionId source config) events).Coherent := by
  refine run_invariant (P := fun _ _ => True) (fun _ event hs _ => hs.step event) events _
    (along_of_forall events _ fun _ _ => trivial) ?_
  constructor <;> simp [new, FireAndForgetState.new]

/-- The message of the application makes the session call `start_sticky_session_discovery`. -/
def StartsDiscovery (env : FnfEnvironment) (p : FireAndForgetProcessor) (event : FnfEvent) : Prop :=
  (∃ message, event = .onMessage message .South) ∧ p.state.isSearching = true ∧
    p.state.stickySessionStatus = .Uninitialized ∧
    (p.step env event).state.stickySessionStatus = .Discovering

/-- One of the events of the run has started the discovery. -/
def HasSearched (env : FnfEnvironment) (p : FireAndForgetProcessor) (events : List FnfEvent) :
    Prop :=
  ∃ done event, done ++ [event] <+: events ∧ StartsDiscovery env (run (step env) p done) event

theorem HasSearched.append {events : List FnfEvent} (hs : HasSearched env p events)
    (later : List FnfEvent) : HasSearched env p (events ++ later) := by
  obtain ⟨done, event, hprefix, hstarts⟩ := hs
  exact ⟨done, event, hprefix.trans (List.prefix_append _ _), hstarts⟩

/-- A session searches, or has messages in its buffer, only if it has started to search. -/
theorem hasSearched_run (env : FnfEnvironment) (sessionId : UInt32) (source : Agent)
    (config : FireAndForgetConfiguration) (events : List FnfEvent) :
    let p := run (step env) (new sessionId source config) events
    (p.state.stickySessionStatus = .Discovering ∨ p.state.stickyBuffer ≠ []) →
      HasSearched env (new sessionId source config) events := by
  induction events using List.reverseRecOn with
  | nil => simp [new, FireAndForgetState.new]
  | append_singleton events event ih =>
      simp only [run_concat] at ih ⊢
      intro hafter
      have hchange := stickyChange_step env (run (step env) (new sessionId source config) events)
        event
      generalize hq : step env (run (step env) (new sessionId source config) events) event = q
        at hafter hchange
      cases hchange with
      | kept name_eq connection_eq status_eq buffer_eq =>
          rw [status_eq, buffer_eq] at hafter
          exact (ih hafter).append [event]
      | searching hsearching hnot name_eq connection_eq status_eq =>
          rcases hstatus :
            (run (step env) (new sessionId source config) events).state.stickySessionStatus
          · refine ⟨events, _, List.prefix_refl _, ⟨_, rfl⟩, hsearching, hstatus, ?_⟩
            rw [hq, status_eq]
          · exact (ih (.inl hstatus)).append [_]
          · exact absurd hstatus hnot
      | bound hname hconnection status_eq hbuffer =>
          -- a buffer that is in use was in use before
          rcases hafter with hstatus | hused
          · simp [status_eq] at hstatus
          · rcases hbuffer with hkept | hempty
            · rw [hkept] at hused
              exact (ih (.inr hused)).append [event]
            · exact absurd hempty hused

/-- In every reachable state the peer, its connection and the status `Established` come
    together, and the buffer is in use only after a discovery was started.  So an established
    session without a peer, for which `handle_message_to_slim` has an error and
    `handle_sticky_session_discovery_reply` does nothing, is never met. -/
theorem sticky_state_coherent (env : FnfEnvironment) (sessionId : UInt32) (source : Agent)
    (config : FireAndForgetConfiguration) (events : List FnfEvent) :
    let p := run (step env) (new sessionId source config) events
    (p.state.stickyName.isSome = true ↔ p.state.stickyConnection.isSome = true) ∧
      (p.state.stickyConnection.isSome = true ↔ p.state.stickySessionStatus = .Established) ∧
      (p.state.stickyBuffer ≠ [] → HasSearched env (new sessionId source config) events) ∧
      ¬ (p.state.isSearching = true ∧ p.state.stickySessionStatus = .Established) ∧
      ¬ (p.state.stickySessionStatus = .Established ∧ p.state.stickyName = none) := by
  intro p
  have hs : p.Coherent := coherent_run env sessionId source config events
  have hnamed : p.state.stickySessionStatus = .Established → p.state.stickyName ≠ none :=
    fun hstatus => Option.isSome_iff_ne_none.1 (hs.name_iff.2 hstatus)
  refine ⟨hs.name_iff.trans hs.connection_iff.symm, hs.connection_iff, ?_, ?_, ?_⟩
  · exact fun hbuffer => hasSearched_run env sessionId source config events (.inr hbuffer)
  · exact fun ⟨hsearching, hstatus⟩ => hnamed hstatus (stickyName_of_isSearching hsearching)
  · exact fun ⟨hstatus, hnone⟩ => hnamed hstatus hnone

/-- The binding is this one, and since `before` nothing was handed over for anyone else. -/
structure BoundTo (name : Agent) (connection : Nat) (before : List (SlimOrigin × ProtoMessage))
    (p : FireAndForgetProcessor) : Prop where
  name_eq : p.state.stickyName = some name
  connection_eq : p.state.stickyConnection = some connection
  handed_eq : ∃ later, p.handed = before ++ later ∧
    ∀ item ∈ later, item.2.AddressedTo name connection

section Binding

variable {name : Agent} {connection : Nat} {before : List (SlimOrigin × ProtoMessage)}

theorem BoundTo.of_onlyTimers {q : FireAndForgetProcessor} (hs : BoundTo name connection before p)
    (hsame : OnlyTimers p q) (hhanded : q.handed = p.handed) :
    BoundTo name connection before q where
  name_eq := by
    rw [hsame]
    exact hs.name_eq
  connection_eq := by
    rw [hsame]
    exact hs.connection_eq
  handed_eq := by
    rw [hhanded]
    exact hs.handed_eq

theorem BoundTo.removeTimer (hs : BoundTo name connection before p) (messageId : UInt32) :
    BoundTo name connection before (p.removeTimer messageId) :=
  ⟨hs.name_eq, hs.connection_eq, hs.handed_eq⟩

theorem BoundTo.bindTo (hs : BoundTo name connection before p) :
    BoundTo name connection before (p.bindTo name connection) :=
  ⟨rfl, rfl, hs.handed_eq⟩

theorem BoundTo.called (hs : BoundTo name connection before p) {origin : SlimOrigin}
    {message : ProtoMessage} {result : FnfResult Unit}
    (hcalled : Called env origin message p result) :
    BoundTo name connection before (left result) := by
  rcases hcalled.cases with hsame | ⟨stamped, hstamp, -, hhanded | hhanded⟩
  · rwa [hsame]
  · exact hs.of_onlyTimers hcalled.onlyTimers hhanded
  · have htimers := hcalled.onlyTimers
    refine ⟨by rw [htimers]; exact hs.name_eq, by rw [htimers]; exact hs.connection_eq, ?_⟩
    obtain ⟨later, hlater, haddressed⟩ := hs.handed_eq
    refine ⟨later ++ [(origin, stamped)], by rw [hhanded, hlater, List.append_assoc], ?_⟩
    intro item hitem
    rcases List.mem_append.1 hitem with hitem | hitem
    · exact haddressed item hitem
    · rw [List.mem_singleton.1 hitem]
      exact FireAndForgetState.addressedTo_of_stampMessage hs.name_eq hs.connection_eq hstamp

end Binding

/-- A peer that finds the session while it is bound is the one it is bound to, and comes over
    the same connection. -/
def Faithful (p : FireAndForgetProcessor) : FnfEvent → Prop
  | .onMessage message .North => ∀ name connection source incoming,
      message.message.getHeaderType = .ok .fnfDiscovery → p.state.Accepts message.message →
      p.state.stickyName = some name → p.state.stickyConnection = some connection →
      message.message.getSource = .ok source → message.message.getIncomingConn = .ok incoming →
      source = name ∧ incoming = connection
  | _ => True

theorem BoundTo.transition {name : Agent} {connection : Nat}
    {before : List (SlimOrigin × ProtoMessage)} (hs : BoundTo name connection before p)
    (hsettled : p.Settled) {event : FnfEvent} (hfaithful : p.Faithful event)
    {result : FnfResult Unit} (htransition : Transition env p event result) :
    BoundTo name connection before (left result) := by
  have hname : p.state.stickyName ≠ none := by
    rw [hs.name_eq]
    exact Option.some_ne_none name
  cases htransition with
  | quiet quiet => exact hs.of_onlyTimers (.of_state quiet.state) quiet.handed
  | answered htype frame handed => exact hs.of_onlyTimers (.of_state frame.state) handed
  | configured config => exact ⟨hs.name_eq, hs.connection_eq, hs.handed_eq⟩
  | exited => exact ⟨hs.name_eq, hs.connection_eq, hs.handed_eq⟩
  | application htyped haddressed hbound called => exact hs.called called
  | buffered htyped hsearching hstatus quiet =>
      exact absurd (stickyName_of_isSearching hsearching) hname
  | unprobed hsearching hstatus hclosed quiet =>
      exact absurd (stickyName_of_isSearching hsearching) hname
  | acknowledged htype hid hstored => exact ⟨hs.name_eq, hs.connection_eq, hs.handed_eq⟩
  | discovered htype haccepts hsource hconnection hreply called =>
      obtain ⟨rfl, rfl⟩ := hfaithful _ _ _ _ htype haccepts hs.name_eq hs.connection_eq hsource
        hconnection
      exact hs.bindTo.called called
  | established htype hstatus hsource hconnection flushed =>
      -- a reply counts only while the session searches
      rw [hsettled hname] at hstatus
      cases hstatus
  | unreported hstored hinfo => exact ⟨hs.name_eq, hs.connection_eq, hs.handed_eq⟩
  | unheard hstored hinfo hclosed quiet =>
      exact (hs.removeTimer _).of_onlyTimers (.of_state quiet.state) quiet.handed
  | reported hstored hinfo => exact ⟨hs.name_eq, hs.connection_eq, hs.handed_eq⟩

theorem BoundTo.step {name : Agent} {connection : Nat} {before : List (SlimOrigin × ProtoMessage)}
    (hs : BoundTo name connection before p) (hsettled : p.Settled) {event : FnfEvent}
    (hfaithful : p.Faithful event) : BoundTo name connection before (p.step env event) := by
  rcases step_cases env p event with ⟨-, hsame⟩ | ⟨result, -, htransition, hsettle⟩
  · rwa [hsame]
  · rw [hsettle]
    exact (hs.transition hsettled hfaithful htransition).of_onlyTimers
      (.of_state (settle_state result)) (settle_handed result)

/-- A binding stays in every later state, and whatever `send_message` hands to the network
    goes to the peer over its connection, as long as no other peer finds the session. -/
theorem sticky_binding_kept (env : FnfEnvironment) (sessionId : UInt32) (source : Agent)
    (config : FireAndForgetConfiguration) (first second : List FnfEvent) (name : Agent)
    (connection : Nat)
    (hname : (run (step env) (new sessionId source config) first).state.stickyName = some name)
    (hconnection : (run (step env) (new sessionId source config) first).state.stickyConnection =
      some connection)
    (hsteps : Along (step env) Faithful (run (step env) (new sessionId source config) first)
      second) :
    let p := run (step env) (new sessionId source config) first
    let q := run (step env) p second
    q.state.stickyName = some name ∧ q.state.stickyConnection = some connection ∧
      ∃ later, q.handed = p.handed ++ later ∧
        ∀ item ∈ later, item.2.AddressedTo name connection := by
  intro p q
  have hcoherent : p.Coherent := coherent_run env sessionId source config first
  have hbound : BoundTo name connection p.handed p :=
    ⟨hname, hconnection, [], (List.append_nil _).symm, List.forall_mem_nil _⟩
  have hlater : q.Coherent ∧ BoundTo name connection p.handed q := by
    refine run_invariant
      (I := fun p' : FireAndForgetProcessor => p'.Coherent ∧ BoundTo name connection p.handed p')
      ?_ second p hsteps ⟨hcoherent, hbound⟩
    intro p' event hs hfaithful
    exact ⟨hs.1.step event, hs.2.step hs.1.settled hfaithful⟩
  exact ⟨hlater.2.name_eq, hlater.2.connection_eq, hlater.2.handed_eq⟩

/-! ## Samples -/

section Samples

def fnfAgent (agentId : UInt64) : Agent := ⟨⟨1, 1, 1, none⟩, agentId⟩

/-- A message of the given type from an agent, as it comes over a connection. -/
def fnfMessage (agentId : UInt64) (connection : Nat) (headerType : SessionHeaderType)
    (messageId : UInt32) : SessionMessage where
  message := ProtoMessage.newPublishWithHeaders
    (some { ProtoSlimHeader.new (fnfAgent agentId) ⟨1, 1, 2, none⟩ (some 3) none with
      incomingConn := some connection })
    (some ⟨headerType.toInt, 10, messageId⟩) "msg" [42]
  info := ⟨10, some messageId, headerType, some (fnfAgent agentId), some connection⟩

/-- Channels that take everything. -/
def openEnvironment (draw : Nat → UInt32) : FnfEnvironment :=
  ⟨draw, fun _ => none, fun _ => none, false⟩

def fnfNew (config : FireAndForgetConfiguration) : FireAndForgetProcessor :=
  new 10 ⟨⟨1, 1, 2, none⟩, 3⟩ config

end Samples

/-- A session that is not sticky by its configuration is bound to the peer that finds it, and
    to the next one after that. -/
theorem second_discovery_redirects :
    let env := openEnvironment fun _ => 5
    let p := run (step env) (fnfNew .default) [.onMessage (fnfMessage 7 1 .fnfDiscovery 1) .North]
    let q := run (step env) p [.onMessage (fnfMessage 8 2 .fnfDiscovery 2) .North]
    p.state.stickyName = some (fnfAgent 7) ∧ p.state.stickyConnection = some 1 ∧
      q.state.stickyName = some (fnfAgent 8) ∧ q.state.stickyConnection = some 2 := by
  decide

theorem sticky_binding_kept_sample :
    let env := openEnvironment fun _ => 5
    let p := run (step env) (fnfNew .default) [.onMessage (fnfMessage 7 1 .fnfDiscovery 1) .North]
    let q := run (step env) p [.onMessage (fnfMessage 3 0 .fnf 0) .South]
    q.state.stickyName = some (fnfAgent 7) ∧ q.state.stickyConnection = some 1 ∧
      ∃ later, q.handed = p.handed ++ later ∧
        ∀ item ∈ later, item.2.AddressedTo (fnfAgent 7) 1 :=
  sticky_binding_kept (openEnvironment fun _ => 5) 10 ⟨⟨1, 1, 2, none⟩, 3⟩ .default
    [.onMessage (fnfMessage 7 1 .fnfDiscovery 1) .North]
    [.onMessage (fnfMessage 3 0 .fnf 0) .South] (fnfAgent 7) 1 (by decide) (by decide)
    ⟨trivial, trivial⟩

/-! ## The buffer -/

/-- The messages that the loop over the buffer has sent. -/
def fromBuffer (sent : List (SlimOrigin × ProtoMessage)) : List ProtoMessage :=
  (sent.filter fun item => decide (item.1 = .buffer)).map Prod.snd

theorem fromBuffer_append (first second : List (SlimOrigin × ProtoMessage)) :
    fromBuffer (first ++ second) = fromBuffer first ++ fromBuffer second := by
  rw [fromBuffer, List.filter_append, List.map_append, fromBuffer, fromBuffer]

/-- The message as some call of `send_message` makes it ready. -/
def Stamped (message stamped : ProtoMessage) : Prop :=
  ∃ state : FireAndForgetState, ∃ messageId, state.stampMessage message messageId = .ok stamped

/-- Everything that was sent was handed over, what was buffered was sent in its order or is in
    the buffer still, and a session with a peer has nothing there. -/
structure Unstranded (p : FireAndForgetProcessor) : Prop where
  handed_eq : p.handed = p.sent
  flushed : ∃ before, p.pushed = before ++ p.state.stickyBuffer ∧
    List.Forall₂ Stamped before (fromBuffer p.sent)
  established : p.state.stickySessionStatus = .Established → p.state.stickyBuffer = []

theorem Unstranded.of_frame {q : FireAndForgetProcessor} (hs : p.Unstranded) (hframe : Frame p q)
    (hhanded : q.handed = p.handed) : q.Unstranded where
  handed_eq := by rw [hhanded, hframe.sent, hs.handed_eq]
  flushed := by
    rw [hframe.pushed, hframe.state, hframe.sent]
    exact hs.flushed
  established := by
    rw [hframe.state]
    exact hs.established

theorem Unstranded.removeTimer (hs : p.Unstranded) (messageId : UInt32) :
    (p.removeTimer messageId).Unstranded :=
  ⟨hs.handed_eq, hs.flushed, hs.established⟩

theorem Unstranded.bindTo (hs : p.Unstranded) (hempty : p.state.stickyBuffer = []) (name : Agent)
    (connection : Nat) : (p.bindTo name connection).Unstranded :=
  ⟨hs.handed_eq, hs.flushed, fun _ => hempty⟩

/-- A message is buffered while the session searches. -/
theorem Unstranded.buffer (hs : p.Unstranded) (message : ProtoMessage) :
    ((p.setStatus .Discovering).push message).Unstranded := by
  refine ⟨hs.handed_eq, ?_, ?_⟩
  · obtain ⟨before, hbefore, hstamped⟩ := hs.flushed
    refine ⟨before, ?_, hstamped⟩
    simp only [push, setStatus, hbefore, List.append_assoc]
  · intro hestablished
    cases hestablished

/-- A message that does not come from the buffer is handed over. -/
theorem Unstranded.taken (hs : p.Unstranded) {origin : SlimOrigin} (horigin : origin ≠ .buffer)
    {message : ProtoMessage} {q : FireAndForgetProcessor}
    (hcalled : Called env origin message p (.ok () q)) : q.Unstranded := by
  have htimers := hcalled.onlyTimers
  rw [left_ok] at htimers
  cases hcalled with
  | @taken stamped _ hstamp frame handed acks =>
      constructor
      · rw [handed, frame.sent, hs.handed_eq]
        rfl
      · have hsent : fromBuffer q.sent = fromBuffer p.sent := by
          rw [frame.sent, recorded, record, fromBuffer_append, fromBuffer, fromBuffer,
            List.filter_singleton, decide_eq_false horigin]
          exact List.append_nil _
        rw [hsent, frame.pushed, htimers]
        exact hs.flushed
      · rw [htimers]
        exact hs.established

/-- The loop over the buffer, if it comes to its end, hands over every message in order. -/
theorem Flushed.all {messages : List ProtoMessage} {q : FireAndForgetProcessor}
    (hflushed : Flushed env messages p (.ok () q)) :
    ∃ stampeds, List.Forall₂ Stamped messages stampeds ∧
      q.sent = p.sent ++ stampeds.map (SlimOrigin.buffer, ·) ∧
      q.handed = p.handed ++ stampeds.map (SlimOrigin.buffer, ·) ∧ q.pushed = p.pushed := by
  generalize hresult : (EStateM.Result.ok () q : FnfResult Unit) = result at hflushed
  induction hflushed with
  | done p =>
      cases hresult
      exact ⟨[], .nil, (List.append_nil _).symm, (List.append_nil _).symm, rfl⟩
  | stop first => cases hresult
  | next first rest ih =>
      obtain ⟨stampeds, hstamped, hsent, hhanded, hpushed⟩ := ih hresult
      cases first with
      | @taken stamped _ hstamp frame handed acks =>
          refine ⟨stamped :: stampeds, .cons ⟨_, _, hstamp⟩ hstamped, ?_, ?_, ?_⟩
          · rw [hsent, frame.sent, recorded, record, List.append_assoc]
            rfl
          · rw [hhanded, handed, List.append_assoc]
            rfl
          · rw [hpushed, frame.pushed, recorded, record]

theorem fromBuffer_map (stampeds : List ProtoMessage) :
    fromBuffer (stampeds.map (SlimOrigin.buffer, ·)) = stampeds := by
  induction stampeds with
  | nil => rfl
  | cons stamped stampeds ih =>
      rw [fromBuffer] at ih
      simp [fromBuffer, ih]

/-- The session has found its peer and sends what has waited for it. -/
theorem Unstranded.flush (hs : p.Unstranded) {name : Agent} {connection : Nat}
    {q : FireAndForgetProcessor}
    (hflushed : Flushed env p.state.stickyBuffer (p.bindTo name connection).drain (.ok () q)) :
    q.Unstranded := by
  have htimers := hflushed.onlyTimers
  rw [left_ok] at htimers
  obtain ⟨stampeds, hstamped, hsent, hhanded, hpushed⟩ := hflushed.all
  obtain ⟨before, hbefore, hstampedBefore⟩ := hs.flushed
  constructor
  · rw [hhanded, hsent]
    exact congrArg (· ++ _) hs.handed_eq
  · refine ⟨p.pushed, ?_, ?_⟩
    · rw [hpushed, htimers]
      exact (List.append_nil _).symm
    · rw [hsent, fromBuffer_append, fromBuffer_map, hbefore]
      exact List.rel_append hstampedBefore hstamped
  · intro _
    rw [htimers]
    rfl

/-- A peer that finds the session meets an empty buffer. -/
def FindsNothingBuffered (p : FireAndForgetProcessor) : FnfEvent → Prop
  | .onMessage message .North => message.message.getHeaderType = .ok .fnfDiscovery →
      p.state.Accepts message.message → p.state.stickyBuffer = []
  | _ => True

/-- With open channels a call fails with a panic only. -/
theorem Called.error_isPanic (hslim : ∀ n, env.slimSend n = none) {origin : SlimOrigin}
    {message : ProtoMessage} {interruption : Interruption} {q : FireAndForgetProcessor}
    (hcalled : Called env origin message p (.error interruption q)) :
    interruption.isPanic = true := by
  cases hcalled with
  | unstamped hstamp => rfl
  | untraced hstamp hdebug hsource => rfl
  | refused hstamp hclosed quiet =>
      rw [hslim] at hclosed
      cases hclosed

theorem Flushed.error_isPanic (hslim : ∀ n, env.slimSend n = none) {messages : List ProtoMessage}
    {interruption : Interruption} {q : FireAndForgetProcessor}
    (hflushed : Flushed env messages p (.error interruption q)) : interruption.isPanic = true := by
  generalize hresult : (EStateM.Result.error interruption q : FnfResult Unit) = result at hflushed
  induction hflushed with
  | done p => cases hresult
  | stop first =>
      cases hresult
      exact first.error_isPanic hslim
  | next first rest ih => exact ih hresult

theorem Unstranded.transition (hslim : ∀ n, env.slimSend n = none) (hs : p.Unstranded)
    {event : FnfEvent} (hfinds : p.FindsNothingBuffered event) {result : FnfResult Unit}
    (htransition : Transition env p event result) (hrunning : (left result).running = true)
    (hpanic : ∀ interruption q, result = .error interruption q → interruption.isPanic = false) :
    (left result).Unstranded := by
  cases htransition with
  | quiet quiet => exact hs.of_frame quiet.toFrame quiet.handed
  | answered htype frame handed => exact hs.of_frame frame handed
  | configured config => exact ⟨hs.handed_eq, hs.flushed, hs.established⟩
  | exited => cases hrunning
  | application htyped haddressed hbound called =>
      rcases result with ⟨⟨⟩, q⟩ | ⟨interruption, q⟩
      · exact hs.taken (by decide) called
      · exact absurd (hpanic _ _ rfl) (by rw [called.error_isPanic hslim]; decide)
  | buffered htyped hsearching hstatus quiet =>
      exact (hs.buffer _).of_frame quiet.toFrame quiet.handed
  | unprobed hsearching hstatus hclosed quiet =>
      rw [hslim] at hclosed
      cases hclosed
  | acknowledged htype hid hstored => exact ⟨hs.handed_eq, hs.flushed, hs.established⟩
  | discovered htype haccepts hsource hconnection hreply called =>
      have hbound := hs.bindTo (hfinds htype haccepts)
      rcases result with ⟨⟨⟩, q⟩ | ⟨interruption, q⟩
      · exact (hbound _ _).taken (by decide) called
      · exact absurd (hpanic _ _ rfl) (by rw [called.error_isPanic hslim]; decide)
  | established htype hstatus hsource hconnection flushed =>
      rcases result with ⟨⟨⟩, q⟩ | ⟨interruption, q⟩
      · exact hs.flush flushed
      · exact absurd (hpanic _ _ rfl) (by rw [flushed.error_isPanic hslim]; decide)
  | unreported hstored hinfo => exact hs.removeTimer _
  | unheard hstored hinfo hclosed quiet =>
      exact (hs.removeTimer _).of_frame quiet.toFrame quiet.handed
  | reported hstored hinfo => exact ⟨hs.handed_eq, hs.flushed, hs.established⟩

theorem Unstranded.step (hslim : ∀ n, env.slimSend n = none)
    (hs : p.running = true → p.Unstranded) {event : FnfEvent}
    (hfinds : p.FindsNothingBuffered event) :
    (p.step env event).running = true → (p.step env event).Unstranded := by
  apply running_step hs
  intro result hunstranded htransition
  exact hunstranded.transition hslim hfinds htransition

/-- As long as no peer finds the session while messages are buffered, a session with a peer
    has an empty buffer, and has handed over every message it ever buffered, once and in
    order. -/
theorem sticky_messages_not_stranded (env : FnfEnvironment) (hslim : ∀ n, env.slimSend n = none)
    (sessionId : UInt32) (source : Agent) (config : FireAndForgetConfiguration)
    (events : List FnfEvent)
    (hsteps : Along (step env) FindsNothingBuffered (new sessionId source config) events) :
    let p := run (step env) (new sessionId source config) events
    p.running = true → p.state.stickySessionStatus = .Established →
      p.state.stickyBuffer = [] ∧ List.Forall₂ Stamped p.pushed (fromBuffer p.handed) := by
  intro p hrunning hestablished
  have hinit : (new sessionId source config).Unstranded := by
    refine ⟨rfl, ⟨[], rfl, .nil⟩, ?_⟩
    intro hestablished
    cases hestablished
  have hs : p.Unstranded := by
    refine run_invariant (I := fun q : FireAndForgetProcessor => q.running = true → q.Unstranded)
      ?_ events _ hsteps (fun _ => hinit) hrunning
    intro q event hq hfinds
    exact Unstranded.step hslim hq hfinds
  have hempty := hs.established hestablished
  obtain ⟨before, hbefore, hstamped⟩ := hs.flushed
  rw [hempty, List.append_nil] at hbefore
  rw [hbefore, hs.handed_eq]
  exact ⟨hempty, hstamped⟩

def stickyConfig : FireAndForgetConfiguration := ⟨none, none, true⟩

/-- Two sessions search for each other: the one that is found first has a peer, and its first
    message stays in the buffer. -/
theorem mutual_discovery_strands :
    let env := openEnvironment fun _ => 5
    let p := run (step env) (fnfNew stickyConfig)
      [.onMessage (fnfMessage 3 0 .fnf 0) .South,
        .onMessage (fnfMessage 7 1 .fnfDiscovery 1) .North]
    p.running = true ∧ p.state.stickySessionStatus = .Established ∧
      p.state.stickyBuffer.length = 1 ∧ p.pushed.length = 1 ∧ fromBuffer p.handed = [] := by
  refine ⟨rfl, rfl, rfl, rfl, rfl⟩

theorem sticky_messages_not_stranded_sample :
    let env := openEnvironment fun _ => 5
    let p := run (step env) (fnfNew stickyConfig)
      [.onMessage (fnfMessage 3 0 .fnf 0) .South,
        .onMessage (fnfMessage 7 1 .fnfDiscoveryReply 1) .North]
    p.running = true ∧ p.state.stickySessionStatus = .Established ∧ p.pushed.length = 1 ∧
      p.state.stickyBuffer = [] ∧ List.Forall₂ Stamped p.pushed (fromBuffer p.handed) := by
  refine ⟨rfl, rfl, rfl, ?_⟩
  refine sticky_messages_not_stranded (openEnvironment fun _ => 5) (fun _ => rfl) 10
    ⟨⟨1, 1, 2, none⟩, 3⟩ stickyConfig
    [.onMessage (fnfMessage 3 0 .fnf 0) .South,
      .onMessage (fnfMessage 7 1 .fnfDiscoveryReply 1) .North] ⟨trivial, ?_, trivial⟩ rfl rfl
  intro htype
  cases htype

end FireAndForgetProcessor

end Slim
