import Slim.ForwardedSubscriptions

/-!
# What a reconnection sends again

A node records the subscriptions it has forwarded, by source and name, and after a lost
connection it builds a subscription for each record.  `new_subscribe` unwraps the strings
of the name, so the records must have them; and the node at the other end must read the
recorded name and source back.  Both hold in every state of a node, however the tasks that
handle its messages are interleaved: what a step can put into a record is the content of a
message that a task is working on.
-/

namespace Slim

open HashKey Machine
open SubscriptionTableImpl (agentOf)
open TwoNodes (Built Replayable)

/-- The message that a task is working on, and whether it adds a subscription. -/
def ProcessingState.content : ProcessingState → Option (SubscriptionMessage × Bool)
  | .update msg _ _ add _ => some (msg, add)
  | .send msg _ add => some (msg, add)
  | .record msg _ add => some (msg, add)
  | _ => none

namespace MessageProcessor

/-! ## What a step does to the records -/

/-- The subscriptions that the node has recorded for a connection. -/
def recorded (f : Forwarder Connection) (conn : Nat) : List SubscriptionInfo :=
  (f.remoteSubscriptionTable.getSubscriptionsOnConnection conn).entries.map Prod.fst

/-- A step moves one task and changes the tables.  The task goes on with its message or
    starts with one that is received; what is new in the records is from the task's message. -/
structure Effect (s : MessageProcessor) (event : ProcessorEvent) (f : Forwarder Connection)
    (i : Nat) (state : ProcessingState) : Prop where
  eq : s.step event = ({ s with forwarder := f } : MessageProcessor).moveTo i state
  content : ∀ msg add, state.content = some (msg, add) →
    (s.tasks i).content = some (msg, add) ∨
      ∃ connIndex received, event = .receive i connIndex received add ∧
        msg.source = received.source ∧ msg.agentType = received.agentType
  records : ∀ conn, ∀ info ∈ recorded f conn, info ∈ recorded s.forwarder conn ∨
    ∃ msg, (s.tasks i).content = some (msg, true) ∧
      info = ⟨msg.source, agentOf msg.agentType msg.agentId⟩

section Steps

variable {s : MessageProcessor} {i : Nat}

theorem moveTo_same (s : MessageProcessor) (f : Forwarder Connection) (i : Nat) :
    ({ s with forwarder := f } : MessageProcessor).moveTo i (s.tasks i) =
      { s with forwarder := f } := by
  simp only [moveTo, Function.update_eq_self]

/-- The tables change and every task stays where it is. -/
theorem effect_of_forwarder {event : ProcessorEvent} {f : Forwarder Connection}
    (heq : s.step event = { s with forwarder := f })
    (hrecords : ∀ conn, ∀ info ∈ recorded f conn, info ∈ recorded s.forwarder conn) :
    ∃ f i state, s.Effect event f i state := by
  refine ⟨f, 0, s.tasks 0, ?_, fun msg add hcontent => .inl hcontent,
    fun conn info hinfo => .inl (hrecords conn info hinfo)⟩
  rw [heq, moveTo_same]

/-- A task moves on to a state without message, or with the same message, and the records
    stay as they are. -/
theorem effect_of_move {event : ProcessorEvent} {f : Forwarder Connection}
    {state : ProcessingState}
    (heq : s.step event = ({ s with forwarder := f } : MessageProcessor).moveTo i state)
    (hremote : f.remoteSubscriptionTable = s.forwarder.remoteSubscriptionTable)
    (hcontent : state.content = none ∨ state.content = (s.tasks i).content) :
    ∃ f i state, s.Effect event f i state := by
  refine ⟨f, i, state, heq, fun msg add hsome => .inl ?_, fun conn info hinfo => .inl ?_⟩
  · rcases hcontent with hnone | hsame
    · rw [hnone] at hsome
      cases hsome
    · rw [← hsame, hsome]
  · simpa only [recorded, hremote] using hinfo

theorem effect_receive (s : MessageProcessor) (i connIndex : Nat) (received : SubscriptionMessage)
    (add : Bool) : ∃ f j state, s.Effect (.receive i connIndex received add) f j state := by
  by_cases hfinished : (s.tasks i).isFinished = true
  · have hstep : s.step (.receive i connIndex received add) = s.findConnection i
        { received with header := received.header.setIncomingConn (some connIndex) } add := by
      simp only [step, hfinished, if_true, handleNewMessage]
    unfold findConnection at hstep
    rcases hconns : (received.header.setIncomingConn (some connIndex)).getInOutConnections with
      _ | ⟨conn, forward⟩
    · rw [hconns] at hstep
      exact effect_of_forwarder hstep fun _ _ hinfo => hinfo
    simp only [hconns] at hstep
    rcases hconn : s.forwarder.getConnection conn with _ | connection
    · simp only [hconn] at hstep
      exact effect_of_move hstep rfl (.inl rfl)
    · simp only [hconn] at hstep
      refine ⟨s.forwarder, i, _, hstep, ?_, fun _ _ hinfo => .inl hinfo⟩
      intro msg flag hcontent
      simp only [ProcessingState.content, Option.some.injEq, Prod.mk.injEq] at hcontent
      obtain ⟨rfl, rfl⟩ := hcontent
      exact .inr ⟨connIndex, received, rfl, rfl, rfl⟩
  · have hstep : s.step (.receive i connIndex received add) = s := by
      simp only [step, hfinished, Bool.false_eq_true, if_false]
    exact effect_of_forwarder hstep fun _ _ hinfo => hinfo

/-- What is on the record after a subscription is recorded or taken off it. -/
theorem recorded_onForwardedSubscription {f : Forwarder Connection} {msg : SubscriptionMessage}
    {outConn conn : Nat} {add : Bool} {info : SubscriptionInfo}
    (hinfo : info ∈ recorded (f.onForwardedSubscription msg.source msg.agentType msg.agentId
      outConn add) conn) :
    info ∈ recorded f conn ∨
      add = true ∧ info = ⟨msg.source, agentOf msg.agentType msg.agentId⟩ := by
  obtain ⟨entry, hentry, rfl⟩ := List.mem_map.1 hinfo
  cases add with
  | true =>
      simp only [Forwarder.onForwardedSubscription, if_true,
        RemoteSubscriptions.getSubscriptions_addSubscription] at hentry
      split at hentry
      · rcases HashMap.key_of_mem_insert hentry with hnew | ⟨old, hold, hsame⟩
        · exact .inr ⟨rfl, hnew⟩
        · exact .inl (List.mem_map.2 ⟨old, hold, hsame⟩)
      · exact .inl (List.mem_map_of_mem hentry)
  | false =>
      simp only [Forwarder.onForwardedSubscription, Bool.false_eq_true, if_false,
        RemoteSubscriptions.getSubscriptions_removeSubscription] at hentry
      split at hentry
      · exact .inl (List.mem_map_of_mem (HashMap.mem_of_mem_remove hentry))
      · exact .inl (List.mem_map_of_mem hentry)

theorem effect_advance (s : MessageProcessor) (i : Nat) (sendError : Option String) :
    ∃ f j state, s.Effect (.advance i sendError) f j state := by
  have hstep : s.step (.advance i sendError) = s.resume i sendError (s.tasks i) := rfl
  rcases htask : s.tasks i with _ | ⟨msg, conn, isLocal, add, forward⟩ | ⟨msg, outConn, add⟩ |
    ⟨msg, outConn, add⟩ | result
  all_goals simp only [htask, resume] at hstep
  · exact effect_of_forwarder hstep fun _ _ hinfo => hinfo
  · rcases hupdate : s.forwarder.onSubscriptionMsg msg.agentType msg.agentId conn isLocal add with
      ⟨e | ⟨⟩, f⟩
    · simp only [hupdate] at hstep
      exact effect_of_move hstep (Forwarder.onSubscriptionMsg_frame hupdate).2 (.inl rfl)
    · simp only [hupdate] at hstep
      cases forward with
      | none => exact effect_of_move hstep (Forwarder.onSubscriptionMsg_frame hupdate).2 (.inl rfl)
      | some outConn =>
          apply effect_of_move hstep (Forwarder.onSubscriptionMsg_frame hupdate).2
          simp [htask, ProcessingState.content]
  · rcases hsend : s.forwarder.sendMsg outConn sendError with e | ⟨⟩
    · simp only [hsend] at hstep
      exact effect_of_move hstep rfl (.inl rfl)
    · simp only [hsend] at hstep
      apply effect_of_move hstep rfl
      simp [htask, ProcessingState.content]
  · refine ⟨_, i, _, hstep, by simp [ProcessingState.content], fun conn info hinfo => ?_⟩
    rcases recorded_onForwardedSubscription hinfo with hold | ⟨rfl, hnew⟩
    · exact .inl hold
    · exact .inr ⟨msg, by simp [htask, ProcessingState.content], hnew⟩
  · exact effect_of_forwarder hstep fun _ _ hinfo => hinfo

theorem step_effect (s : MessageProcessor) (event : ProcessorEvent) :
    ∃ f i state, s.Effect event f i state := by
  cases event with
  | receive i connIndex received add => exact effect_receive s i connIndex received add
  | advance i sendError => exact effect_advance s i sendError
  | connectionEstablished connection existingIndex =>
      apply effect_of_forwarder (f := s.forwarder.exec (.connectionEstablished connection
        existingIndex)) rfl
      intro conn info hinfo
      rwa [recorded, Forwarder.remoteSubscriptionTable_established] at hinfo
  | connectionDrop connIndex isLocal order =>
      apply effect_of_forwarder (f := s.forwarder.onConnectionDrop connIndex isLocal order) rfl
      intro conn info hinfo
      simp only [recorded, Forwarder.onConnectionDrop,
        RemoteSubscriptions.getSubscriptions_removeConnection] at hinfo
      split at hinfo
      · cases hinfo
      · exact hinfo

end Steps

/-! ## The records can be sent again -/

section Records

variable [NameHash]

/-- The source of the message has an id and, being read from a header, no strings; the name
    of a subscription is made from its strings. -/
structure Recordable (msg : SubscriptionMessage) (add : Bool) : Prop where
  source_id : msg.source.agentId ≠ DEFAULT_AGENT_ID
  source_strings : msg.source.agentType.strings = none
  name : add = true → ∃ organization nameSpace agentType,
    msg.agentType = AgentType.fromStrings organization nameSpace agentType

/-- The message is one that a constructor built. -/
def FromConstructor : ProcessorEvent → Prop
  | .receive _ _ received add => ∃ msg, Built msg ∧ msg.Reads add received
  | _ => True

theorem recordable_of_built {msg : ProtoMessage} (hbuilt : Built msg) {add : Bool}
    {content : SubscriptionMessage} (hreads : msg.Reads add content) : Recordable content add where
  source_id := TwoNodes.source_of_built hbuilt hreads
  source_strings := by
    obtain ⟨header, source, destination, -, -, -, hagent, -⟩ := hreads.header
    obtain ⟨agentId, -, hagent⟩ := bind_eq_ok hagent
    rw [← Except.ok.inj hagent]
    rfl
  name := by
    rintro rfl
    exact TwoNodes.strings_of_subscribe hreads

/-- Every record can be sent again, and every task works on a message that may be
    recorded. -/
structure Replays (s : MessageProcessor) : Prop where
  replayable : ∀ conn, ∀ info ∈ recorded s.forwarder conn, Replayable info
  source_strings : ∀ conn, ∀ info ∈ recorded s.forwarder conn,
    info.source.agentType.strings = none
  working : ∀ i msg add, (s.tasks i).content = some (msg, add) → Recordable msg add

theorem replays_new : new.Replays where
  replayable := by
    intro conn info hinfo
    cases hinfo
  source_strings := by
    intro conn info hinfo
    cases hinfo
  working := by
    intro i msg add hcontent
    cases hcontent

theorem Replays.step {s : MessageProcessor} (hs : s.Replays) {event : ProcessorEvent}
    (hevent : FromConstructor event) : (s.step event).Replays := by
  obtain ⟨f, i, state, heffect⟩ := step_effect s event
  rw [heffect.eq]
  refine ⟨fun conn info hinfo => ?_, fun conn info hinfo => ?_, fun j msg add hcontent => ?_⟩
  · rcases heffect.records conn info hinfo with hold | ⟨msg, hcontent, rfl⟩
    · exact hs.replayable conn info hold
    · have hmsg := hs.working i msg true hcontent
      exact ⟨hmsg.source_id, hmsg.name rfl⟩
  · rcases heffect.records conn info hinfo with hold | ⟨msg, hcontent, rfl⟩
    · exact hs.source_strings conn info hold
    · exact (hs.working i msg true hcontent).source_strings
  · by_cases hj : j = i
    · subst hj
      simp only [moveTo, Function.update_self] at hcontent
      rcases heffect.content msg add hcontent with hold | ⟨connIndex, received, rfl, hsource, htype⟩
      · exact hs.working j msg add hold
      · obtain ⟨built, hbuilt, hreads⟩ := hevent
        have hmsg := recordable_of_built hbuilt hreads
        refine ⟨?_, ?_, ?_⟩
        · rw [hsource]
          exact hmsg.source_id
        · rw [hsource]
          exact hmsg.source_strings
        · rw [htype]
          exact hmsg.name
    · simp only [moveTo, Function.update_of_ne hj] at hcontent
      exact hs.working j msg add hcontent

/-- The node at the other end handles the message as a subscription of its connection to the
    recorded name, and reads the recorded source.  In a table whose copies agree exactly the
    recorded name is added for the connection. -/
structure Replayed (info : SubscriptionInfo) (sent : ProtoMessage) : Prop where
  source : sent.getSource = .ok info.source
  name : sent.getName = .ok (info.name.agentType, info.name.agentIdOption)
  handled : ∀ (g : Forwarder Connection) conn connection sendError,
    g.getConnection conn = some connection →
    g.handleNewMessage conn sent sendError = .ok (.subscription ⟨.ok (),
      (g.onSubscriptionMsg info.name.agentType info.name.agentIdOption conn
        connection.isLocalConnection true).2, none⟩)
  listed : ∀ (g : Forwarder Connection) conn isLocal agent other,
    g.subscriptionTable.Consistent →
    ((g.onSubscriptionMsg info.name.agentType info.name.agentIdOption conn isLocal
        true).2.subscriptionTable.table.Listed agent other ↔
      g.subscriptionTable.table.Listed agent other ∨ key agent = key info.name ∧ other = conn)

omit [NameHash] in
/-- A source without strings is read from a message as it was put there. -/
theorem ofProto_of_strings_none {source : Agent} (hstrings : source.agentType.strings = none) :
    (⟨AgentType.ofProto (ProtoAgent.ofAgent source), source.agentId⟩ : Agent) = source := by
  obtain ⟨⟨organization, nameSpace, agentType, strings⟩, agentId⟩ := source
  subst hstrings
  rfl

/-- A subscription without connections in its header is one of the connection it comes
    over. -/
theorem handleNewMessage_plain {sent : ProtoMessage} {content : SubscriptionMessage}
    (hreads : sent.Reads true content) (hrecv : content.header.recvFrom = none)
    (hforward : content.header.forwardTo = none) {g : Forwarder Connection} {conn : Nat}
    {connection : Connection} (hconn : g.getConnection conn = some connection)
    (sendError : Option String) :
    g.handleNewMessage conn sent sendError = .ok (.subscription ⟨.ok (),
      (g.onSubscriptionMsg content.agentType content.agentId conn
        connection.isLocalConnection true).2, none⟩) := by
  have hconns : (content.header.setIncomingConn (some conn)).getInOutConnections =
      some (conn, none) := by
    simp only [SlimHeader.getInOutConnections, SlimHeader.setIncomingConn, hrecv, hforward]
  obtain ⟨processed, hprocessed, houtcome⟩ :=
    handleNewMessage_outcome hreads g conn hconns sendError
  rw [hprocessed]
  cases houtcome with
  | unconnected hnone => simp [hconn] at hnone
  | failed hfound hupdate =>
      -- adding a subscription does not fail
      have hresult := congrArg Prod.fst hupdate
      simp only [Forwarder.onSubscriptionMsg, if_true] at hresult
      rcases g.subscriptionTable.addSubscription_cases content.agentType content.agentId conn _ with
        ⟨-, heq⟩ | ⟨-, heq⟩
      all_goals
        rw [heq] at hresult
        cases hresult
  | updated hfound hupdate hnone =>
      rw [hconn, Option.some.injEq] at hfound
      rw [hfound, hupdate]
  | unsent hfound hupdate hsome hsend => cases hsome
  | forwarded hfound hupdate hsome hsend hsent => cases hsome

/-- In every state of a node that has handled messages of the constructors, with its tasks
    interleaved in any way, every record has the strings of its name, the subscription for it
    can be built and sent, and the node that receives it subscribes the connection to exactly
    the recorded name, with the recorded source. -/
theorem reconnection_replays_records (events : List ProcessorEvent)
    (hbuilt : ∀ event ∈ events, FromConstructor event) (conn : Nat) (info : SubscriptionInfo)
    (hinfo : info ∈ recorded (Runs.run step new events).forwarder conn) :
    (∃ strings, info.name.agentType.strings = some strings) ∧
      agentOf info.name.agentType info.name.agentIdOption = info.name ∧
      ∃ msg sent,
        ProtoMessage.newSubscribe info.source info.name.agentType info.name.agentIdOption none =
          .ok msg ∧
        (∀ (f : Forwarder Connection) outConn sendError, f.transmit msg outConn sendError =
          .ok ((f.sendMsg outConn sendError).map fun _ => sent)) ∧
        Replayed info sent := by
  have hs := Runs.run_invariant (I := Replays) (P := fun _ event => FromConstructor event)
    (fun _ _ hs hevent => hs.step hevent) events new (Runs.along_of_forall _ _ hbuilt) replays_new
  obtain ⟨hid, organization, nameSpace, agentType, htype⟩ := hs.replayable conn info hinfo
  have hstrings := hs.source_strings conn info hinfo
  obtain ⟨msg, hmsg, hreads⟩ := ProtoMessage.Reads.newSubscribe hid organization nameSpace
    agentType info.name.agentIdOption none
  obtain ⟨sent, hreadable, hread⟩ := hreads.readable
  have hname := SubscriptionTableImpl.agentOf_agentIdOption info.name
  refine ⟨⟨_, by rw [htype]; rfl⟩, hname, msg,
    sent, ?_, fun f outConn sendError => hreadable.transmit f outConn sendError, ?_, ?_, ?_, ?_⟩
  · rw [htype]
    exact hmsg
  · exact hread.getSource.trans (congrArg Except.ok (ofProto_of_strings_none hstrings))
  · rw [hread.name, htype]
  · intro g k connection sendError hconn
    rw [handleNewMessage_plain hread rfl rfl hconn, htype]
  · intro g k isLocal agent other hconsistent
    have hlisted := hconsistent.listed_addSubscription info.name.agentType
      info.name.agentIdOption k isLocal agent other
    rwa [hname] at hlisted

end Records

/-- A subscription from the application on connection 0, for the node on connection 1. -/
def sampleContent : SubscriptionMessage where
  header := ⟨none, some 1, none⟩
  source := ⟨⟨Service.sampleName.organization, Service.sampleName.nameSpace,
    Service.sampleName.agentType, none⟩, 7⟩
  agentType := Service.sampleName
  agentId := none

/-- The subscription is handled and forwarded. -/
def sampleForwarding : List ProcessorEvent :=
  [.connectionEstablished ⟨.server, .Local⟩ none, .connectionEstablished ⟨.client, .Remote⟩ none,
    .receive 0 0 sampleContent true, .advance 0 none, .advance 0 none, .advance 0 none]

theorem fromConstructor_sample : ∀ event ∈ sampleForwarding, @FromConstructor sampleHash event := by
  obtain ⟨msg, hmsg, hreads⟩ := @ProtoMessage.Reads.newSubscribe sampleHash
    ⟨Service.sampleName, 7⟩ (by decide) "org" "ns" "type" none
    (some (SlimHeaderFlags.default.withForwardTo 1))
  intro event hevent
  simp only [sampleForwarding, List.mem_cons, List.not_mem_nil, or_false] at hevent
  rcases hevent with rfl | rfl | rfl | rfl | rfl | rfl
  · trivial
  · trivial
  · exact ⟨msg, .inl ⟨_, _, _, _, hmsg⟩, hreads⟩
  · trivial
  · trivial
  · trivial

theorem reconnection_replays_records_sample :
    ∃ sent, @Replayed sampleHash ⟨sampleContent.source, agentOf Service.sampleName none⟩ sent := by
  have hrecorded : ⟨sampleContent.source, agentOf Service.sampleName none⟩ ∈
      recorded (Runs.run step new sampleForwarding).forwarder 1 := List.mem_cons_self
  obtain ⟨-, -, msg, sent, -, -, hreplayed⟩ := @reconnection_replays_records sampleHash
    sampleForwarding fromConstructor_sample 1 _ hrecorded
  exact ⟨sent, hreplayed⟩

end MessageProcessor

end Slim
