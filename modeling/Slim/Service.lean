import Slim.SubscriptionProcessing

/-!
# Subscribing through the service: `service/src/lib.rs`

An application that is registered with the service has a session layer, and a
connection of its own to the local node.  `subscribe` and `unsubscribe` build a
message and send it over that connection.
-/

namespace Slim

open HashKey Machine
open SubscriptionTableImpl (agentOf)

/-! ## `Service` -/

/-- The errors of `ServiceError` that the modelled functions return. -/
inductive ServiceError where
  | agentNotFound (text : String)
deriving DecidableEq, Repr

/-- The registered agents, each with the connection of its session layer. -/
structure Service where
  sessionLayers : HashMap Agent Nat

namespace Service

/-- `send_message` without session: the message goes over the connection of the agent. -/
def sendMessage (service : Service) (agent : Agent) (msg : ProtoMessage) :
    Except ServiceError (Nat × ProtoMessage) :=
  match service.sessionLayers.get? agent with
  | none => .error (.agentNotFound agent.display)
  | some connId => .ok (connId, msg)

/-- The header flags of `subscribe` and `unsubscribe`. -/
def forwardFlags : Option Nat → SlimHeaderFlags
  | some conn => SlimHeaderFlags.default.withForwardTo conn
  | none => SlimHeaderFlags.default

def subscribe (service : Service) (localAgent : Agent) (agentType : AgentType)
    (agentId : Option UInt64) (conn : Option Nat) :
    Except AccessPanic (Except ServiceError (Nat × ProtoMessage)) := do
  let msg ← ProtoMessage.newSubscribe localAgent agentType agentId (some (forwardFlags conn))
  return service.sendMessage localAgent msg

/-- The message is built by `new_subscribe` here too. -/
def unsubscribe (service : Service) (localAgent : Agent) (agentType : AgentType)
    (agentId : Option UInt64) (conn : Option Nat) :
    Except AccessPanic (Except ServiceError (Nat × ProtoMessage)) := do
  let msg ← ProtoMessage.newSubscribe localAgent agentType agentId (some (forwardFlags conn))
  return service.sendMessage localAgent msg

end Service

/-! ## What the constructed messages read -/

namespace ProtoMessage

/-- The conversion to a message and back keeps the key of an agent. -/
theorem key_of_ofProto_ofAgent {agent found : Agent}
    (hfound : Agent.ofProto (ProtoAgent.ofAgent agent) = .ok found) :
    agent.agentId ≠ DEFAULT_AGENT_ID ∧ key found = key agent ∧
      found.agentId ≠ DEFAULT_AGENT_ID := by
  rw [Agent.ofProto_ofAgent] at hfound
  by_cases hid : agent.agentId = DEFAULT_AGENT_ID
  · rw [if_pos hid] at hfound
    cases hfound
  · rw [if_neg hid] at hfound
    cases hfound
    exact ⟨hid, rfl, hid⟩

section Constructors

variable [NameHash] {source : Agent} {agentType : AgentType} {agentId : Option UInt64}
  {flags : SlimHeaderFlags} {msg : ProtoMessage} {add : Bool} {content : SubscriptionMessage}

theorem Reads.of_newSubscribe (hencoded : agentType.Encoded)
    (hmsg : newSubscribe source agentType agentId (some flags) = .ok msg)
    (hreads : msg.Reads add content) :
    add = true ∧ content.header = ⟨flags.recvFrom, flags.forwardTo, flags.incomingConn⟩ ∧
      key content.source = key source ∧ content.source.agentId ≠ DEFAULT_AGENT_ID ∧
      content.agentType = agentType ∧ content.agentId = agentId := by
  obtain ⟨⟨organization, nameSpace, name⟩, hstrings, hmsg⟩ := bind_eq_ok hmsg
  cases hmsg
  obtain ⟨header, sender, destination, hheader, hfields, hsource, hagent, -⟩ := hreads.header
  cases hheader
  cases hsource
  obtain ⟨-, hkey, hid⟩ := key_of_ofProto_ofAgent hagent
  have hkind := hreads.kind
  cases hkind
  have htype : agentType.strings = some (organization, nameSpace, name) := by
    rcases hsome : agentType.strings with _ | strings
    · rw [hsome] at hstrings
      cases hstrings
    · rw [hsome] at hstrings
      cases hstrings
      rfl
  refine ⟨rfl, hfields.symm, hkey, hid, ?_, ?_⟩
  · rw [hencoded _ _ _ htype]
    exact (congrArg Prod.fst (Except.ok.inj hreads.name)).symm
  · exact (congrArg Prod.snd (Except.ok.inj hreads.name)).symm

/-- A subscription from a source with an id, to a name with its strings, can be built and
    handled. -/
theorem Reads.newSubscribe (hid : source.agentId ≠ DEFAULT_AGENT_ID)
    (organization nameSpace name : String) (agentId : Option UInt64)
    (flags : Option SlimHeaderFlags) :
    ∃ msg, newSubscribe source (AgentType.fromStrings organization nameSpace name) agentId flags =
        .ok msg ∧
      msg.Reads true
        ⟨(ProtoSlimHeader.new source (AgentType.fromStrings organization nameSpace name) agentId
            flags).toSlimHeader,
          ⟨AgentType.ofProto (ProtoAgent.ofAgent source), source.agentId⟩,
          AgentType.fromStrings organization nameSpace name, agentId⟩ := by
  refine ⟨_, rfl, rfl, ⟨_, _, _, rfl, rfl, rfl, ?_, rfl⟩, rfl⟩
  rw [Agent.ofProto_ofAgent, if_neg hid]

end Constructors

end ProtoMessage

/-! ## Subscribe, then unsubscribe -/

namespace Service

section Calls

variable [NameHash]

/-- Both calls send a message over the connection `connId` of the agent, and the node
    processes the two messages without error; `g` is the state after them. -/
def SubscribeThenUnsubscribe (service : Service) (f : Forwarder Connection) (localAgent : Agent)
    (agentType : AgentType) (agentId : Option UInt64) (conn : Option Nat) (connId : Nat)
    (g : Forwarder Connection) : Prop :=
  ∃ first second sendError sendError' subscribed unsubscribed,
    service.subscribe localAgent agentType agentId conn = .ok (.ok (connId, first)) ∧
    f.handleNewMessage connId first sendError = .ok (.subscription subscribed) ∧
    subscribed.result = .ok () ∧
    service.unsubscribe localAgent agentType agentId conn = .ok (.ok (connId, second)) ∧
    subscribed.forwarder.handleNewMessage connId second sendError' =
      .ok (.subscription unsubscribed) ∧
    unsubscribed.result = .ok () ∧ g = unsubscribed.forwarder

/-- Every lookup answers in `g` as in `f`, and no subscription of the agent to the name is
    recorded on the connection it was forwarded to. -/
structure Undone (f g : Forwarder Connection) (localAgent name : Agent) (conn : Option Nat) :
    Prop where
  same_answers : ∀ agentType agentId incomingConn order,
    g.subscriptionTable.matchAll agentType agentId incomingConn order =
      f.subscriptionTable.matchAll agentType agentId incomingConn order
  not_recorded : ∀ outConn, conn = some outConn →
    (g.remoteSubscriptionTable.getSubscriptionsOnConnection outConn).contains
      ⟨localAgent, name⟩ = false

/-- What a processed subscription has done to the tables. -/
theorem subscription_processed {service : Service} {f : Forwarder Connection}
    {localAgent : Agent} {agentType : AgentType} {agentId : Option UInt64} {conn : Option Nat}
    {connId : Nat} {msg : ProtoMessage} {sendError : Option String} {processed : Processed}
    (hencoded : agentType.Encoded)
    (hmsg : service.subscribe localAgent agentType agentId conn = .ok (.ok (connId, msg)))
    (hhandled : f.handleNewMessage connId msg sendError = .ok (.subscription processed))
    (hok : processed.result = .ok ()) :
    ∃ connection, f.getConnection connId = some connection ∧
      processed.forwarder.connectionTable = f.connectionTable ∧
      processed.forwarder.subscriptionTable = (f.subscriptionTable.addSubscription agentType
        agentId connId connection.isLocalConnection).2 := by
  obtain ⟨built, hbuilt, hsent⟩ := bind_eq_ok hmsg
  have hsame : built = msg := by
    simp only [sendMessage] at hsent
    rcases hlayer : service.sessionLayers.get? localAgent with _ | layer
    · rw [hlayer] at hsent
      cases hsent
    · rw [hlayer] at hsent
      cases hsent
      rfl
  subst hsame
  obtain ⟨add, content, hreads⟩ := reads_of_handled hhandled
  obtain ⟨rfl, hheader, -, -, rfl, rfl⟩ := hreads.of_newSubscribe hencoded hbuilt
  -- the flags name no connection to receive from
  have hconns : (content.header.setIncomingConn (some connId)).getInOutConnections =
      some (connId, conn) := by
    rw [hheader]
    cases conn with
    | none => rfl
    | some outConn => rfl
  obtain ⟨found, hfound, houtcome⟩ := handleNewMessage_outcome hreads f connId hconns sendError
  rw [hhandled, Except.ok.injEq, Handled.subscription.injEq] at hfound
  subst hfound
  cases houtcome with
  | unconnected hnone => cases hok
  | failed hconn hupdate => cases hok
  | unsent hconn hupdate hforward hsend => cases hok
  | updated hconn hupdate hforward =>
      refine ⟨_, hconn, ?_, ?_⟩
      · exact (Forwarder.onSubscriptionMsg_frame hupdate).1
      · exact congrArg (fun result => result.2.subscriptionTable) hupdate.symm
  | forwarded hconn hupdate hforward hsend hsent =>
      refine ⟨_, hconn, ?_, ?_⟩
      · exact (Forwarder.onSubscriptionMsg_frame hupdate).1
      · exact congrArg (fun result => result.2.subscriptionTable) hupdate.symm

/-- `unsubscribe` after `subscribe` never undoes it: whenever the local connection of the
    agent had no subscription for the name and both messages are processed without error,
    messages for the name are routed to the connection afterwards. -/
theorem unsubscribe_never_undoes (service : Service) (f g : Forwarder Connection)
    (localAgent : Agent) (agentType : AgentType) (agentId : Option UInt64) (conn : Option Nat)
    (connId : Nat) (hencoded : agentType.Encoded)
    (hlocal : ∃ connection, f.getConnection connId = some connection ∧
      connection.isLocalConnection = true)
    (hlisted : ¬ f.subscriptionTable.table.Listed (agentOf agentType agentId) connId)
    (hheld : ¬ f.subscriptionTable.connections.Holds (agentOf agentType agentId) connId)
    (hcalls : service.SubscribeThenUnsubscribe f localAgent agentType agentId conn connId g) :
    ¬ Undone f g localAgent (agentOf agentType agentId) conn := by
  intro hundone
  obtain ⟨first, second, sendError, sendError', subscribed, unsubscribed, hfirst, hhandled, hok,
    hsecond, hhandled', hok', rfl⟩ := hcalls
  obtain ⟨connection, hconnection, hislocal⟩ := hlocal
  obtain ⟨found, hfound, -, htable⟩ := subscription_processed hencoded hfirst hhandled hok
  obtain ⟨again, hagain, -, htable'⟩ := subscription_processed hencoded hsecond hhandled' hok'
  rw [hconnection, Option.some.injEq] at hfound
  subst hfound
  rw [hislocal] at htable
  -- the second message finds the subscription that the first one made
  have hholds : subscribed.forwarder.subscriptionTable.connections.Holds
      (agentOf agentType agentId) connId := by
    rw [htable]
    exact (f.subscriptionTable.holds_addSubscription agentType agentId connId true _ _).2
      (Or.inr ⟨rfl, rfl⟩)
  have hunchanged : unsubscribed.forwarder.subscriptionTable =
      subscribed.forwarder.subscriptionTable := by
    rw [htable']
    rcases subscribed.forwarder.subscriptionTable.addSubscription_cases agentType agentId connId
      again.isLocalConnection with ⟨-, hresult⟩ | ⟨hnot, -⟩
    · rw [hresult]
    · exact absurd hholds hnot
  apply SubscriptionTableImpl.matchAll_addSubscription_ne hlisted hheld IterOrder.stored
  rw [← htable, ← hunchanged]
  exact hundone.same_answers _ _ _ _

end Calls

/-! ### An agent that subscribes and unsubscribes -/

/-- The name of the examples, encoded with their hashes. -/
def sampleName : AgentType := @AgentType.fromStrings sampleHash "org" "ns" "type"

/-- One agent, registered with connection 0. -/
def sampleService : Service := ⟨HashMap.empty.insert ⟨sampleName, 7⟩ 0⟩

/-- A node with the connection of the agent. -/
def sampleNode : Forwarder Connection :=
  Forwarder.new.exec (.connectionEstablished ⟨.server, .Local⟩ none)

/-- The node after both calls. -/
def sampleNodeAfter : Forwarder Connection where
  subscriptionTable := (sampleNode.subscriptionTable.addSubscription sampleName none 0 true).2
  remoteSubscriptionTable := sampleNode.remoteSubscriptionTable
  connectionTable := sampleNode.connectionTable

/-- Before the calls the name has no match; after them it is routed to the agent. -/
theorem unsubscribe_leaves_route :
    @SubscribeThenUnsubscribe sampleHash sampleService sampleNode ⟨sampleName, 7⟩ sampleName none
        none 0 sampleNodeAfter ∧
      sampleNode.subscriptionTable.matchAll sampleName none 9 IterOrder.stored =
        .error (SubscriptionTableImpl.noMatch sampleName none) ∧
      sampleNodeAfter.subscriptionTable.matchAll sampleName none 9 IterOrder.stored = .ok [0] ∧
      ¬ Undone sampleNode sampleNodeAfter ⟨sampleName, 7⟩ (agentOf sampleName none) none := by
  refine ⟨⟨_, _, none, none, _, _, rfl, rfl, rfl, rfl, rfl, rfl, rfl⟩, rfl, rfl, fun hundone => ?_⟩
  have hsame := hundone.same_answers sampleName none 9 IterOrder.stored
  cases hsame

theorem unsubscribe_never_undoes_sample :
    ¬ Undone sampleNode sampleNodeAfter ⟨sampleName, 7⟩ (agentOf sampleName none) none := by
  apply @unsubscribe_never_undoes sampleHash sampleService sampleNode sampleNodeAfter
    ⟨sampleName, 7⟩ sampleName none none 0
  · exact @AgentType.encoded_fromStrings sampleHash "org" "ns" "type"
  · exact ⟨⟨.server, .Local⟩, rfl, rfl⟩
  · rintro ⟨side, hmem⟩
    cases hmem
  · exact ConnTable.not_holds_empty _ _
  · exact ⟨_, _, none, none, _, _, rfl, rfl, rfl, rfl, rfl, rfl, rfl⟩

end Service

end Slim
