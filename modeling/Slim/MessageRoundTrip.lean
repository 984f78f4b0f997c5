import Slim.Messages

/-!
# Constructors and accessors: `messages/utils.rs`

A message carries the name it is about as three hashes in its header; a subscription carries
the strings of the name as well, and its name is computed from them.  The id of the source is
left out of the header when it is the default one, and the accessor insists on it.
-/

namespace Slim

open HashKey Machine

/-! ## Agents -/

/-- The conversion to a message and back keeps the agent, unless its id is the default one. -/
theorem returns_ofProto_ofAgent_iff (agent : Agent) :
    (∃ found, Agent.ofProto (ProtoAgent.ofAgent agent) = .ok found ∧ key found = key agent) ↔
      agent.agentId ≠ DEFAULT_AGENT_ID := by
  rw [Agent.ofProto_ofAgent]
  by_cases hid : agent.agentId = DEFAULT_AGENT_ID
  · simp [hid]
  · simp only [hid, if_false, ne_eq, not_false_eq_true, iff_true]
    exact ⟨_, rfl, rfl⟩

namespace ProtoMessage

/-! ## What the accessors return -/

/-- The accessors give back what a constructor was given.  Names are compared as the program
    compares them, by their hashes. -/
structure ReadsBack [NameHash] (msg : ProtoMessage) (source : Agent) (agentType : AgentType)
    (agentId : Option UInt64) (flags : SlimHeaderFlags) : Prop where
  validate : msg.validate = .ok ()
  source : ∃ found, msg.getSource = .ok found ∧ key found = key source
  name : ∃ found, msg.getName = .ok (found, agentId) ∧ key found = key agentType
  recvFrom : msg.getRecvFrom = .ok flags.recvFrom
  forwardTo : msg.getForwardTo = .ok flags.forwardTo
  incomingConn : msg.tryGetIncomingConn = .ok flags.incomingConn
  fanout : msg.getFanout = .ok flags.fanout
  error : msg.getError = .ok flags.error

section Constructed

variable [NameHash] {msg : ProtoMessage} {source : Agent} {agentType : AgentType}
  {agentId : Option UInt64} {flags : Option SlimHeaderFlags}

/-- With the header of the constructors only the source can be missing. -/
theorem readsBack_iff
    (hheader : msg.tryGetSlimHeader = some (ProtoSlimHeader.new source agentType agentId flags))
    (hsession : ∀ publish, msg.messageType = some (.publish publish) → publish.session ≠ none)
    (hname : ∃ found, msg.getName = .ok (found, agentId) ∧ key found = key agentType) :
    msg.ReadsBack source agentType agentId (flags.getD SlimHeaderFlags.default) ↔
      source.agentId ≠ DEFAULT_AGENT_ID := by
  have hslim := getSlimHeader_of_some hheader
  have hsource : msg.getSource = Agent.ofProto (ProtoAgent.ofAgent source) :=
    getSource_of_some hheader rfl
  rw [← returns_ofProto_ofAgent_iff, ← hsource]
  constructor
  · intro hs
    exact hs.source
  · intro hfound
    refine ⟨?_, hfound, hname, ?_, ?_, ?_, ?_, ?_⟩
    · exact validate_ok_iff.2 ⟨_, _, _, hheader, rfl, rfl, hsession⟩
    · simp only [getRecvFrom, hslim, bind_ok]
      rfl
    · simp only [getForwardTo, hslim, bind_ok]
      rfl
    · simp only [tryGetIncomingConn, hslim, bind_ok]
      rfl
    · simp only [getFanout, hslim, bind_ok]
      rfl
    · simp only [getError, hslim, bind_ok]
      rfl

theorem newUnsubscribe_readsBack_iff (source : Agent) (agentType : AgentType)
    (agentId : Option UInt64) (flags : Option SlimHeaderFlags) :
    (newUnsubscribe source agentType agentId flags).ReadsBack source agentType agentId
        (flags.getD SlimHeaderFlags.default) ↔ source.agentId ≠ DEFAULT_AGENT_ID := by
  apply readsBack_iff rfl
  · intro publish htype
    cases htype
  · exact ⟨_, rfl, rfl⟩

theorem newPublish_readsBack_iff (source : Agent) (agentType : AgentType)
    (agentId : Option UInt64) (flags : Option SlimHeaderFlags) (contentType : String)
    (blob : List UInt8) :
    (newPublish source agentType agentId flags contentType blob).ReadsBack source agentType agentId
        (flags.getD SlimHeaderFlags.default) ↔ source.agentId ≠ DEFAULT_AGENT_ID := by
  apply readsBack_iff rfl
  · intro publish htype
    cases htype
    simp
  · exact ⟨_, rfl, rfl⟩

theorem newSubscribe_readsBack_iff (source : Agent) (organization nameSpace name : String)
    (agentId : Option UInt64) (flags : Option SlimHeaderFlags) :
    ∃ msg, newSubscribe source (AgentType.fromStrings organization nameSpace name) agentId flags =
        .ok msg ∧
      (msg.ReadsBack source (AgentType.fromStrings organization nameSpace name) agentId
        (flags.getD SlimHeaderFlags.default) ↔ source.agentId ≠ DEFAULT_AGENT_ID) := by
  refine ⟨_, rfl, ?_⟩
  apply readsBack_iff rfl
  · intro publish htype
    cases htype
  · exact ⟨_, rfl, rfl⟩

/-- For every source, name, id and flags, the constructors build a message from which the
    accessors read back what it was built from, exactly if the id of the source is not the
    default one. -/
theorem constructed_read_back_iff (source : Agent) (organization nameSpace name : String)
    (agentId : Option UInt64) (flags : Option SlimHeaderFlags) :
    let agentType := AgentType.fromStrings organization nameSpace name
    let given := flags.getD SlimHeaderFlags.default
    (∃ msg, newSubscribe source agentType agentId flags = .ok msg ∧
      (msg.ReadsBack source agentType agentId given ↔ source.agentId ≠ DEFAULT_AGENT_ID)) ∧
    ((newUnsubscribe source agentType agentId flags).ReadsBack source agentType agentId given ↔
      source.agentId ≠ DEFAULT_AGENT_ID) ∧
    ∀ contentType blob,
      (newPublish source agentType agentId flags contentType blob).ReadsBack source agentType
        agentId given ↔ source.agentId ≠ DEFAULT_AGENT_ID := by
  intro agentType given
  refine ⟨?_, ?_, ?_⟩
  · exact newSubscribe_readsBack_iff source organization nameSpace name agentId flags
  · exact newUnsubscribe_readsBack_iff source agentType agentId flags
  · intro contentType blob
    exact newPublish_readsBack_iff source agentType agentId flags contentType blob

end Constructed

/-- A publication of the agent whose id is the default one, and its source cannot be read. -/
theorem default_id_not_read_back :
    let source : Agent := ⟨⟨1, 1, 1, none⟩, DEFAULT_AGENT_ID⟩
    let agentType := @AgentType.fromStrings sampleHash "org" "ns" "type"
    let msg := newPublish source agentType none none "text" [1]
    msg.validate = .ok () ∧ msg.getSource = .error .agentIdNotFound ∧
      ¬ @ReadsBack sampleHash msg source agentType none SlimHeaderFlags.default := by
  refine ⟨rfl, rfl, fun hs => ?_⟩
  obtain ⟨found, hfound, -⟩ := @ReadsBack.source sampleHash _ _ _ _ _ hs
  cases hfound

end ProtoMessage

end Slim
