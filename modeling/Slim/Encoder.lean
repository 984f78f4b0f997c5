import Slim.HashMap

/-!
# Names: `messages/encoder.rs`

An agent type is three hashes, with the strings they were computed from kept for
logs.  `PartialEq` and `Hash` of `AgentType` read the hashes only, so two types
with equal hashes are the same key of a map whatever their strings are.
-/

namespace Slim

def DEFAULT_AGENT_ID : UInt64 := 0xFFFFFFFFFFFFFFFF -- u64::MAX

structure AgentType where
  organization : UInt64
  nameSpace : UInt64
  agentType : UInt64
  strings : Option (String × String × String) := none
deriving DecidableEq, Repr

/-- What `Eq` and `Hash` read of an agent type. -/
abbrev TypeKey := UInt64 × UInt64 × UInt64

instance : HashKey AgentType TypeKey :=
  ⟨fun agentType => (agentType.organization, agentType.nameSpace, agentType.agentType)⟩

structure Agent where
  agentType : AgentType
  agentId : UInt64
deriving DecidableEq, Repr

/-- What `Eq` and `Hash` read of an agent. -/
abbrev AgentKey := TypeKey × UInt64

instance : HashKey Agent AgentKey := ⟨fun agent => (HashKey.key agent.agentType, agent.agentId)⟩

theorem key_agent (agent : Agent) :
    HashKey.key agent = (HashKey.key agent.agentType, agent.agentId) := rfl

/-! ## Names from strings -/

/-- `calculate_hash` at the types it is used with.  The hash of an agent type reads what
    its `Hash` reads; the hash function itself is that of a third-party crate. -/
class NameHash where
  ofString : String → UInt64
  ofTypeKey : TypeKey → UInt64

section NameHash

variable [NameHash]

def AgentType.fromStrings (organization nameSpace agentType : String) : AgentType where
  organization := NameHash.ofString organization
  nameSpace := NameHash.ofString nameSpace
  agentType := NameHash.ofString agentType
  strings := some (organization, nameSpace, agentType)

/-- The hashes are those of the strings, where there are strings.  The fields of an
    `AgentType` are private and only `from_strings` sets the strings, so every agent
    type of the program is so. -/
def AgentType.Encoded (agentType : AgentType) : Prop :=
  ∀ organization nameSpace name, agentType.strings = some (organization, nameSpace, name) →
    agentType = AgentType.fromStrings organization nameSpace name

theorem AgentType.encoded_fromStrings (organization nameSpace agentType : String) :
    (AgentType.fromStrings organization nameSpace agentType).Encoded := by
  rintro _ _ _ ⟨⟩
  rfl

end NameHash

/-- The hashes of the names that the examples use. -/
@[reducible] def sampleHash : NameHash where
  ofString
    | "org" => 0x873e580376ea963b
    | "ns" => 0xeef9769a4c6990d1
    | "type" => 0x1ef7735a1e3b0220
    | _ => 0
  ofTypeKey
    | (0x873e580376ea963b, 0xeef9769a4c6990d1, 0x1ef7735a1e3b0220) => 0x73436dc138121bc2
    | (0, 0, 0) => 0xbb3302e8a9608868
    | _ => 0

/-- The id of an agent, unless it is the one that stands for no id. -/
def Agent.agentIdOption (agent : Agent) : Option UInt64 :=
  if agent.agentId = DEFAULT_AGENT_ID then none else some agent.agentId

/-! ## Texts -/

/-- The format `{:x}` of an unsigned integer. -/
def lowerHex (word : UInt64) : String := String.ofList (Nat.toDigits 16 word.toNat)

/-- `Display for AgentType`. -/
def AgentType.display (agentType : AgentType) : String :=
  lowerHex agentType.organization ++ "/" ++ lowerHex agentType.nameSpace ++ "/" ++
    lowerHex agentType.agentType ++
    match agentType.strings with
    | none => ""
    | some strings => " (" ++ strings.1 ++ "/" ++ strings.2.1 ++ "/" ++ strings.2.2 ++ ")"

/-- `Display for Agent`. -/
def Agent.display (agent : Agent) : String :=
  lowerHex agent.agentType.organization ++ "/" ++ lowerHex agent.agentType.nameSpace ++ "/" ++
    lowerHex agent.agentType.agentType ++ "/" ++ lowerHex agent.agentId

/-- The format `{:?}` of an optional agent id. -/
def debugId : Option UInt64 → String
  | none => "None"
  | some id => "Some(" ++ toString id.toNat ++ ")"

end Slim
