import Mathlib.Data.List.Induction
import Slim.Runs
import Slim.SlimctlRoute

/-!
# Configuration commands and their acknowledgement: `controller/src/service.rs`

The handler of a command creates the connections, hands the subscriptions to the data path,
and acknowledges the command.  The loop over the connections may return early, and then there
is no acknowledgement at all.  The loops over the subscriptions log what goes wrong and go on,
and so does the first one for an endpoint that is no URI.  The acknowledgement looks at none
of this.

The network and the data path may answer differently at every turn of a loop.
-/

namespace Slim

open HashKey Machine Runs

/-! ## Messages of the control channel -/

structure Ack where
  originalMessageId : String
  success : Bool
  messages : List String
deriving DecidableEq, Repr

/-- `ConnectionType` of the control messages. -/
inductive ListedType where
  | Local
  | Remote
deriving DecidableEq, Repr

structure ConnectionEntry where
  id : Nat
  connectionType : ListedType
  ip : String
  port : Nat
deriving DecidableEq, Repr

structure SubscriptionEntry where
  organization : String
  nameSpace : String
  agentType : String
  agentId : Option UInt64
  localConnections : List ConnectionEntry
  remoteConnections : List ConnectionEntry
deriving DecidableEq, Repr

inductive ControlPayload where
  | configCommand (command : ConfigurationCommand)
  | ack (ack : Ack)
  | subscriptionListRequest
  | subscriptionListResponse (entries : List SubscriptionEntry)
  | connectionListRequest
  | connectionListResponse (entries : List ConnectionEntry)
deriving DecidableEq, Repr

structure ControlMessage where
  messageId : String
  payload : Option ControlPayload
deriving DecidableEq, Repr

def ControlMessage.ack? (message : ControlMessage) : Option Ack :=
  match message.payload with
  | some (.ack ack) => some ack
  | _ => none

/-! ## The handler -/

/-- What the controller meets while it handles a command: the network at the turn of each
    connection, the error of the data path at the turn of each subscription, and the id drawn
    for the reply. -/
structure CommandEnvironment where
  network : Nat → Network
  send : Nat → Option String
  uuid : String

/-- The controller, and whether it has its connection to the data path already. -/
structure Controller where
  node : Node
  txSlim : Bool

/-- What has become of a subscription of a command. -/
inductive SubscriptionOutcome where
  | unknown -- "connection … not found"
  | failed (text : String)
  | handed (msg : ProtoMessage)

def SubscriptionOutcome.isHanded : SubscriptionOutcome → Bool
  | handed _ => true
  | _ => false

/-- Why there is no acknowledgement. -/
inductive CommandFailure where
  | error (error : ControllerError)
  | panic (panic : AccessPanic)

/-- What a command leaves, and what it puts on the reply channel. -/
structure CommandResult where
  controller : Controller
  outcomes : List SubscriptionOutcome
  replies : List ControlMessage
  result : Except CommandFailure Unit

namespace Controller

/-- The connection to the data path is opened when it is used first. -/
def getOrInit (c : Controller) : Controller :=
  if c.txSlim then c
  else
    match c.node.establish .localApp with
    | some (_, node) => ⟨node, true⟩
    | none => c

def sendControlMessage (c : Controller) (msg : ProtoMessage) (error : Option String) :
    SubscriptionOutcome × Controller :=
  match error with
  | none => (.handed msg, c.getOrInit)
  | some text => (.failed text, c.getOrInit)

/-- A loop over subscriptions, with the message that it makes of each. -/
def handOver (env : CommandEnvironment)
    (message : Node → ControlSubscription → Option (Except AccessPanic ProtoMessage)) :
    Nat → List ControlSubscription → Controller →
      Except AccessPanic (List SubscriptionOutcome × Controller)
  | _, [], c => return ([], c)
  | turn, subscription :: rest, c =>
      match message c.node subscription with
      | none => do
          let (outcomes, left) ← handOver env message (turn + 1) rest c
          return (.unknown :: outcomes, left)
      | some msg => do
          let msg ← msg
          let (outcome, c) := c.sendControlMessage msg (env.send turn)
          let (outcomes, left) ← handOver env message (turn + 1) rest c
          return (outcome :: outcomes, left)

variable [NameHash]

def setSubscriptions (env : CommandEnvironment) :
    Nat → List ControlSubscription → Controller →
      Except AccessPanic (List SubscriptionOutcome × Controller) :=
  handOver env Node.subscribeMessage

def deleteSubscriptions (env : CommandEnvironment) :
    Nat → List ControlSubscription → Controller →
      Except AccessPanic (List SubscriptionOutcome × Controller) :=
  handOver env fun node subscription => (node.unsubscribeMessage subscription).map .ok

def updateSubscriptions (env : CommandEnvironment) (command : ConfigurationCommand)
    (c : Controller) : Except AccessPanic (List SubscriptionOutcome × Controller) := do
  let (set, c) ← setSubscriptions env 0 command.subscriptionsToSet c
  let (deleted, c) ← deleteSubscriptions env command.subscriptionsToSet.length
    command.subscriptionsToDelete c
  return (set ++ deleted, c)

/-- `handle_new_control_message` for a `ConfigCommand`, on a reply channel that is open. -/
def handleConfigCommand (env : CommandEnvironment) (c : Controller) (messageId : String)
    (command : ConfigurationCommand) : CommandResult :=
  match c.node.createConnections env.network 0 command.connectionsToCreate with
  | (node, .error e) => ⟨{ c with node := node }, [], [], .error (.error e)⟩
  | (node, .ok ()) =>
      match updateSubscriptions env command { c with node := node } with
      | .error panic => ⟨{ c with node := node }, [], [], .error (.panic panic)⟩
      | .ok (outcomes, c) =>
          ⟨c, outcomes, [⟨env.uuid, some (.ack ⟨messageId, true, []⟩)⟩], .ok ()⟩

end Controller

/-! ## Connections -/

namespace Node

/-- There is a connection that was opened to the endpoint of the key. -/
def Connected (node : Node) (key : String) : Prop :=
  ∃ index, node.PointsTo .controller key index

theorem originAt_establish {node left : Node} {origin : ConnectionOrigin} {index : Nat}
    (hleft : node.establish origin = some (index, left)) (other : Nat) :
    left.originAt other = if other = index then some origin else node.originAt other := by
  rw [establish_eq, Option.some.injEq, Prod.mk.injEq] at hleft
  obtain ⟨rfl, rfl⟩ := hleft
  have hget := node.forwarder.connectionTable.get_insert ⟨origin, false⟩
  simp only [originAt, Forwarder.getConnection, hget]
  split <;> rfl

theorem connections_establish {node left : Node} {origin : ConnectionOrigin} {index : Nat}
    (hleft : node.establish origin = some (index, left)) : left.connections = node.connections :=
  congrFun (establish_spec hleft).2.2.2 .controller

/-- A new connection adds its endpoint to those that are connected. -/
theorem connected_establish {node left : Node} {origin : ConnectionOrigin} {index : Nat}
    (hleft : node.establish origin = some (index, left)) (key : String) :
    left.Connected key ↔ node.Connected key ∨
      origin = .client (RegistryKind.controller.endpoint key) := by
  have hkeeps := (establish_spec hleft).1
  constructor
  · rintro ⟨other, hother⟩
    rw [PointsTo, originAt_establish hleft] at hother
    split at hother
    next => exact .inr (Option.some.inj hother)
    next => exact .inl ⟨other, hother⟩
  · rintro (⟨other, hother⟩ | rfl)
    · exact ⟨other, hkeeps other _ hother⟩
    · exact ⟨index, (establish_spec hleft).2.1⟩

/-- What the turn of one connection can come to. -/
inductive Turn (network : Network) (node : Node) (conn : ControlConnection) :
    Node × Except ControllerError Unit → Prop
  | unresolved (hresolves : network.resolves conn.clientEndpoint = false) :
      Turn network node conn (node, .error .connectionError)
  | refused (hresolves : network.resolves conn.clientEndpoint = true)
      (hnew : node.connections.contains conn.clientEndpoint = false)
      (hconnect : network.connect conn.clientEndpoint = .refused) :
      Turn network node conn (node, .error .connectionError)
  | kept (hresolves : network.resolves conn.clientEndpoint = true)
      (hkept : node.connections.contains conn.clientEndpoint = true ∨
        network.connect conn.clientEndpoint = .invalidConfig) :
      Turn network node conn (node, .ok ())
  | opened {index : Nat} {left : Node} (hresolves : network.resolves conn.clientEndpoint = true)
      (hnew : node.connections.contains conn.clientEndpoint = false)
      (hconnect : network.connect conn.clientEndpoint = .connected)
      (hleft : node.establish (.client (RegistryKind.controller.endpoint conn.clientEndpoint)) =
        some (index, left)) :
      Turn network node conn (left.insertEntry conn.clientEndpoint index .controller, .ok ())

theorem turn_createConnection (network : Network) (node : Node) (conn : ControlConnection) :
    Turn network node conn (node.createConnection network conn) := by
  simp only [createConnection]
  split
  next hresolves =>
    split
    next hknown => exact .kept hresolves (.inl hknown)
    next hnew =>
      have hnew := Bool.eq_false_iff.2 hnew
      split
      next hconnect => exact .kept hresolves (.inr hconnect)
      next hconnect => exact .refused hresolves hnew hconnect
      next hconnect =>
        split
        next index left hleft => exact .opened hresolves hnew hconnect hleft
        next hnone =>
          rw [establish_eq] at hnone
          cases hnone
  next hresolves => exact .unresolved (Bool.eq_false_iff.2 hresolves)

section Loop

variable (env : CommandEnvironment) (node : Node)

theorem createConnections_concat (conns : List ControlConnection) (conn : ControlConnection) :
    ∀ (node : Node) (turn : Nat), node.createConnections env.network turn (conns ++ [conn]) =
      match node.createConnections env.network turn conns with
      | (left, .ok ()) => left.createConnection (env.network (turn + conns.length)) conn
      | (left, .error e) => (left, .error e) := by
  induction conns with
  | nil =>
      intro node turn
      simp only [List.nil_append, createConnections, List.length_nil, Nat.add_zero]
      split <;> simp_all
  | cons first rest ih =>
      intro node turn
      simp only [List.cons_append, createConnections, List.length_cons]
      rcases node.createConnection (env.network turn) first with ⟨left, e | ⟨⟩⟩
      · rfl
      · simp only [ih, Nat.add_assoc, Nat.add_comm 1]

/-- The loop has gone through these connections. -/
def After (conns : List ControlConnection) (left : Node) : Prop :=
  node.createConnections env.network 0 conns = (left, .ok ())

/-- The loop tries to open a connection to the endpoint of `conn`, and this is what it comes to. -/
def Tries (conns : List ControlConnection) (outcome : ConnectOutcome) (key : String) : Prop :=
  ∃ done conn, done ++ [conn] <+: conns ∧ ∃ left, After env node done left ∧
    conn.clientEndpoint = key ∧ left.connections.contains key = false ∧
    (env.network done.length).connect key = outcome

theorem tries_concat (conns : List ControlConnection) (conn : ControlConnection)
    (outcome : ConnectOutcome) (key : String) :
    Tries env node (conns ++ [conn]) outcome key ↔ Tries env node conns outcome key ∨
      ∃ left, After env node conns left ∧ conn.clientEndpoint = key ∧
        left.connections.contains key = false ∧
        (env.network conns.length).connect key = outcome :=
  exists_prefix_concat

/-- Every endpoint resolves at its turn. -/
def Resolves (conns : List ControlConnection) : Prop :=
  ∀ done conn, done ++ [conn] <+: conns →
    (env.network done.length).resolves conn.clientEndpoint = true

/-- What the loop has done when it comes to its end. -/
structure Completed (conns : List ControlConnection) (left : Node) : Prop where
  resolves : Resolves env conns
  not_refused : ∀ key, ¬ Tries env node conns .refused key
  connected_iff : ∀ key, left.Connected key ↔
    node.Connected key ∨ Tries env node conns .connected key
  contains_iff : ∀ key, left.connections.contains key = true ↔
    node.connections.contains key = true ∨ Tries env node conns .connected key

variable {env node} {conns : List ControlConnection} {conn : ControlConnection} {left : Node}

/-- The last turn starts from the node that the others have left. -/
theorem tries_last (hafter : After env node conns left) (outcome : ConnectOutcome) (key : String) :
    Tries env node (conns ++ [conn]) outcome key ↔ Tries env node conns outcome key ∨
      conn.clientEndpoint = key ∧ left.connections.contains key = false ∧
        (env.network conns.length).connect key = outcome := by
  rw [tries_concat]
  constructor
  · rintro (htries | ⟨found, hfound, hlast⟩)
    · exact .inl htries
    · obtain rfl : found = left := congrArg Prod.fst (hfound.symm.trans hafter)
      exact .inr hlast
  · rintro (htries | hlast)
    · exact .inl htries
    · exact .inr ⟨left, hafter, hlast⟩

theorem resolves_concat : Resolves env (conns ++ [conn]) ↔ Resolves env conns ∧
    (env.network conns.length).resolves conn.clientEndpoint = true :=
  forall_prefix_concat

theorem createConnections_last (hafter : After env node conns left) :
    node.createConnections env.network 0 (conns ++ [conn]) =
      left.createConnection (env.network conns.length) conn := by
  rw [createConnections_concat, show node.createConnections env.network 0 conns = _ from hafter,
    Nat.zero_add]

/-- A turn that opens nothing. -/
theorem Completed.kept (hs : Completed env node conns left) (hafter : After env node conns left)
    (hresolves : (env.network conns.length).resolves conn.clientEndpoint = true)
    (hkept : left.connections.contains conn.clientEndpoint = true ∨
      (env.network conns.length).connect conn.clientEndpoint = .invalidConfig) :
    Completed env node (conns ++ [conn]) left := by
  have hsame : ∀ outcome key, outcome ≠ .invalidConfig →
      (Tries env node (conns ++ [conn]) outcome key ↔ Tries env node conns outcome key) := by
    intro outcome key houtcome
    rw [tries_last hafter, or_iff_left]
    rintro ⟨rfl, hnew, hconnect⟩
    rcases hkept with hknown | hinvalid
    · simp [hnew] at hknown
    · exact houtcome (hconnect.symm.trans hinvalid)
  refine ⟨resolves_concat.2 ⟨hs.resolves, hresolves⟩, ?_, ?_, ?_⟩
  · intro key
    rw [hsame _ _ (by decide)]
    exact hs.not_refused key
  · intro key
    rw [hsame _ _ (by decide)]
    exact hs.connected_iff key
  · intro key
    rw [hsame _ _ (by decide)]
    exact hs.contains_iff key

/-- A turn that opens a connection. -/
theorem Completed.opened (hs : Completed env node conns left) (hafter : After env node conns left)
    (hresolves : (env.network conns.length).resolves conn.clientEndpoint = true)
    (hnew : left.connections.contains conn.clientEndpoint = false)
    (hconnect : (env.network conns.length).connect conn.clientEndpoint = .connected)
    {index : Nat} {next : Node}
    (hnext : left.establish (.client (RegistryKind.controller.endpoint conn.clientEndpoint)) =
      some (index, next)) :
    Completed env node (conns ++ [conn])
      (next.insertEntry conn.clientEndpoint index .controller) := by
  have hopens : ∀ key, Tries env node (conns ++ [conn]) .connected key ↔
      Tries env node conns .connected key ∨ conn.clientEndpoint = key := by
    intro key
    rw [tries_last hafter]
    constructor
    · rintro (htries | ⟨hkey, -, -⟩)
      · exact .inl htries
      · exact .inr hkey
    · rintro (htries | rfl)
      · exact .inl htries
      · exact .inr ⟨rfl, hnew, hconnect⟩
  refine ⟨resolves_concat.2 ⟨hs.resolves, hresolves⟩, ?_, ?_, ?_⟩
  · intro key
    rw [tries_last hafter]
    rintro (htries | ⟨rfl, -, hrefused⟩)
    · exact hs.not_refused key htries
    · simp [hconnect] at hrefused
  · intro key
    have hentry : (next.insertEntry conn.clientEndpoint index .controller).Connected key ↔
        next.Connected key := Iff.rfl
    rw [hentry, connected_establish hnext, hs.connected_iff, hopens, or_assoc]
    simp [RegistryKind.endpoint, String.append_right_inj]
  · intro key
    rw [hopens, ← or_assoc, ← hs.contains_iff, ← connections_establish hnext]
    simp only [insertEntry, HashMap.contains_insert, Bool.or_eq_true, decide_eq_true_eq,
      key_string]
    rw [or_comm, eq_comm (a := key)]

/-- The loop comes to its end, or an endpoint does not resolve, or a connection is refused. -/
theorem createConnections_cases (env : CommandEnvironment) (node : Node)
    (conns : List ControlConnection) :
    (∃ left, After env node conns left ∧ Completed env node conns left) ∨
      (∃ left, node.createConnections env.network 0 conns = (left, .error .connectionError)) ∧
        ¬ (Resolves env conns ∧ ∀ key, ¬ Tries env node conns .refused key) := by
  induction conns using List.reverseRecOn with
  | nil =>
      refine .inl ⟨node, rfl, ?_, ?_, ?_, ?_⟩
      · intro done conn hprefix
        simp at hprefix
      all_goals simp [Tries]
  | append_singleton conns conn ih =>
      rcases ih with ⟨left, hafter, hs⟩ | ⟨⟨left, hfailed⟩, hnot⟩
      · have hlast : node.createConnections env.network 0 (conns ++ [conn]) =
            left.createConnection (env.network conns.length) conn :=
          createConnections_last hafter
        have hturn := turn_createConnection (env.network conns.length) left conn
        generalize left.createConnection (env.network conns.length) conn = result at hlast hturn
        cases hturn with
        | unresolved hresolves =>
            refine .inr ⟨⟨left, hlast⟩, ?_⟩
            rw [resolves_concat, hresolves]
            simp
        | refused hresolves hnew hconnect =>
            refine .inr ⟨⟨left, hlast⟩, ?_⟩
            rintro ⟨-, hnone⟩
            exact hnone _ ((tries_last hafter _ _).2 (.inr ⟨rfl, hnew, hconnect⟩))
        | kept hresolves hkept => exact .inl ⟨left, hlast, hs.kept hafter hresolves hkept⟩
        | opened hresolves hnew hconnect hleft =>
            exact .inl ⟨_, hlast, hs.opened hafter hresolves hnew hconnect hleft⟩
      · refine .inr ⟨⟨left, by rw [createConnections_concat, hfailed]⟩, ?_⟩
        rintro ⟨hresolves, hnone⟩
        refine hnot ⟨(resolves_concat.1 hresolves).1, ?_⟩
        intro key htries
        exact hnone key ((tries_concat _ _ _ _ _ _).2 (.inl htries))

end Loop

end Node

/-! ## Subscriptions -/

namespace Controller

variable {env : CommandEnvironment}

theorem connections_getOrInit (c : Controller) :
    c.getOrInit.node.connections = c.node.connections := by
  unfold getOrInit
  split
  next => rfl
  next =>
    split
    next index node hnode => exact Node.connections_establish hnode
    next => rfl

theorem connected_getOrInit (c : Controller) (key : String) :
    c.getOrInit.node.Connected key ↔ c.node.Connected key := by
  unfold getOrInit
  split
  next => rfl
  next =>
    split
    next index node hnode => simp [Node.connected_establish hnode]
    next => rfl

/-- The map and the connections to other nodes are as they were. -/
structure SameRoutes (c left : Controller) : Prop where
  connections_eq : left.node.connections = c.node.connections
  connected_iff : ∀ key, left.node.Connected key ↔ c.node.Connected key

theorem SameRoutes.rfl {c : Controller} : SameRoutes c c := ⟨.refl _, fun _ => .rfl⟩

theorem SameRoutes.trans {c left last : Controller} (hfirst : SameRoutes c left)
    (hsecond : SameRoutes left last) : SameRoutes c last where
  connections_eq := hsecond.connections_eq.trans hfirst.connections_eq
  connected_iff key := (hsecond.connected_iff key).trans (hfirst.connected_iff key)

theorem sameRoutes_getOrInit (c : Controller) : SameRoutes c c.getOrInit :=
  ⟨c.connections_getOrInit, c.connected_getOrInit⟩

/-- Each of the subscriptions was handed over. -/
def AllHanded (subscriptions : List ControlSubscription) (outcomes : List SubscriptionOutcome) :
    Prop :=
  outcomes.length = subscriptions.length ∧ ∀ outcome ∈ outcomes, outcome.isHanded = true

/-- The connection of each subscription is in the map, and the data path takes its message. -/
def Deliverable (env : CommandEnvironment) (connections : HashMap String Nat) (turn : Nat)
    (subscriptions : List ControlSubscription) : Prop :=
  (∀ subscription ∈ subscriptions, connections.contains subscription.connectionId = true) ∧
    ∀ i < subscriptions.length, env.send (turn + i) = none

theorem deliverable_cons {connections : HashMap String Nat} {turn : Nat}
    {subscription : ControlSubscription} {rest : List ControlSubscription} :
    Deliverable env connections turn (subscription :: rest) ↔
      (connections.contains subscription.connectionId = true ∧ env.send turn = none) ∧
        Deliverable env connections (turn + 1) rest := by
  simp only [Deliverable, List.forall_mem_cons, List.length_cons, Nat.forall_lt_succ_left,
    Nat.add_zero, Nat.add_assoc, Nat.add_comm 1]
  tauto

theorem deliverable_append {connections : HashMap String Nat} {turn : Nat}
    {first second : List ControlSubscription} :
    Deliverable env connections turn (first ++ second) ↔
      Deliverable env connections turn first ∧
        Deliverable env connections (turn + first.length) second := by
  induction first generalizing turn with
  | nil => simp [Deliverable]
  | cons subscription rest ih =>
      rw [List.cons_append, deliverable_cons, ih, deliverable_cons, and_assoc, and_assoc, and_assoc,
        List.length_cons, Nat.add_assoc, Nat.add_comm 1]

/-- A message is made exactly for the subscriptions whose connection is in the map. -/
def MakesMessages
    (message : Node → ControlSubscription → Option (Except AccessPanic ProtoMessage)) : Prop :=
  ∀ (node : Node) subscription, if node.connections.contains subscription.connectionId = true
    then ∃ msg, message node subscription = some (.ok msg) else message node subscription = none

theorem handOver_spec (env : CommandEnvironment)
    {message : Node → ControlSubscription → Option (Except AccessPanic ProtoMessage)}
    (hmakes : MakesMessages message) (subscriptions : List ControlSubscription) :
    ∀ (turn : Nat) (c : Controller), ∃ outcomes left,
      handOver env message turn subscriptions c = .ok (outcomes, left) ∧ SameRoutes c left ∧
        outcomes.length = subscriptions.length ∧
        ((∀ outcome ∈ outcomes, outcome.isHanded = true) ↔
          Deliverable env c.node.connections turn subscriptions) := by
  induction subscriptions with
  | nil =>
      intro turn c
      refine ⟨[], c, rfl, .rfl, rfl, ?_⟩
      simp [Deliverable]
  | cons subscription rest ih =>
      intro turn c
      have hmade := hmakes c.node subscription
      split at hmade
      next hknown =>
        obtain ⟨msg, hmsg⟩ := hmade
        obtain ⟨outcomes, left, hrest, hsame, hlength, hhanded⟩ := ih (turn + 1) c.getOrInit
        rw [c.connections_getOrInit] at hhanded
        refine ⟨(c.sendControlMessage msg (env.send turn)).1 :: outcomes, left, ?_,
          c.sameRoutes_getOrInit.trans hsame, congrArg (· + 1) hlength, ?_⟩
        · simp only [handOver, hmsg, bind_ok]
          rcases hsend : env.send turn with _ | text <;>
            simp only [sendControlMessage, hrest, bind_ok] <;> rfl
        · rw [deliverable_cons, List.forall_mem_cons, hhanded]
          rcases env.send turn with _ | text <;>
            simp [sendControlMessage, SubscriptionOutcome.isHanded, hknown]
      next hunknown =>
        obtain ⟨outcomes, left, hrest, hsame, hlength, -⟩ := ih (turn + 1) c
        refine ⟨.unknown :: outcomes, left, ?_, hsame, congrArg (· + 1) hlength, ?_⟩
        · simp only [handOver, hmade, hrest, bind_ok]
          rfl
        · rw [deliverable_cons, List.forall_mem_cons]
          simp [SubscriptionOutcome.isHanded, hunknown]

section Messages

variable [NameHash]

theorem makesMessages_subscribe : MakesMessages Node.subscribeMessage := by
  intro node subscription
  split
  next hknown =>
    obtain ⟨index, hindex⟩ := Option.isSome_iff_exists.1 hknown
    obtain ⟨msg, hmsg, -⟩ := Node.subscribeMessage_of_get hindex
    exact ⟨msg, hmsg⟩
  next hunknown =>
    have hnone := Option.not_isSome_iff_eq_none.1 hunknown
    simp [Node.subscribeMessage, hnone]

theorem makesMessages_unsubscribe : MakesMessages fun node subscription =>
    (node.unsubscribeMessage subscription).map .ok := by
  intro node subscription
  split
  next hknown =>
    obtain ⟨index, hindex⟩ := Option.isSome_iff_exists.1 hknown
    obtain ⟨msg, hmsg, -⟩ := Node.unsubscribeMessage_of_get hindex
    exact ⟨msg, by simp [hmsg]⟩
  next hunknown =>
    have hnone := Option.not_isSome_iff_eq_none.1 hunknown
    simp [Node.unsubscribeMessage, hnone]

theorem updateSubscriptions_spec (env : CommandEnvironment) (command : ConfigurationCommand)
    (c : Controller) : ∃ outcomes left,
      updateSubscriptions env command c = .ok (outcomes, left) ∧ SameRoutes c left ∧
        (AllHanded (command.subscriptionsToSet ++ command.subscriptionsToDelete) outcomes ↔
          Deliverable env c.node.connections 0
            (command.subscriptionsToSet ++ command.subscriptionsToDelete)) := by
  obtain ⟨set, middle, hset, hsame, hsetLength, hsetHanded⟩ :=
    handOver_spec env makesMessages_subscribe command.subscriptionsToSet 0 c
  obtain ⟨deleted, left, hdeleted, hlater, hdeletedLength, hdeletedHanded⟩ :=
    handOver_spec env makesMessages_unsubscribe command.subscriptionsToDelete
      command.subscriptionsToSet.length middle
  refine ⟨set ++ deleted, left, ?_, hsame.trans hlater, ?_⟩
  · simp only [updateSubscriptions, setSubscriptions, deleteSubscriptions, hset, hdeleted, bind_ok]
    rfl
  · rw [deliverable_append, Nat.zero_add, ← hsetHanded, ← hsame.connections_eq, ← hdeletedHanded,
      AllHanded, List.forall_mem_append]
    simp [hsetLength, hdeletedLength]

end Messages

/-! ## The acknowledgement -/

/-- Exactly one acknowledgement of the command is put on the channel, and it reports success
    exactly if every connection is there and every subscription was handed over. -/
def TellsTruth (messageId : String) (command : ConfigurationCommand) (done : CommandResult) :
    Prop :=
  ∃ ack, done.replies.filterMap ControlMessage.ack? = [ack] ∧ ack.originalMessageId = messageId ∧
    (ack.success = true ↔
      (∀ conn ∈ command.connectionsToCreate, done.controller.node.Connected conn.clientEndpoint) ∧
        AllHanded (command.subscriptionsToSet ++ command.subscriptionsToDelete) done.outcomes)

/-- Nothing goes wrong with a command: every endpoint resolves, no connection is refused, each
    endpoint is connected already or connected to, each subscription is over a connection that
    the map has or gets, and the data path takes every message. -/
structure Undisturbed (env : CommandEnvironment) (c : Controller) (command : ConfigurationCommand) :
    Prop where
  resolves : Node.Resolves env command.connectionsToCreate
  not_refused : ∀ key, ¬ Node.Tries env c.node command.connectionsToCreate .refused key
  connected : ∀ conn ∈ command.connectionsToCreate, c.node.Connected conn.clientEndpoint ∨
    Node.Tries env c.node command.connectionsToCreate .connected conn.clientEndpoint
  known : ∀ subscription ∈ command.subscriptionsToSet ++ command.subscriptionsToDelete,
    c.node.connections.contains subscription.connectionId = true ∨
      Node.Tries env c.node command.connectionsToCreate .connected subscription.connectionId
  sent : ∀ i < (command.subscriptionsToSet ++ command.subscriptionsToDelete).length,
    env.send i = none

/-- Whatever a command asks for, whatever state the controller is in and whatever the network and
    the data path answer, the acknowledgement tells the truth exactly if nothing goes wrong. -/
theorem ack_tells_truth_iff [NameHash] (env : CommandEnvironment) (c : Controller)
    (messageId : String) (command : ConfigurationCommand) :
    TellsTruth messageId command (handleConfigCommand env c messageId command) ↔
      Undisturbed env c command := by
  rcases Node.createConnections_cases env c.node command.connectionsToCreate with
    ⟨node, hafter, hs⟩ | ⟨⟨node, hfailed⟩, hnot⟩
  · obtain ⟨outcomes, left, hupdated, hsame, hhanded⟩ :=
      updateSubscriptions_spec env command { c with node := node }
    simp only [Deliverable, Nat.zero_add] at hhanded
    have hdone : handleConfigCommand env c messageId command =
        ⟨left, outcomes, [⟨env.uuid, some (.ack ⟨messageId, true, []⟩)⟩], .ok ()⟩ := by
      simp only [handleConfigCommand, show c.node.createConnections env.network 0 _ = _ from hafter,
        hupdated]
    rw [hdone]
    constructor
    · rintro ⟨ack, hack, -, htrue⟩
      obtain rfl : _ = ack := List.singleton_inj.1 hack
      obtain ⟨hconnected, hall⟩ := htrue.1 rfl
      obtain ⟨hknown, hsent⟩ := hhanded.1 hall
      refine ⟨hs.resolves, hs.not_refused, ?_, ?_, hsent⟩
      · intro conn hconn
        rw [← hs.connected_iff, ← hsame.connected_iff]
        exact hconnected conn hconn
      · intro subscription hsubscription
        rw [← hs.contains_iff]
        exact hknown subscription hsubscription
    · intro hundisturbed
      refine ⟨_, rfl, rfl, iff_of_true rfl ⟨?_, ?_⟩⟩
      · intro conn hconn
        rw [hsame.connected_iff, hs.connected_iff]
        exact hundisturbed.connected conn hconn
      · rw [hhanded]
        refine ⟨?_, hundisturbed.sent⟩
        intro subscription hsubscription
        rw [hs.contains_iff]
        exact hundisturbed.known subscription hsubscription
  · -- the handler returns early
    have hnone : (handleConfigCommand env c messageId command).replies = [] := by
      simp only [handleConfigCommand, hfailed]
    refine iff_of_false ?_ ?_
    · rintro ⟨ack, hack, -⟩
      rw [hnone] at hack
      cases hack
    · intro hundisturbed
      exact hnot ⟨hundisturbed.resolves, hundisturbed.not_refused⟩

/-- A data path that takes everything, and a network that does or does not know the endpoints. -/
def sampleEnvironment (resolves : Bool) : CommandEnvironment :=
  ⟨fun _ => ⟨fun _ => resolves, fun _ => .connected⟩, fun _ => none, "reply"⟩

def sampleRoute : ControlSubscription := ⟨"org", "ns", "agent", some 1, "127.0.0.1:46357"⟩

/-- A route over a connection that is not there is acknowledged as a success, and a connection
    whose endpoint does not resolve is not acknowledged. -/
theorem failures_not_acknowledged :
    let unknown := @handleConfigCommand sampleHash (sampleEnvironment true) ⟨Node.new, false⟩
      "command" ⟨[], [sampleRoute], []⟩
    let unresolved := @handleConfigCommand sampleHash (sampleEnvironment false) ⟨Node.new, false⟩
      "command" ⟨[⟨"connection", "127.0.0.1", 46357⟩], [], []⟩
    unknown.outcomes.map SubscriptionOutcome.isHanded = [false] ∧
      unknown.replies = [⟨"reply", some (.ack ⟨"command", true, []⟩)⟩] ∧
      ¬ TellsTruth "command" ⟨[], [sampleRoute], []⟩ unknown ∧
      unresolved.replies = [] ∧
      ¬ TellsTruth "command" ⟨[⟨"connection", "127.0.0.1", 46357⟩], [], []⟩ unresolved := by
  refine ⟨rfl, rfl, ?_, rfl, ?_⟩
  · rintro ⟨ack, hack, -, htrue⟩
    obtain rfl : _ = ack := List.singleton_inj.1 hack
    have hhanded := (htrue.1 rfl).2.2 .unknown List.mem_cons_self
    exact absurd hhanded (by decide)
  · rintro ⟨ack, hack, -⟩
    cases hack

end Controller

end Slim
