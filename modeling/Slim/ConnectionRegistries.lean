import Slim.Forwarder
import Slim.Messages

/-!
# Endpoints and their connections: `service/src/lib.rs`, `controller/src/service.rs`

The service and the controller both keep a map from the endpoints they have connected to,
to the indices of the connections.  The entries are made when a connection is opened and are
never taken out.  The index of a connection that is dropped goes to the next connection that
is opened, whoever opens it.

A connect is an asynchronous function.  It looks into the map, opens the connection, and
then makes its entry; between these steps anything else may happen.
-/

namespace Slim

open HashKey Machine Runs

/-! ## The connections of a node -/

/-- Who a connection was opened to, or that it was not opened by this node. -/
inductive ConnectionOrigin where
  | client (endpoint : String)
  | inbound
  | localApp
deriving DecidableEq, Repr

/-- A connection of the table, and whether its token was cancelled. -/
structure OpenConnection where
  origin : ConnectionOrigin
  cancelled : Bool
deriving DecidableEq, Repr

inductive RegistryKind where
  | service
  | controller
deriving DecidableEq, Repr

/-- The endpoint that a connection is opened to for a key of the map. -/
def RegistryKind.endpoint : RegistryKind → String → String
  | service, key => key
  | controller, key => "http://" ++ key

/-- How far a connect has come. -/
inductive ConnectTask where
  | idle
  | dialing (kind : RegistryKind) (key : String)
  | opened (kind : RegistryKind) (key : String) (index : Nat)

/-- The connection table of a node, `Service.clients`, `ControllerService.connections`, and the
    connects that are under way. -/
structure Node where
  forwarder : Forwarder OpenConnection
  clients : HashMap String Nat
  connections : HashMap String Nat
  tasks : Nat → ConnectTask

namespace Node

def new : Node where
  forwarder := Forwarder.new
  clients := HashMap.empty
  connections := HashMap.empty
  tasks := fun _ => .idle

def registry (node : Node) : RegistryKind → HashMap String Nat
  | .service => node.clients
  | .controller => node.connections

def setTask (node : Node) (task : Nat) (phase : ConnectTask) : Node :=
  { node with tasks := Function.update node.tasks task phase }

/-- `get_connection_id`. -/
def getConnectionId (node : Node) (endpoint : String) : Option Nat := node.clients.get? endpoint

/-! ## Connects -/

/-- An endpoint that is in the map is not connected to again. -/
def connect (node : Node) (task : Nat) (kind : RegistryKind) (key : String) : Node :=
  match node.tasks task with
  | .idle =>
      if (node.registry kind).contains key then node else node.setTask task (.dialing kind key)
  | _ => node

/-- The connection cannot be opened. -/
def refuse (node : Node) (task : Nat) : Node :=
  match node.tasks task with
  | .dialing _ _ => node.setTask task .idle
  | _ => node

/-- A new connection is put into the table. -/
def establish (node : Node) (origin : ConnectionOrigin) : Option (Nat × Node) :=
  match node.forwarder.onConnectionEstablished ⟨origin, false⟩ none with
  | .ok (some index, forwarder) => some (index, { node with forwarder })
  | _ => none

/-- The connection is open and in the table. -/
def openConnection (node : Node) (task : Nat) : Node :=
  match node.tasks task with
  | .dialing kind key =>
      match node.establish (.client (kind.endpoint key)) with
      | some (index, left) => left.setTask task (.opened kind key index)
      | none => node
  | _ => node

def insertEntry (node : Node) (key : String) (index : Nat) : RegistryKind → Node
  | .service => { node with clients := node.clients.insert key index }
  | .controller => { node with connections := node.connections.insert key index }

/-- The connection is entered into the map. -/
def register (node : Node) (task : Nat) : Node :=
  match node.tasks task with
  | .opened kind key index => (node.insertEntry key index kind).setTask task .idle
  | _ => node

/-! ## The other changes of the table -/

/-- A connection from another node, or of a local application. -/
def accept (node : Node) (origin : ConnectionOrigin) : Node :=
  match node.establish origin with
  | some (_, left) => left
  | none => node

/-- A connection that was lost is opened again, to the same endpoint and at the same index.  A
    cancelled token need not be seen before the connection is open. -/
def reconnect (node : Node) (index : Nat) : Node :=
  match node.forwarder.getConnection index with
  | some ⟨.client endpoint, _⟩ =>
      { node with
        forwarder := node.forwarder.exec
          (.connectionEstablished ⟨.client endpoint, false⟩ (some index)) }
  | _ => node

/-- `disconnect` only cancels the token, if there is one; the task of the connection then drops
    the connection. -/
def disconnect (node : Node) (index : Nat) : Node :=
  match node.forwarder.getConnection index with
  | some ⟨.inbound, _⟩ => node
  | some _ =>
      { node with
        forwarder := { node.forwarder with
          connectionTable := node.forwarder.connectionTable.modify index fun connection =>
            { connection with cancelled := true } } }
  | none => node

/-- The end of the task of a connection that is not opened again: the peer has closed it, or
    it was disconnected, or the attempts to open it again have failed. -/
def drop (node : Node) (index : Nat) (order : IterOrder (Agent × Unit)) : Node :=
  match node.forwarder.getConnection index with
  | some connection =>
      { node with
        forwarder := node.forwarder.onConnectionDrop index
          (decide (connection.origin = .localApp)) order }
  | none => node

end Node

inductive NodeEvent where
  | connect (task : Nat) (kind : RegistryKind) (key : String)
  | refuse (task : Nat)
  | openConnection (task : Nat)
  | register (task : Nat)
  | inbound
  | localApp
  | reconnect (index : Nat)
  | disconnect (index : Nat)
  | drop (index : Nat) (order : IterOrder (Agent × Unit))

namespace Node

def step (node : Node) : NodeEvent → Node
  | .connect task kind key => node.connect task kind key
  | .refuse task => node.refuse task
  | .openConnection task => node.openConnection task
  | .register task => node.register task
  | .inbound => node.accept .inbound
  | .localApp => node.accept .localApp
  | .reconnect index => node.reconnect index
  | .disconnect index => node.disconnect index
  | .drop index order => node.drop index order

/-! ## What the table says of an index -/

variable {node : Node} {index : Nat}

/-- Who the connection at the index was opened to. -/
def originAt (node : Node) (index : Nat) : Option ConnectionOrigin :=
  (node.forwarder.getConnection index).map OpenConnection.origin

/-- The connections that are there keep their places. -/
def Keeps (node left : Node) : Prop :=
  ∀ index origin, node.originAt index = some origin → left.originAt index = some origin

theorem registry_withForwarder (node : Node) (forwarder : Forwarder OpenConnection) :
    ({ node with forwarder } : Node).registry = node.registry := by
  funext kind
  cases kind with
  | service => rfl
  | controller => rfl

theorem establish_eq (node : Node) (origin : ConnectionOrigin) :
    node.establish origin =
      some ((node.forwarder.connectionTable.insert ⟨origin, false⟩).2,
        { node with
          forwarder := { node.forwarder with
            connectionTable := (node.forwarder.connectionTable.insert ⟨origin, false⟩).1 } }) := rfl

/-- A new connection gets an index that is free. -/
theorem establish_spec {left : Node} {origin : ConnectionOrigin}
    (hleft : node.establish origin = some (index, left)) :
    node.Keeps left ∧ left.originAt index = some origin ∧ left.tasks = node.tasks ∧
      left.registry = node.registry := by
  rw [establish_eq, Option.some.injEq, Prod.mk.injEq] at hleft
  obtain ⟨rfl, rfl⟩ := hleft
  have hget := node.forwarder.connectionTable.get_insert ⟨origin, false⟩
  have hfree := node.forwarder.connectionTable.get_insert_index ⟨origin, false⟩
  refine ⟨?_, ?_, rfl, node.registry_withForwarder _⟩
  · intro other found hfound
    have hne : other ≠ (node.forwarder.connectionTable.insert ⟨origin, false⟩).2 := by
      rintro rfl
      rw [originAt, Forwarder.getConnection, hfree] at hfound
      cases hfound
    simp only [originAt, Forwarder.getConnection, hget, if_neg hne] at hfound ⊢
    exact hfound
  · simp only [originAt, Forwarder.getConnection, hget, if_true, Option.map_some]

theorem keeps_reconnect (node : Node) (index : Nat) : node.Keeps (node.reconnect index) := by
  intro other origin horigin
  unfold reconnect
  split
  next endpoint cancelled hfound =>
    have hinside : index < node.forwarder.connectionTable.capacity := by
      by_contra hbeyond
      rw [Forwarder.getConnection, Pool.get_of_capacity_le _ (Nat.not_lt.mp hbeyond)] at hfound
      cases hfound
    simp only [originAt, Forwarder.exec, Forwarder.onConnectionEstablished, Pool.insertAt,
      if_neg (Nat.lt_asymm hinside), dif_pos hinside, Forwarder.getConnection, Pool.get_place]
    split
    next hsame =>
      rw [originAt, hsame, hfound] at horigin
      exact horigin
    next => exact horigin
  next => exact horigin

theorem keeps_disconnect (node : Node) (index : Nat) : node.Keeps (node.disconnect index) := by
  intro other origin horigin
  unfold disconnect
  split
  next => exact horigin
  next =>
    simp only [originAt, Forwarder.getConnection, Pool.get_modify] at horigin ⊢
    split
    next => rwa [Option.map_map]
    next => exact horigin
  next => exact horigin

theorem originAt_drop (node : Node) (index : Nat) (order : IterOrder (Agent × Unit)) (other : Nat) :
    (node.drop index order).originAt other =
      if other = index then none else node.originAt other := by
  unfold drop
  split
  next connection hfound =>
    simp only [originAt, Forwarder.getConnection, Forwarder.onConnectionDrop, Pool.get_remove]
    split
    next => rfl
    next => rfl
  next hfound =>
    split
    next hsame => rw [originAt, hsame, hfound, Option.map_none]
    next => rfl

-- what happens to a connection that is there leaves the maps and the connects as they are

theorem frame_reconnect (node : Node) (index : Nat) :
    (node.reconnect index).tasks = node.tasks ∧
      (node.reconnect index).registry = node.registry := by
  unfold reconnect
  split
  next => exact ⟨rfl, node.registry_withForwarder _⟩
  next => exact ⟨rfl, rfl⟩

theorem frame_disconnect (node : Node) (index : Nat) :
    (node.disconnect index).tasks = node.tasks ∧
      (node.disconnect index).registry = node.registry := by
  unfold disconnect
  split
  next => exact ⟨rfl, rfl⟩
  next => exact ⟨rfl, node.registry_withForwarder _⟩
  next => exact ⟨rfl, rfl⟩

theorem frame_drop (node : Node) (index : Nat) (order : IterOrder (Agent × Unit)) :
    (node.drop index order).tasks = node.tasks ∧
      (node.drop index order).registry = node.registry := by
  unfold drop
  split
  next => exact ⟨rfl, node.registry_withForwarder _⟩
  next => exact ⟨rfl, rfl⟩

/-! ## The registries -/

/-- The connection at the index was opened to the endpoint of the key. -/
def PointsTo (node : Node) (kind : RegistryKind) (key : String) (index : Nat) : Prop :=
  node.originAt index = some (.client (kind.endpoint key))

/-- Every entry points to a connection that was opened to its endpoint. -/
def Faithful (node : Node) : Prop :=
  ∀ kind key index, (node.registry kind).get? key = some index → node.PointsTo kind key index

/-- The entries that are made already, and those that are about to be made. -/
structure Sound (node : Node) : Prop where
  faithful : node.Faithful
  opened : ∀ task kind key index, node.tasks task = .opened kind key index →
    node.PointsTo kind key index

/-- A step that keeps the connections, the maps and the connects. -/
theorem Sound.of_keeps {left : Node} (hs : node.Sound) (hkeeps : node.Keeps left)
    (hframe : left.tasks = node.tasks ∧ left.registry = node.registry) : left.Sound where
  faithful := by
    intro kind key index hentry
    rw [hframe.2] at hentry
    exact hkeeps index _ (hs.faithful kind key index hentry)
  opened := by
    intro task kind key index htask
    rw [hframe.1] at htask
    exact hkeeps index _ (hs.opened task kind key index htask)

theorem registry_setTask (node : Node) (task : Nat) (phase : ConnectTask) :
    (node.setTask task phase).registry = node.registry := by
  funext kind
  cases kind with
  | service => rfl
  | controller => rfl

theorem Sound.setTask (hs : node.Sound) (task : Nat) {phase : ConnectTask}
    (hphase : ∀ kind key index, phase = .opened kind key index → node.PointsTo kind key index) :
    (node.setTask task phase).Sound := by
  constructor
  · intro kind key index hentry
    rw [registry_setTask] at hentry
    exact hs.faithful kind key index hentry
  · intro other kind key index hother
    simp only [Node.setTask, Function.update_apply] at hother
    split at hother
    next => exact hphase kind key index hother
    next => exact hs.opened other kind key index hother

theorem registry_insertEntry (node : Node) (key : String) (index : Nat)
    (kind other : RegistryKind) :
    (node.insertEntry key index kind).registry other =
      if other = kind then (node.registry kind).insert key index else node.registry other := by
  cases kind with
  | service =>
      cases other with
      | service => rfl
      | controller => rfl
  | controller =>
      cases other with
      | service => rfl
      | controller => rfl

theorem Sound.insertEntry (hs : node.Sound) {kind : RegistryKind} {key : String}
    (hpoints : node.PointsTo kind key index) :
    (node.insertEntry key index kind).Sound := by
  have horigin : ∀ other,
      (node.insertEntry key index kind).originAt other = node.originAt other := by
    intro other
    cases kind with
    | service => rfl
    | controller => rfl
  have htasks : (node.insertEntry key index kind).tasks = node.tasks := by
    cases kind with
    | service => rfl
    | controller => rfl
  constructor
  · intro other found place hentry
    rw [registry_insertEntry] at hentry
    rw [PointsTo, horigin]
    split at hentry
    next hsame =>
      subst hsame
      rw [HashMap.get?_insert] at hentry
      split at hentry
      next hkey =>
        cases hentry
        rw [key_string, key_string] at hkey
        rw [hkey]
        exact hpoints
      next => exact hs.faithful _ _ _ hentry
    next => exact hs.faithful _ _ _ hentry
  · intro task other found place htask
    rw [htasks] at htask
    rw [PointsTo, horigin]
    exact hs.opened task other found place htask

/-- A connection that is dropped is in no map, and no connect is about to enter it. -/
def DropsUnregistered (node : Node) : NodeEvent → Prop
  | .drop index _ => (∀ kind key, (node.registry kind).get? key ≠ some index) ∧
      ∀ task kind key, node.tasks task ≠ .opened kind key index
  | _ => True

theorem Sound.accept (hs : node.Sound) (origin : ConnectionOrigin) :
    (node.accept origin).Sound := by
  unfold Node.accept
  split
  next index left hleft =>
    obtain ⟨hkeeps, -, hframe⟩ := establish_spec hleft
    exact hs.of_keeps hkeeps hframe
  next => exact hs

theorem Sound.openConnection (hs : node.Sound) (task : Nat) :
    (node.openConnection task).Sound := by
  unfold Node.openConnection
  split
  next kind key hdialing =>
    split
    next index left hleft =>
      obtain ⟨hkeeps, hopened, hframe⟩ := establish_spec hleft
      refine (hs.of_keeps hkeeps hframe).setTask task ?_
      rintro _ _ _ ⟨⟩
      exact hopened
    next => exact hs
  next => exact hs

theorem Sound.drop (hs : node.Sound) {order : IterOrder (Agent × Unit)}
    (hdrops : node.DropsUnregistered (.drop index order)) : (node.drop index order).Sound := by
  obtain ⟨htasks, hregistry⟩ := node.frame_drop index order
  constructor
  · intro kind key found hentry
    rw [hregistry] at hentry
    have hne : found ≠ index := by
      rintro rfl
      exact hdrops.1 kind key hentry
    rw [PointsTo, originAt_drop, if_neg hne]
    exact hs.faithful kind key found hentry
  · intro task kind key found htask
    rw [htasks] at htask
    have hne : found ≠ index := by
      rintro rfl
      exact hdrops.2 task kind key htask
    rw [PointsTo, originAt_drop, if_neg hne]
    exact hs.opened task kind key found htask

theorem Sound.step (hs : node.Sound) {event : NodeEvent}
    (hdrops : node.DropsUnregistered event) : (node.step event).Sound := by
  have hnothing : ∀ kind key index, ConnectTask.idle = .opened kind key index →
      node.PointsTo kind key index := by
    rintro _ _ _ ⟨⟩
  cases event with
  | connect task kind key =>
      simp only [Node.step, Node.connect]
      split
      next =>
        split
        next => exact hs
        next =>
          refine hs.setTask task ?_
          rintro _ _ _ ⟨⟩
      next => exact hs
  | refuse task =>
      simp only [Node.step, Node.refuse]
      split
      next => exact hs.setTask task hnothing
      next => exact hs
  | openConnection task => exact hs.openConnection task
  | register task =>
      simp only [Node.step, Node.register]
      split
      next kind key index htask =>
        refine (hs.insertEntry (hs.opened task kind key index htask)).setTask task ?_
        rintro _ _ _ ⟨⟩
      next => exact hs
  | inbound => exact hs.accept .inbound
  | localApp => exact hs.accept .localApp
  | reconnect index =>
      exact hs.of_keeps (node.keeps_reconnect index) (node.frame_reconnect index)
  | disconnect index =>
      exact hs.of_keeps (node.keeps_disconnect index) (node.frame_disconnect index)
  | drop index order => exact hs.drop hdrops

theorem sound_new : Node.new.Sound where
  faithful := by
    intro kind key index hentry
    cases kind with
    | service => cases hentry
    | controller => cases hentry
  opened := by
    intro task kind key index htask
    cases htask

/-! ## What the entries are used for -/

end Node

/-- A subscription of a `ConfigCommand`. -/
structure ControlSubscription where
  organization : String
  nameSpace : String
  agentType : String
  agentId : Option UInt64
  connectionId : String
deriving DecidableEq, Repr

namespace Node

section ConfigCommand

variable [NameHash]

/-- The message for an entry of `subscriptions_to_set`, if the connection is known. -/
def subscribeMessage (node : Node) (subscription : ControlSubscription) :
    Option (Except AccessPanic ProtoMessage) :=
  match node.connections.get? subscription.connectionId with
  | none => none
  | some conn =>
      let agentType := AgentType.fromStrings subscription.organization subscription.nameSpace
        subscription.agentType
      some (ProtoMessage.newSubscribe ⟨agentType, 0⟩ agentType subscription.agentId
        (some (SlimHeaderFlags.default.withRecvFrom conn)))

/-- The message for an entry of `subscriptions_to_delete`. -/
def unsubscribeMessage (node : Node) (subscription : ControlSubscription) : Option ProtoMessage :=
  match node.connections.get? subscription.connectionId with
  | none => none
  | some conn =>
      let agentType := AgentType.fromStrings subscription.organization subscription.nameSpace
        subscription.agentType
      some (ProtoMessage.newUnsubscribe ⟨agentType, 0⟩ agentType subscription.agentId
        (some (SlimHeaderFlags.default.withRecvFrom conn)))

/-- The route message is handled as if it came from this connection. -/
def RoutesThrough (msg : ProtoMessage) (index : Nat) : Prop :=
  ∃ header, msg.getSlimHeader = .ok header ∧ header.recvFrom = some index

theorem subscribeMessage_routes {node : Node} {subscription : ControlSubscription}
    {sent : Except AccessPanic ProtoMessage}
    (hsent : node.subscribeMessage subscription = some sent) :
    ∃ msg index, sent = .ok msg ∧ RoutesThrough msg index ∧
      node.connections.get? subscription.connectionId = some index := by
  unfold subscribeMessage at hsent
  split at hsent
  next => cases hsent
  next conn hconn =>
    cases hsent
    exact ⟨_, conn, rfl, ⟨_, rfl, rfl⟩, hconn⟩

theorem unsubscribeMessage_routes {node : Node} {subscription : ControlSubscription}
    {msg : ProtoMessage} (hsent : node.unsubscribeMessage subscription = some msg) :
    ∃ index, RoutesThrough msg index ∧
      node.connections.get? subscription.connectionId = some index := by
  unfold unsubscribeMessage at hsent
  split at hsent
  next => cases hsent
  next conn hconn =>
    cases hsent
    exact ⟨conn, ⟨_, rfl, rfl⟩, hconn⟩

end ConfigCommand

/-- An entry does not survive the drop of its connection: it then points to nothing, until the
    index is given to another connection. -/
theorem drop_not_faithful {node : Node} {kind : RegistryKind} {key : String} {index : Nat}
    (hentry : (node.registry kind).get? key = some index) (order : IterOrder (Agent × Unit)) :
    ¬ (node.drop index order).Faithful := by
  intro hfaithful
  have hkept : ((node.drop index order).registry kind).get? key = some index := by
    rw [(node.frame_drop index order).2]
    exact hentry
  have hpoints := hfaithful kind key index hkept
  rw [PointsTo, originAt_drop, if_pos rfl] at hpoints
  cases hpoints

/-- Where no connection is dropped that is in a map or about to be entered, each entry points to
    the connection that was opened to its endpoint; so do an id that `get_connection_id` returns
    and the route messages of the controller.  In such a run the drop of a connection that is in
    a map ends this at once. -/
theorem registries_faithful [NameHash] (events : List NodeEvent)
    (hdrops : Along step DropsUnregistered Node.new events) :
    (run step Node.new events).Faithful ∧
      (∀ endpoint index, (run step Node.new events).getConnectionId endpoint = some index →
        (run step Node.new events).originAt index = some (.client endpoint)) ∧
      (∀ subscription sent,
        (run step Node.new events).subscribeMessage subscription = some sent →
          ∃ msg index, sent = .ok msg ∧ RoutesThrough msg index ∧
            (run step Node.new events).originAt index =
              some (.client ("http://" ++ subscription.connectionId))) ∧
      (∀ subscription msg,
        (run step Node.new events).unsubscribeMessage subscription = some msg →
          ∃ index, RoutesThrough msg index ∧
            (run step Node.new events).originAt index =
              some (.client ("http://" ++ subscription.connectionId))) ∧
      ∀ kind key index order, ((run step Node.new events).registry kind).get? key = some index →
        ¬ ((run step Node.new events).step (.drop index order)).Faithful := by
  have hsound : (run step Node.new events).Sound :=
    run_invariant (I := Sound) (fun _ _ hs hunregistered => hs.step hunregistered) events Node.new
      hdrops sound_new
  refine ⟨hsound.faithful, ?_, ?_, ?_, ?_⟩
  · intro endpoint index hid
    exact hsound.faithful .service endpoint index hid
  · intro subscription sent hsent
    obtain ⟨msg, index, hmsg, hroutes, hentry⟩ := subscribeMessage_routes hsent
    exact ⟨msg, index, hmsg, hroutes, hsound.faithful .controller _ index hentry⟩
  · intro subscription msg hsent
    obtain ⟨index, hroutes, hentry⟩ := unsubscribeMessage_routes hsent
    exact ⟨index, hroutes, hsound.faithful .controller _ index hentry⟩
  · intro kind key index order hentry
    exact drop_not_faithful hentry order

/-- The service and the controller each connect to a node. -/
def connectEvents : List NodeEvent :=
  [.connect 0 .service "http://node-a:46357", .openConnection 0, .register 0,
    .connect 1 .controller "node-b:46357", .openConnection 1, .register 1]

theorem inbound_unregistered :
    (run step Node.new (connectEvents ++ [.inbound])).DropsUnregistered
      (.drop 2 IterOrder.stored) := by
  constructor
  · intro kind key hentry
    cases kind with
    | service =>
        have hclients : (run step Node.new (connectEvents ++ [.inbound])).registry .service =
            HashMap.empty.insert "http://node-a:46357" 0 := rfl
        rw [hclients, HashMap.get?_insert] at hentry
        split at hentry
        next => cases hentry
        next => cases hentry
    | controller =>
        have hconnections : (run step Node.new (connectEvents ++ [.inbound])).registry .controller =
            HashMap.empty.insert "node-b:46357" 1 := rfl
        rw [hconnections, HashMap.get?_insert] at hentry
        split at hentry
        next => cases hentry
        next => cases hentry
  · intro task kind key hopened
    have htasks : ∀ task, (run step Node.new (connectEvents ++ [.inbound])).tasks task = .idle := by
      intro task
      rcases task with _ | _ | task
      · rfl
      · rfl
      · rfl
    rw [htasks] at hopened
    cases hopened

theorem registries_faithful_sample :
    (run step Node.new (connectEvents ++ [.inbound] ++ [.drop 2 IterOrder.stored])).Faithful := by
  have hconnected : Along step DropsUnregistered Node.new (connectEvents ++ [.inbound]) := by
    simp only [connectEvents, List.cons_append, List.nil_append, Along, DropsUnregistered, and_self]
  have hdrops := (along_append _ [.drop 2 IterOrder.stored] _).2
    ⟨hconnected, inbound_unregistered, trivial⟩
  exact (@registries_faithful sampleHash _ hdrops).1

/-- Both connections are dropped, and two other nodes connect.  The entries then point to the
    connections of these. -/
theorem dropped_entries_redirected :
    let node := run step Node.new (connectEvents ++
      [.drop 0 IterOrder.stored, .drop 1 IterOrder.stored, .inbound, .inbound])
    node.getConnectionId "http://node-a:46357" = some 0 ∧ node.originAt 0 = some .inbound ∧
      node.connections.get? "node-b:46357" = some 1 ∧ node.originAt 1 = some .inbound ∧
      ¬ node.Faithful := by
  refine ⟨by decide +kernel, by decide +kernel, by decide +kernel, by decide +kernel, ?_⟩
  intro hfaithful
  have hpoints := hfaithful .service "http://node-a:46357" 0 (by decide +kernel)
  revert hpoints
  rw [PointsTo]
  decide +kernel

end Node

end Slim
