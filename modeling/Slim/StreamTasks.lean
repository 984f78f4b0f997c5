import Slim.PublishProcessing

/-!
# The tasks of a node: `process_stream` and the functions that start it

Every connection of a node is served by a task.  The task receives messages, handles them
one at a time, and when its stream ends, or it is told to stop, it reconnects or drops the
connection.  A reconnection puts a new connection at the old index and hands it to a new
task.  Nothing in the tables says which task serves a connection: an index is dropped by
whoever has it.

Here the tasks of a node run in any interleaving.  What a task does under one lock is one
step, so a drop is three steps and a publication is one step for each of its outputs.
-/

namespace Slim

open Machine
open SubscriptionTableImpl (sampleType)

/-! ## Tasks -/

/-- The errors that `handle_new_message` returns. -/
inductive HandlingError where
  | invalidMessage (text : String)
  | processingError (text : String)
deriving DecidableEq, Repr

/-- What `stream.next()` yields. -/
inductive StreamItem where
  | message (msg : ProtoMessage)
  | failed
  | closed

/-- Where the task of a stream stands. -/
inductive StreamPhase where
  | receiving
  | subscribing (msg : ProtoMessage)
  | publishing (msg : ProtoMessage) (outputs : List Nat)
  | notifying (error : HandlingError)
  | leaving (tryToReconnect : Bool)
  | reconnecting (attempts : Nat) (subscriptions : List SubscriptionInfo)
  | restoring (subscriptions : List SubscriptionInfo)
  | purgingSubscriptions
  | purgingRemote
  | ended
  -- a panic ends the task; the connection stays if it had not been given away
  | panicked (connected : Bool)

namespace StreamPhase

/-- The task still has the connection it was started with. -/
def holds : StreamPhase → Bool
  | receiving => true
  | subscribing _ => true
  | publishing _ _ => true
  | notifying _ => true
  | leaving _ => true
  | reconnecting _ _ => true
  | panicked connected => connected
  | _ => false

/-- The task still has to take the routes of its connection away. -/
def attends : StreamPhase → Bool
  | purgingSubscriptions => true
  | phase => phase.holds

def isSubscribing : StreamPhase → Bool
  | subscribing _ => true
  | _ => false

def isReconnecting : StreamPhase → Bool
  | reconnecting _ _ => true
  | _ => false

/-- The task takes no further step. -/
def isOver : StreamPhase → Bool
  | ended => true
  | panicked _ => true
  | _ => false

theorem attends_of_holds {phase : StreamPhase} (hholds : phase.holds = true) :
    phase.attends = true := by
  cases phase with
  | purgingSubscriptions => rfl
  | _ => exact hholds

theorem holds_of_isReconnecting {phase : StreamPhase}
    (hreconnecting : phase.isReconnecting = true) : phase.holds = true := by
  cases phase with
  | reconnecting attempts subscriptions => rfl
  | _ => simp [isReconnecting] at hreconnecting

end StreamPhase

/-- The arguments of `process_stream`, and how far the task has come.  Of the client
    configuration only its presence is kept. -/
structure StreamTask where
  connIndex : Nat
  isLocal : Bool
  clientConfig : Bool
  token : Nat
  phase : StreamPhase

/-- What the environment decides in a step: the results of sending, of `to_channel` and of
    an attempt to connect, and the orders and random numbers that the tables use. -/
structure Choices where
  sendError : Option String
  channel : Bool
  established : Bool
  rng : Rng
  matchOrder : IterOrder (Nat × Nat)
  dropOrder : IterOrder (Agent × Unit)
  replayOrder : IterOrder (SubscriptionInfo × Unit)

/-- A node.  The cancellation token of a connection is kept beside the connection table,
    by index; tokens are numbers.  What was handed to channels is recorded. -/
structure DataPath where
  processor : MessageProcessor
  streams : List StreamTask
  tokens : Nat → Option Nat
  nextToken : Nat
  cancelled : List Nat
  drained : Bool
  sent : List (Nat × ProtoMessage)
  errors : List (Nat × HandlingError)

inductive DataPathEvent where
  | openChannel
  | registerLocalConnection
  | connect (clientConfig : Bool)
  | disconnect (conn : Nat)
  | drain
  | receive (task : Nat) (item : StreamItem) (choices : Choices)
  | stop (task : Nat)
  | advance (task : Nat) (choices : Choices)

/-- The connection that an event brings. -/
def DataPathEvent.connection : DataPathEvent → Option Connection
  | openChannel => some ⟨.server, .Remote⟩
  | registerLocalConnection => some ⟨.server, .Local⟩
  | connect _ => some ⟨.client, .Remote⟩
  | _ => none

namespace DataPath

/-- The retries of `reconnect`. -/
def MAX_RECONNECT_RETRIES : Nat := 120

def new : DataPath where
  processor := MessageProcessor.new
  streams := []
  tokens := fun _ => none
  nextToken := 0
  cancelled := []
  drained := false
  sent := []
  errors := []

def forwarder (d : DataPath) : Forwarder Connection := d.processor.forwarder

def withForwarder (d : DataPath) (f : Forwarder Connection) : DataPath :=
  { d with processor := { d.processor with forwarder := f } }

/-- The task goes on to a phase. -/
def moveTo (d : DataPath) (i : Nat) (phase : StreamPhase) : DataPath :=
  { d with streams := d.streams.modify i fun task => { task with phase := phase } }

/-! ### The life of a connection -/

/-- `process_stream` for a connection that is in the table with this token, or with none. -/
def processStream (d : DataPath) (connIndex : Nat) (isLocal clientConfig : Bool)
    (tokenOfConnection : Option Nat) : DataPath :=
  { d with
    streams := d.streams ++ [⟨connIndex, isLocal, clientConfig, d.nextToken, .receiving⟩]
    tokens := Function.update d.tokens connIndex tokenOfConnection
    nextToken := d.nextToken + 1 }

/-- A connection that gets an index of its own, and its task. -/
def establish (d : DataPath) (connection : Connection) (isLocal clientConfig : Bool)
    (tokenOfConnection : Option Nat) : DataPath :=
  match d.forwarder.onConnectionEstablished connection none with
  | .ok (some index, f) =>
      (d.withForwarder f).processStream index isLocal clientConfig tokenOfConnection
  | _ => d

/-- A peer connects.  The token of the task is not put into the connection. -/
def openChannel (d : DataPath) : DataPath :=
  d.establish ⟨.server, .Remote⟩ false false none

def registerLocalConnection (d : DataPath) : DataPath :=
  d.establish ⟨.server, .Local⟩ true false (some d.nextToken)

/-- The attempt of `connect` that succeeds; those before it leave no trace. -/
def connect (d : DataPath) (clientConfig : Bool) : DataPath :=
  d.establish ⟨.client, .Remote⟩ false clientConfig (some d.nextToken)

/-- The result and the node after `disconnect`. -/
def disconnect (d : DataPath) (conn : Nat) : Except String Unit × DataPath :=
  match d.forwarder.getConnection conn with
  | none => (.error "connection not found", d)
  | some _ =>
      match d.tokens conn with
      | none => (.ok (), d) -- "missing cancellation token"
      | some token => (.ok (), { d with cancelled := token :: d.cancelled })

/-- The drain signal or the token of the task is set. -/
def told (d : DataPath) (task : StreamTask) : Bool := d.drained || d.cancelled.contains task.token

/-- The first update of `on_connection_drop`: the index is free again. -/
def dropConnection (d : DataPath) (i : Nat) (task : StreamTask) : DataPath :=
  (d.withForwarder { d.forwarder with
    connectionTable := (d.forwarder.connectionTable.remove task.connIndex).2 }).moveTo i
      .purgingSubscriptions

def purgeSubscriptions (d : DataPath) (i : Nat) (task : StreamTask)
    (order : IterOrder (Agent × Unit)) : DataPath :=
  (d.withForwarder { d.forwarder with
    subscriptionTable := (d.forwarder.subscriptionTable.removeConnection task.connIndex
      task.isLocal order).2 }).moveTo i .purgingRemote

def purgeRemote (d : DataPath) (i : Nat) (task : StreamTask) : DataPath :=
  (d.withForwarder { d.forwarder with
    remoteSubscriptionTable :=
      d.forwarder.remoteSubscriptionTable.removeConnection task.connIndex }).moveTo i .ended

/-- After the loop.  `reconnect` reads the recorded subscriptions before it connects. -/
def leave (d : DataPath) (i : Nat) (task : StreamTask) (tryToReconnect : Bool)
    (choices : Choices) : DataPath :=
  if tryToReconnect && task.clientConfig && choices.channel then
    let recorded := d.forwarder.remoteSubscriptionTable.getSubscriptionsOnConnection task.connIndex
    d.moveTo i (.reconnecting 0 ((recorded.iter choices.replayOrder).map Prod.fst))
  else d.dropConnection i task

/-- One attempt of `try_to_connect` at the old index. -/
def attempt (d : DataPath) (i : Nat) (task : StreamTask) (attempts : Nat)
    (subscriptions : List SubscriptionInfo) (established : Bool) : DataPath :=
  if attempts < MAX_RECONNECT_RETRIES then
    if established then
      match d.forwarder.onConnectionEstablished ⟨.client, .Remote⟩ (some task.connIndex) with
      | .error _ => d.moveTo i (.panicked true)
      | .ok (none, _) => d.moveTo i (.leaving false)
      | .ok (some index, f) =>
          ((d.withForwarder f).moveTo i (.restoring subscriptions)).processStream index false true
            (some d.nextToken)
    else d.moveTo i (.reconnecting (attempts + 1) subscriptions)
  else d.moveTo i (.leaving false)

/-! ### The messages of a stream -/

/-- `handle_new_message` has returned an error: a local application is told. -/
def fail (d : DataPath) (i : Nat) (task : StreamTask) (error : HandlingError) : DataPath :=
  d.moveTo i (if task.isLocal then .notifying error else .receiving)

/-- `send_error_to_local_app`. -/
def notify (d : DataPath) (i : Nat) (task : StreamTask) (error : HandlingError) : DataPath :=
  match d.forwarder.getConnection task.connIndex with
  | some ⟨.server, _⟩ =>
      { d with errors := d.errors ++ [(task.connIndex, error)] }.moveTo i .receiving
  | _ => d.moveTo i .receiving

/-- What `process_subscription` reads of the message.  The source is read later there, and
    has already been read for the span. -/
def readSubscription [NameHash] (msg : ProtoMessage) :
    Except AccessPanic (SubscriptionMessage × (Nat × Option Nat)) := do
  let (agentType, agentId) ← msg.getName
  let header ← msg.getSlimHeader
  let connections ← header.getInOutConnections
  let source ← msg.getSource
  return (⟨header.toSlimHeader, source, agentType, agentId⟩, connections)

/-- `process_subscription` up to the lookup of the connection. -/
def startSubscription [NameHash] (d : DataPath) (i : Nat) (msg : ProtoMessage) (add : Bool) :
    DataPath :=
  match readSubscription msg with
  | .error _ => d.moveTo i (.panicked true)
  | .ok (content, _) =>
      { d with processor := d.processor.findConnection i content add }.moveTo i (.subscribing msg)

/-- The outputs of a publication: the one it names, or those of the subscription table. -/
def publicationOutputs (d : DataPath) (inConnection : Nat) (msg : ProtoMessage)
    (choices : Choices) : Except AccessPanic (Except SubscriptionTableError (List Nat)) := do
  let (agentType, agentId) ← msg.getDst
  let fanout ← msg.getFanout
  match ← msg.getForwardTo with
  | some outConn => return .ok [outConn]
  | none =>
      return d.forwarder.onPublishMsgMatch agentType agentId inConnection fanout choices.rng
        choices.matchOrder

/-- `process_publish` up to the first output. -/
def startPublication (d : DataPath) (i : Nat) (task : StreamTask) (msg : ProtoMessage)
    (choices : Choices) : DataPath :=
  match d.publicationOutputs task.connIndex msg choices with
  | .error _ => d.moveTo i (.panicked true)
  | .ok (.error e) =>
      d.fail i task (.processingError (DataPathError.publicationError e.display).display)
  | .ok (.ok outputs) => d.moveTo i (.publishing msg outputs)

/-- The message with its incoming connection, and its type, once the span is made. -/
def stamp (msg : ProtoMessage) (connIndex : Nat) :
    Except AccessPanic (ProtoMessage × MessageType) := do
  let stamped ← msg.setIncomingConn (some connIndex)
  createSpan stamped
  let messageType ← stamped.getType
  return (stamped, messageType)

def handleNewMessage [NameHash] (d : DataPath) (i : Nat) (task : StreamTask) (msg : ProtoMessage)
    (choices : Choices) : DataPath :=
  match msg.validate with
  | .error e => d.fail i task (.invalidMessage e.display)
  | .ok () =>
      match stamp msg task.connIndex with
      | .error _ => d.moveTo i (.panicked true)
      | .ok (stamped, .subscribe _) => d.startSubscription i stamped true
      | .ok (stamped, .unsubscribe _) => d.startSubscription i stamped false
      | .ok (stamped, .publish _) => d.startPublication i task stamped choices

/-- The next step of `process_subscription`. -/
def resumeSubscription (d : DataPath) (i : Nat) (task : StreamTask) (msg : ProtoMessage)
    (sendError : Option String) : DataPath :=
  let resumed := { d with processor := d.processor.step (.advance i sendError) }
  match d.processor.tasks i with
  | .idle => d.moveTo i .receiving -- no call is in progress
  | .returned (.ok ()) => d.moveTo i .receiving
  | .returned (.error e) => d.fail i task (.processingError e.display)
  | .send _ outConn _ =>
      match d.forwarder.transmit msg outConn sendError with
      | .error _ => d.moveTo i (.panicked true)
      | .ok (.error _) => resumed
      | .ok (.ok sent) => { resumed with sent := d.sent ++ [(outConn, sent)] }
  | _ => resumed

/-- The next output of a publication. -/
def resumePublication (d : DataPath) (i : Nat) (task : StreamTask) (msg : ProtoMessage)
    (sendError : Option String) : List Nat → DataPath
  | [] => d.moveTo i (.panicked true) -- `out_vec.len() - 1` or `out_vec[i]`
  | outConn :: rest =>
      match d.forwarder.sendPublication msg outConn fun _ => sendError with
      | .error _ => d.moveTo i (.panicked true)
      | .ok published =>
          let left := { d with sent := d.sent ++ published.sent }
          match published.result with
          | .error e => left.fail i task (.processingError e.display)
          | .ok () => left.moveTo i (if rest.isEmpty then .receiving else .publishing msg rest)

/-- A subscription that `reconnect` sends again. -/
def sendAgain (d : DataPath) (conn : Nat) (info : SubscriptionInfo) (sendError : Option String) :
    Except AccessPanic (Except DataPathError ProtoMessage) := do
  let msg ← ProtoMessage.newSubscribe info.source info.name.agentType info.name.agentIdOption none
  d.forwarder.transmit msg conn sendError

/-- The loop of `reconnect` over the recorded subscriptions. -/
def restore (d : DataPath) (i : Nat) (task : StreamTask) (sendError : Option String) :
    List SubscriptionInfo → DataPath
  | [] => d.moveTo i .ended
  | info :: rest =>
      match d.sendAgain task.connIndex info sendError with
      | .error _ => d.moveTo i (.panicked false)
      | .ok (.error _) => d.moveTo i (.restoring rest) -- "error restoring subscription"
      | .ok (.ok sent) =>
          { d with sent := d.sent ++ [(task.connIndex, sent)] }.moveTo i (.restoring rest)

/-! ### Steps -/

def advance (d : DataPath) (i : Nat) (task : StreamTask) (choices : Choices) :
    StreamPhase → DataPath
  | .receiving => d
  | .subscribing msg => d.resumeSubscription i task msg choices.sendError
  | .publishing msg outputs => d.resumePublication i task msg choices.sendError outputs
  | .notifying error => d.notify i task error
  | .leaving tryToReconnect => d.leave i task tryToReconnect choices
  | .reconnecting attempts subscriptions =>
      d.attempt i task attempts subscriptions choices.established
  | .restoring subscriptions => d.restore i task choices.sendError subscriptions
  | .purgingSubscriptions => d.purgeSubscriptions i task choices.dropOrder
  | .purgingRemote => d.purgeRemote i task
  | .ended => d
  | .panicked _ => d

def receive [NameHash] (d : DataPath) (i : Nat) (task : StreamTask) (choices : Choices) :
    StreamItem → DataPath
  | .message msg => d.handleNewMessage i task msg choices
  | .failed => d.moveTo i (.leaving true)
  | .closed => d.moveTo i (.leaving true)

/-- A task that was told to stop leaves its loop, or gives up a reconnection. -/
def stop (d : DataPath) (i : Nat) (task : StreamTask) : DataPath :=
  if d.told task then
    match task.phase with
    | .receiving => d.moveTo i (.leaving false)
    | .reconnecting _ _ => d.moveTo i (.leaving false)
    | _ => d
  else d

def step [NameHash] (d : DataPath) : DataPathEvent → DataPath
  | .openChannel => d.openChannel
  | .registerLocalConnection => d.registerLocalConnection
  | .connect clientConfig => d.connect clientConfig
  | .disconnect conn => (d.disconnect conn).2
  | .drain => { d with drained := true }
  | .receive i item choices =>
      match d.streams[i]? with
      | some task =>
          match task.phase with
          | .receiving => d.receive i task choices item
          | _ => d
      | none => d
  | .stop i =>
      match d.streams[i]? with
      | some task => d.stop i task
      | none => d
  | .advance i choices =>
      match d.streams[i]? with
      | some task => d.advance i task choices task.phase
      | none => d

/-! ### Samples -/

def sampleChoices : Choices where
  sendError := none
  channel := true
  established := true
  rng := Rng.zero
  matchOrder := IterOrder.stored
  dropOrder := IterOrder.stored
  replayOrder := IterOrder.stored

def sampleName : AgentType := @AgentType.fromStrings sampleHash "org" "ns" "type"

def sampleSubscription : ProtoMessage :=
  ⟨HashMap.empty, some (.subscribe
    ⟨some (ProtoSlimHeader.new ⟨sampleName, 7⟩ sampleName (some 1) none), "org", "ns", "type"⟩)⟩

/-! ## What a step can do -/

section Placing

/-- The tables after a connection has been put at an index that exists. -/
theorem established_at {f g : Forwarder Connection} {connection : Connection}
    {index found : Nat}
    (hplaced : f.onConnectionEstablished connection (some index) = .ok (some found, g)) :
    found = index ∧ g.subscriptionTable = f.subscriptionTable ∧
      g.remoteSubscriptionTable = f.remoteSubscriptionTable ∧
      ∀ conn, g.getConnection conn =
        if conn = index then some connection else f.getConnection conn := by
  simp only [Forwarder.onConnectionEstablished, Pool.insertAt] at hplaced
  by_cases hbeyond : f.connectionTable.capacity < index
  · simp [hbeyond] at hplaced
  rw [if_neg hbeyond] at hplaced
  by_cases hinside : index < f.connectionTable.capacity
  · simp only [dif_pos hinside, if_true] at hplaced
    cases hplaced
    exact ⟨rfl, rfl, rfl, fun conn => Pool.get_place _ _ _ hinside conn⟩
  · simp [hinside] at hplaced

/-- The tables with one more connection. -/
def insertConnection (f : Forwarder Connection) (connection : Connection) :
    Forwarder Connection :=
  { f with connectionTable := (f.connectionTable.insert connection).1 }

end Placing

/-- The task is now in this phase, and the tables are as they were. -/
structure Moved (d : DataPath) (i : Nat) (phase : StreamPhase) (e : DataPath) : Prop where
  processor : e.processor = d.processor
  tokens : e.tokens = d.tokens
  nextToken : e.nextToken = d.nextToken
  streams : e.streams = (d.moveTo i phase).streams

/-- The phases that a task enters without touching a table.  It keeps what it has, and
    reconnects only with a client configuration. -/
structure MayEnter (task : StreamTask) (phase : StreamPhase) : Prop where
  holds : phase.holds = task.phase.holds
  attends : phase.attends = task.phase.attends
  not_subscribing : phase.isSubscribing = false
  reconnecting : phase.isReconnecting = true →
    task.clientConfig = true ∨ task.phase.isReconnecting = true

/-- The effects of a step.  Most steps of a task only move the task on; the others start or
    resume the handling of a subscription, bring a new connection with its task, drop the
    connection of a task and clean up after it, or replace the connection of a task at its
    index and hand it to a new task. -/
inductive Outcome [NameHash] (d : DataPath) (event : DataPathEvent) : DataPath → Prop where
  | idle {e : DataPath} (hprocessor : e.processor = d.processor) (htokens : e.tokens = d.tokens)
      (hnext : e.nextToken = d.nextToken) (hstreams : e.streams = d.streams) : Outcome d event e
  | moves {e : DataPath} (i : Nat) (task : StreamTask) (htask : d.streams[i]? = some task)
      (phase : StreamPhase) (hmoved : d.Moved i phase e) (hphase : MayEnter task phase) :
      Outcome d event e
  | starts (i : Nat) (task : StreamTask) (htask : d.streams[i]? = some task)
      (hphase : task.phase = .receiving) (received msg : ProtoMessage) (choices : Choices)
      (hevent : event = .receive i (.message received) choices)
      (hvalid : received.validate = .ok ()) (messageType : MessageType)
      (hstamp : stamp received task.connIndex = .ok (msg, messageType))
      (content : SubscriptionMessage) (connections : Nat × Option Nat)
      (hread : readSubscription msg = .ok (content, connections)) (add : Bool) :
      Outcome d event ({ d with processor := d.processor.findConnection i content add }.moveTo i
        (.subscribing msg))
  | resumes (i : Nat) (task : StreamTask) (htask : d.streams[i]? = some task)
      (msg : ProtoMessage) (hphase : task.phase = .subscribing msg) (choices : Choices)
      (hevent : event = .advance i choices) (hbusy : (d.processor.tasks i).isFinished = false)
      (sent : List (Nat × ProtoMessage)) :
      Outcome d event
        { d with processor := d.processor.step (.advance i choices.sendError), sent := sent }
  | opens (connection : Connection) (hevent : event.connection = some connection)
      (clientConfig : Bool) (token : Option Nat)
      (hconfig : clientConfig = true → connection.isLocalConnection = false)
      (htoken : token = none ∨ token = some d.nextToken) :
      Outcome d event ((d.withForwarder (insertConnection d.forwarder connection)).processStream
        (d.forwarder.connectionTable.insert connection).2 connection.isLocalConnection
        clientConfig token)
  | drops (i : Nat) (task : StreamTask) (htask : d.streams[i]? = some task)
      (hholds : task.phase.holds = true) : Outcome d event (d.dropConnection i task)
  | purgesSubscriptions (i : Nat) (task : StreamTask) (htask : d.streams[i]? = some task)
      (hphase : task.phase = .purgingSubscriptions) (order : IterOrder (Agent × Unit)) :
      Outcome d event (d.purgeSubscriptions i task order)
  | purgesRemote (i : Nat) (task : StreamTask) (htask : d.streams[i]? = some task)
      (hphase : task.phase = .purgingRemote) : Outcome d event (d.purgeRemote i task)
  | replaces (i : Nat) (task : StreamTask) (htask : d.streams[i]? = some task)
      (hphase : task.phase.isReconnecting = true) (f : Forwarder Connection)
      (subscriptions : List SubscriptionInfo)
      (hplaced : d.forwarder.onConnectionEstablished ⟨.client, .Remote⟩ (some task.connIndex) =
        .ok (some task.connIndex, f)) :
      Outcome d event (((d.withForwarder f).moveTo i (.restoring subscriptions)).processStream
        task.connIndex false true (some d.nextToken))

/-! ### Moves -/

section Moves

variable {d : DataPath} {i : Nat} {task : StreamTask} {phase : StreamPhase}

theorem moveTo_phase (htask : d.streams[i]? = some task) :
    (d.moveTo i task.phase).streams = d.streams := by
  refine List.ext_getElem? fun j => ?_
  rw [moveTo, List.getElem?_modify]
  by_cases hij : i = j
  · subst hij
    simp [htask]
  · simp [hij]

theorem getElem?_moveTo_of_ne {j : Nat} (hne : j ≠ i) :
    (d.moveTo i phase).streams[j]? = d.streams[j]? := by
  simp [moveTo, Ne.symm hne]

theorem getElem?_moveTo_self (htask : d.streams[i]? = some task) :
    (d.moveTo i phase).streams[i]? = some { task with phase := phase } := by
  simp [moveTo, htask]

/-- A task after one of them has moved: it has not, or it is the one. -/
theorem getElem?_moveTo (htask : d.streams[i]? = some task) {j : Nat} {left : StreamTask}
    (hleft : (d.moveTo i phase).streams[j]? = some left) :
    j ≠ i ∧ d.streams[j]? = some left ∨ j = i ∧ left = { task with phase := phase } := by
  by_cases hji : j = i
  · rw [hji, getElem?_moveTo_self htask, Option.some.injEq] at hleft
    exact Or.inr ⟨hji, hleft.symm⟩
  · rw [getElem?_moveTo_of_ne hji] at hleft
    exact Or.inl ⟨hji, hleft⟩

theorem moved_moveTo (d : DataPath) (i : Nat) (phase : StreamPhase) :
    d.Moved i phase (d.moveTo i phase) :=
  ⟨rfl, rfl, rfl, rfl⟩

/-- A task that has its connection goes on with its work. -/
theorem mayEnter_of_holds (hholds : task.phase.holds = true) (hphase : phase.holds = true)
    (hsubscribing : phase.isSubscribing = false) (hreconnecting : phase.isReconnecting = false) :
    MayEnter task phase where
  holds := by rw [hholds, hphase]
  attends := by
    rw [StreamPhase.attends_of_holds hholds, StreamPhase.attends_of_holds hphase]
  not_subscribing := hsubscribing
  reconnecting := fun hphase => by simp [hreconnecting] at hphase

end Moves

section Steps

variable [NameHash] {d : DataPath} {event : DataPathEvent} {i : Nat} {task : StreamTask}

theorem outcome_moveTo (htask : d.streams[i]? = some task) {phase : StreamPhase}
    (hphase : MayEnter task phase) : d.Outcome event (d.moveTo i phase) :=
  .moves i task htask phase (moved_moveTo d i phase) hphase

theorem outcome_panicked (htask : d.streams[i]? = some task) (hholds : task.phase.holds = true) :
    d.Outcome event (d.moveTo i (.panicked true)) :=
  outcome_moveTo htask (mayEnter_of_holds hholds rfl rfl rfl)

/-- The same after messages were recorded as sent. -/
theorem outcome_fail (htask : d.streams[i]? = some task) (hholds : task.phase.holds = true)
    (sent : List (Nat × ProtoMessage)) (error : HandlingError) :
    d.Outcome event ({ d with sent := sent }.fail i task error) := by
  refine .moves i task htask _ ⟨rfl, rfl, rfl, rfl⟩ ?_
  apply mayEnter_of_holds hholds
  all_goals
    split
    · rfl
    · rfl

theorem outcome_notify (htask : d.streams[i]? = some task) (hholds : task.phase.holds = true)
    (error : HandlingError) : d.Outcome event (d.notify i task error) := by
  have hphase : MayEnter task .receiving := mayEnter_of_holds hholds rfl rfl rfl
  unfold notify
  split
  · exact .moves i task htask .receiving ⟨rfl, rfl, rfl, rfl⟩ hphase
  · exact outcome_moveTo htask hphase

theorem outcome_handleNewMessage (htask : d.streams[i]? = some task)
    (hphase : task.phase = .receiving) {received : ProtoMessage} {choices : Choices}
    (hevent : event = .receive i (.message received) choices) :
    d.Outcome event (d.handleNewMessage i task received choices) := by
  have hholds : task.phase.holds = true := by rw [hphase]; rfl
  have hsubscription : ∀ {msg messageType} (add : Bool), received.validate = .ok () →
      stamp received task.connIndex = .ok (msg, messageType) →
        d.Outcome event (d.startSubscription i msg add) := by
    intro msg messageType add hvalid hstamp
    unfold startSubscription
    split
    · exact outcome_panicked htask hholds
    · rename_i content connections hread
      exact .starts i task htask hphase received msg choices hevent hvalid messageType hstamp
        content connections hread add
  unfold handleNewMessage
  split
  · exact outcome_fail htask hholds d.sent _
  · rename_i hvalid
    split
    · exact outcome_panicked htask hholds
    · rename_i hstamp
      exact hsubscription true hvalid hstamp
    · rename_i hstamp
      exact hsubscription false hvalid hstamp
    · unfold startPublication
      split
      · exact outcome_panicked htask hholds
      · exact outcome_fail htask hholds d.sent _
      · exact outcome_moveTo htask (mayEnter_of_holds hholds rfl rfl rfl)

theorem outcome_resumeSubscription (htask : d.streams[i]? = some task) {msg : ProtoMessage}
    (hphase : task.phase = .subscribing msg) {choices : Choices}
    (hevent : event = .advance i choices) :
    d.Outcome event (d.resumeSubscription i task msg choices.sendError) := by
  have hholds : task.phase.holds = true := by rw [hphase]; rfl
  have hreceives : d.Outcome event (d.moveTo i .receiving) :=
    outcome_moveTo htask (mayEnter_of_holds hholds rfl rfl rfl)
  have hresumed := Outcome.resumes i task htask msg hphase choices hevent
  unfold resumeSubscription
  rcases hstate : d.processor.tasks i with _ | ⟨content, conn, isLocal, add, forward⟩ |
    ⟨content, outConn, add⟩ | ⟨content, outConn, add⟩ | (e | ⟨⟩)
  all_goals rw [hstate] at hresumed
  · exact hreceives
  · exact hresumed rfl d.sent
  · simp only
    split
    · exact outcome_panicked htask hholds
    · exact hresumed rfl d.sent
    · exact hresumed rfl _
  · exact hresumed rfl d.sent
  · exact outcome_fail htask hholds d.sent _
  · exact hreceives

theorem outcome_resumePublication (htask : d.streams[i]? = some task)
    (hholds : task.phase.holds = true) (msg : ProtoMessage) (sendError : Option String)
    (outputs : List Nat) : d.Outcome event (d.resumePublication i task msg sendError outputs) := by
  unfold resumePublication
  split
  · exact outcome_panicked htask hholds
  · split
    · exact outcome_panicked htask hholds
    · split
      · exact outcome_fail htask hholds _ _
      · refine .moves i task htask _ ⟨rfl, rfl, rfl, rfl⟩ ?_
        apply mayEnter_of_holds hholds
        all_goals
          split
          · rfl
          · rfl

theorem outcome_restore (htask : d.streams[i]? = some task)
    {subscriptions : List SubscriptionInfo} (hphase : task.phase = .restoring subscriptions)
    (sendError : Option String) :
    d.Outcome event (d.restore i task sendError subscriptions) := by
  have hgone : ∀ {phase : StreamPhase}, phase.attends = false → phase.holds = false →
      phase.isSubscribing = false → phase.isReconnecting = false → MayEnter task phase := by
    intro phase hattends hholds hsubscribing hreconnecting
    refine ⟨?_, ?_, hsubscribing, fun htrue => ?_⟩
    · rw [hholds, hphase]
      rfl
    · rw [hattends, hphase]
      rfl
    · simp [hreconnecting] at htrue
  unfold restore
  split
  · exact outcome_moveTo htask (hgone rfl rfl rfl rfl)
  · split
    · exact outcome_moveTo htask (hgone rfl rfl rfl rfl)
    · exact outcome_moveTo htask (hgone rfl rfl rfl rfl)
    · exact .moves i task htask _ ⟨rfl, rfl, rfl, rfl⟩ (hgone rfl rfl rfl rfl)

theorem outcome_leave (htask : d.streams[i]? = some task) (hholds : task.phase.holds = true)
    (tryToReconnect : Bool) (choices : Choices) :
    d.Outcome event (d.leave i task tryToReconnect choices) := by
  unfold leave
  split
  · rename_i hcondition
    simp only [Bool.and_eq_true] at hcondition
    apply outcome_moveTo htask
    refine ⟨hholds.symm, (StreamPhase.attends_of_holds hholds).symm, rfl, fun _ => ?_⟩
    exact Or.inl hcondition.1.2
  · exact .drops i task htask hholds

theorem outcome_attempt (htask : d.streams[i]? = some task) {attempts : Nat}
    {subscriptions : List SubscriptionInfo}
    (hphase : task.phase = .reconnecting attempts subscriptions) (established : Bool) :
    d.Outcome event (d.attempt i task attempts subscriptions established) := by
  have hreconnecting : task.phase.isReconnecting = true := by rw [hphase]; rfl
  have hholds := StreamPhase.holds_of_isReconnecting hreconnecting
  have hleaves : d.Outcome event (d.moveTo i (.leaving false)) :=
    outcome_moveTo htask (mayEnter_of_holds hholds rfl rfl rfl)
  unfold attempt
  split
  · split
    · split
      · exact outcome_panicked htask hholds
      · exact hleaves
      · rename_i index f hplaced
        obtain rfl := (established_at hplaced).1
        exact .replaces i task htask hreconnecting f subscriptions hplaced
    · apply outcome_moveTo htask
      exact ⟨hholds.symm, (StreamPhase.attends_of_holds hholds).symm, rfl,
        fun _ => Or.inr hreconnecting⟩
  · exact hleaves

theorem outcome_advance (htask : d.streams[i]? = some task) {choices : Choices}
    (hevent : event = .advance i choices) :
    d.Outcome event (d.advance i task choices task.phase) := by
  have hsame : d.Outcome event d := .idle rfl rfl rfl rfl
  rcases hphase : task.phase with _ | msg | ⟨msg, outputs⟩ | error | tryToReconnect |
    ⟨attempts, subscriptions⟩ | subscriptions | _ | _ | _ | connected
  case receiving => exact hsame
  case subscribing => exact outcome_resumeSubscription htask hphase hevent
  case publishing =>
    apply outcome_resumePublication htask
    rw [hphase]
    rfl
  case notifying =>
    apply outcome_notify htask
    rw [hphase]
    rfl
  case leaving =>
    apply outcome_leave htask
    rw [hphase]
    rfl
  case reconnecting => exact outcome_attempt htask hphase choices.established
  case restoring => exact outcome_restore htask hphase choices.sendError
  case purgingSubscriptions => exact .purgesSubscriptions i task htask hphase choices.dropOrder
  case purgingRemote => exact .purgesRemote i task htask hphase
  case ended => exact hsame
  case panicked => exact hsame

theorem outcome_stop (htask : d.streams[i]? = some task) : d.Outcome event (d.stop i task) := by
  have hsame : d.Outcome event d := .idle rfl rfl rfl rfl
  have hleaves : task.phase.holds = true → d.Outcome event (d.moveTo i (.leaving false)) :=
    fun hholds => outcome_moveTo htask (mayEnter_of_holds hholds rfl rfl rfl)
  unfold stop
  split
  · split
    · rename_i hphase
      exact hleaves (by rw [hphase]; rfl)
    · rename_i hphase
      exact hleaves (by rw [hphase]; rfl)
    · exact hsame
  · exact hsame

end Steps

theorem outcome_step [NameHash] (d : DataPath) (event : DataPathEvent) :
    d.Outcome event (d.step event) := by
  have hsame : d.Outcome event d := .idle rfl rfl rfl rfl
  cases event with
  | openChannel => exact .opens ⟨.server, .Remote⟩ rfl false none (fun _ => rfl) (Or.inl rfl)
  | registerLocalConnection =>
      refine .opens ⟨.server, .Local⟩ rfl false (some d.nextToken) (fun hconfig => ?_) (Or.inr rfl)
      simp at hconfig
  | connect clientConfig =>
      exact .opens ⟨.client, .Remote⟩ rfl clientConfig (some d.nextToken) (fun _ => rfl)
        (Or.inr rfl)
  | disconnect conn =>
      simp only [step, disconnect]
      split
      · exact hsame
      · split
        · exact hsame
        · exact .idle rfl rfl rfl rfl
  | drain => exact .idle rfl rfl rfl rfl
  | receive i item choices =>
      simp only [step]
      split
      · rename_i task htask
        split
        · rename_i hphase
          have hholds : task.phase.holds = true := by rw [hphase]; rfl
          have hleaves : MayEnter task (.leaving true) := mayEnter_of_holds hholds rfl rfl rfl
          cases item with
          | message msg => exact outcome_handleNewMessage htask hphase rfl
          | failed => exact outcome_moveTo htask hleaves
          | closed => exact outcome_moveTo htask hleaves
        · exact hsame
      · exact hsame
  | stop i =>
      simp only [step]
      split
      · rename_i task htask
        exact outcome_stop htask
      · exact hsame
  | advance i choices =>
      simp only [step]
      split
      · rename_i task htask
        exact outcome_advance htask rfl
      · exact hsame

end DataPath

end Slim
