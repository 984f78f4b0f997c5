import Slim.StreamTasks

/-!
# Every connection has one task

The tasks that still have their connection and the connections in the table belong
together, one to one, in every run of a node.  So a task that handles a message finds its
own connection in the table, a task that drops a connection drops its own, and the token
that `disconnect` cancels stops the task of that connection and no other one.
-/

namespace Slim

/-! ## Custody of the connections -/

/-- What a task may do to the connection table: the connection it was started for, and
    whether it still has it. -/
structure Custody where
  connIndex : Nat
  isLocal : Bool
  clientConfig : Bool
  token : Nat
  holds : Bool
deriving DecidableEq, Repr

def Custody.release (custody : Custody) : Custody := { custody with holds := false }

def StreamTask.custody (task : StreamTask) : Custody where
  connIndex := task.connIndex
  isLocal := task.isLocal
  clientConfig := task.clientConfig
  token := task.token
  holds := task.phase.holds

namespace DataPath

def custodies (d : DataPath) : List Custody := d.streams.map StreamTask.custody

theorem getElem?_custodies (d : DataPath) (i : Nat) :
    d.custodies[i]? = d.streams[i]?.map StreamTask.custody :=
  List.getElem?_map

section Moves

variable {d : DataPath} {i : Nat} {task : StreamTask}

theorem getElem?_custody (htask : d.streams[i]? = some task) :
    d.custodies[i]? = some task.custody := by
  rw [getElem?_custodies, htask]
  rfl

/-- A task that keeps what it has, or that has nothing and gets nothing. -/
theorem custodies_moveTo (htask : d.streams[i]? = some task) {phase : StreamPhase}
    (hholds : phase.holds = task.phase.holds) : (d.moveTo i phase).custodies = d.custodies := by
  refine List.ext_getElem? fun j => ?_
  rw [getElem?_custodies, getElem?_custodies, moveTo, List.getElem?_modify]
  by_cases hij : i = j
  · subst hij
    simp only [htask, Option.map_eq_map, Option.map_some, if_true, StreamTask.custody, hholds]
  · simp only [hij, if_false, Option.map_eq_map, Option.map_map]
    rfl

/-- A task that gives its connection away. -/
theorem custodies_release (htask : d.streams[i]? = some task) {phase : StreamPhase}
    (hholds : phase.holds = false) :
    (d.moveTo i phase).custodies = d.custodies.modify i Custody.release := by
  refine List.ext_getElem? fun j => ?_
  rw [getElem?_custodies, List.getElem?_modify, getElem?_custodies, moveTo, List.getElem?_modify]
  by_cases hij : i = j
  · subst hij
    simp only [htask, Option.map_eq_map, Option.map_some, if_true, StreamTask.custody, hholds,
      Custody.release]
  · simp only [hij, if_false, Option.map_eq_map, Option.map_map]
    rfl

end Moves

/-! ## Every connection has one task -/

/-- The tasks that have a connection and the connections in the table belong together, one
    to one, and the token of a connection is that of its task. -/
structure Custodians (get : Nat → Option Connection) (tokens : Nat → Option Nat)
    (nextToken : Nat) (custodies : List Custody) : Prop where
  connected : ∀ {i : Nat} {custody : Custody}, custodies[i]? = some custody → custody.holds = true →
    ∃ connection, get custody.connIndex = some connection ∧
      connection.isLocalConnection = custody.isLocal
  unique : ∀ {i j : Nat} {custody other : Custody}, custodies[i]? = some custody →
    custodies[j]? = some other → custody.holds = true → other.holds = true →
    custody.connIndex = other.connIndex → i = j
  owned : ∀ {conn : Nat} {connection : Connection}, get conn = some connection →
    ∃ (i : Nat) (custody : Custody), custodies[i]? = some custody ∧ custody.holds = true ∧
      custody.connIndex = conn
  remote : ∀ {i : Nat} {custody : Custody}, custodies[i]? = some custody →
    custody.clientConfig = true → custody.isLocal = false
  token : ∀ {i : Nat} {custody : Custody}, custodies[i]? = some custody → custody.holds = true →
    tokens custody.connIndex = none ∨ tokens custody.connIndex = some custody.token
  fresh : ∀ {i : Nat} {custody : Custody}, custodies[i]? = some custody → custody.token < nextToken
  distinct : ∀ {i j : Nat} {custody other : Custody}, custodies[i]? = some custody →
    custodies[j]? = some other → custody.token = other.token → i = j

def Owned (d : DataPath) : Prop :=
  Custodians d.forwarder.getConnection d.tokens d.nextToken d.custodies

section Custodians

variable {get : Nat → Option Connection} {tokens : Nat → Option Nat} {nextToken : Nat}
  {custodies : List Custody}

/-- A task after another one, or the same one, has given its connection away. -/
theorem getElem?_release {i j : Nat} {left : Custody}
    (hleft : (custodies.modify i Custody.release)[j]? = some left) :
    ∃ custody, custodies[j]? = some custody ∧ left.connIndex = custody.connIndex ∧
      left.isLocal = custody.isLocal ∧ left.clientConfig = custody.clientConfig ∧
      left.token = custody.token ∧ (left.holds = true → custody.holds = true ∧ j ≠ i) := by
  rw [List.getElem?_modify] at hleft
  rcases hcustody : custodies[j]? with _ | custody
  · rw [hcustody] at hleft
    cases hleft
  · simp only [hcustody, Option.map_eq_map, Option.map_some, Option.some.injEq] at hleft
    subst hleft
    by_cases hij : i = j
    · simp only [hij, if_true]
      refine ⟨custody, rfl, rfl, rfl, rfl, rfl, fun hholds => ?_⟩
      simp [Custody.release] at hholds
    · simp only [hij, if_false]
      exact ⟨custody, rfl, rfl, rfl, rfl, rfl, fun hholds => ⟨hholds, Ne.symm hij⟩⟩

/-- A task drops the connection it has. -/
theorem Custodians.release (hall : Custodians get tokens nextToken custodies) {i : Nat}
    {custody : Custody} (hcustody : custodies[i]? = some custody)
    (hholds : custody.holds = true) :
    Custodians (fun conn => if conn = custody.connIndex then none else get conn) tokens nextToken
      (custodies.modify i Custody.release) where
  connected := by
    intro j left hleft hlholds
    obtain ⟨other, hother, hindex, hlocal, -, -, hstill⟩ := getElem?_release hleft
    obtain ⟨hoholds, hne⟩ := hstill hlholds
    obtain ⟨connection, hget, hsame⟩ := hall.connected hother hoholds
    -- another task has another connection
    have hapart : left.connIndex ≠ custody.connIndex := by
      rw [hindex]
      exact fun heq => hne (hall.unique hother hcustody hoholds hholds heq)
    exact ⟨connection, by rw [if_neg hapart, hindex, hget], by rw [hlocal, hsame]⟩
  unique := by
    intro j k left right hleft hright hlholds hrholds hindex
    obtain ⟨first, hfirst, hfindex, -, -, -, hfstill⟩ := getElem?_release hleft
    obtain ⟨second, hsecond, hsindex, -, -, -, hsstill⟩ := getElem?_release hright
    exact hall.unique hfirst hsecond (hfstill hlholds).1 (hsstill hrholds).1
      (by rw [← hfindex, ← hsindex, hindex])
  owned := by
    intro conn connection hget
    by_cases hconn : conn = custody.connIndex
    · rw [if_pos hconn] at hget
      cases hget
    · rw [if_neg hconn] at hget
      obtain ⟨j, other, hother, hoholds, rfl⟩ := hall.owned hget
      have hne : i ≠ j := by
        rintro rfl
        rw [hcustody, Option.some.injEq] at hother
        exact hconn (congrArg Custody.connIndex hother.symm)
      refine ⟨j, other, ?_, hoholds, rfl⟩
      rw [List.getElem?_modify, hother]
      simp [hne]
  remote := by
    intro j left hleft hconfig
    obtain ⟨other, hother, -, hlocal, hsame, -⟩ := getElem?_release hleft
    rw [hlocal]
    exact hall.remote hother (hsame ▸ hconfig)
  token := by
    intro j left hleft hlholds
    obtain ⟨other, hother, hindex, -, -, htoken, hstill⟩ := getElem?_release hleft
    rw [hindex, htoken]
    exact hall.token hother (hstill hlholds).1
  fresh := by
    intro j left hleft
    obtain ⟨other, hother, -, -, -, htoken, -⟩ := getElem?_release hleft
    rw [htoken]
    exact hall.fresh hother
  distinct := by
    intro j k left right hleft hright htoken
    obtain ⟨first, hfirst, -, -, -, hftoken, -⟩ := getElem?_release hleft
    obtain ⟨second, hsecond, -, -, -, hstoken, -⟩ := getElem?_release hright
    exact hall.distinct hfirst hsecond (by rw [← hftoken, ← hstoken, htoken])

/-- An entry of an extended list is an old one or the new one. -/
theorem getElem?_concat {α : Type} {old : List α} {new other : α} {i : Nat}
    (hother : (old ++ [new])[i]? = some other) :
    old[i]? = some other ∨ i = old.length ∧ other = new := by
  rcases Nat.lt_or_ge i old.length with hlt | hge
  · rw [List.getElem?_append_left hlt] at hother
    exact Or.inl hother
  · rw [List.getElem?_append_right hge] at hother
    rw [List.getElem?_singleton] at hother
    split at hother
    · cases hother
      exact Or.inr ⟨by omega, rfl⟩
    · cases hother

/-- A connection at a free index gets a task and a token of its own. -/
theorem Custodians.append (hall : Custodians get tokens nextToken custodies) (custody : Custody)
    {connection : Connection} {token : Option Nat} (hfree : get custody.connIndex = none)
    (hlocal : connection.isLocalConnection = custody.isLocal)
    (hconfig : custody.clientConfig = true → custody.isLocal = false)
    (hfresh : custody.token = nextToken) (hholds : custody.holds = true)
    (htoken : token = none ∨ token = some custody.token) :
    Custodians (fun conn => if conn = custody.connIndex then some connection else get conn)
      (Function.update tokens custody.connIndex token) (nextToken + 1)
      (custodies ++ [custody]) := by
  have hapart : ∀ {i : Nat} {other : Custody}, custodies[i]? = some other → other.holds = true →
      other.connIndex ≠ custody.connIndex := by
    intro i other hother hoholds hindex
    obtain ⟨found, hget, -⟩ := hall.connected hother hoholds
    rw [hindex, hfree] at hget
    cases hget
  have hbefore : ∀ {i : Nat} {other : Custody}, custodies[i]? = some other →
      other.token ≠ custody.token := by
    intro i other hother htoken
    have hlt := hall.fresh hother
    omega
  constructor
  case connected =>
    intro i other hother hoholds
    rcases getElem?_concat hother with hold | ⟨-, rfl⟩
    · rw [if_neg (hapart hold hoholds)]
      exact hall.connected hold hoholds
    · exact ⟨connection, if_pos rfl, hlocal⟩
  case unique =>
    intro i j first second hfirst hsecond hfholds hsholds hindex
    rcases getElem?_concat hfirst with hfold | ⟨hi, rfl⟩
    · rcases getElem?_concat hsecond with hsold | ⟨-, rfl⟩
      · exact hall.unique hfold hsold hfholds hsholds hindex
      · exact absurd hindex (hapart hfold hfholds)
    · rcases getElem?_concat hsecond with hsold | ⟨hj, rfl⟩
      · exact absurd hindex.symm (hapart hsold hsholds)
      · rw [hi, hj]
  case owned =>
    intro conn found hget
    by_cases hconn : conn = custody.connIndex
    · refine ⟨custodies.length, custody, ?_, hholds, hconn.symm⟩
      simp
    · rw [if_neg hconn] at hget
      obtain ⟨i, other, hother, hoholds, hindex⟩ := hall.owned hget
      refine ⟨i, other, ?_, hoholds, hindex⟩
      rw [List.getElem?_append_left (List.getElem?_eq_some_iff.1 hother).1, hother]
  case remote =>
    intro i other hother hoconfig
    rcases getElem?_concat hother with hold | ⟨-, rfl⟩
    · exact hall.remote hold hoconfig
    · exact hconfig hoconfig
  case token =>
    intro i other hother hoholds
    rcases getElem?_concat hother with hold | ⟨-, rfl⟩
    · rw [Function.update_of_ne (hapart hold hoholds)]
      exact hall.token hold hoholds
    · rw [Function.update_self]
      exact htoken
  case fresh =>
    intro i other hother
    rcases getElem?_concat hother with hold | ⟨-, rfl⟩
    · exact Nat.lt_succ_of_lt (hall.fresh hold)
    · rw [hfresh]
      exact Nat.lt_succ_self nextToken
  case distinct =>
    intro i j first second hfirst hsecond htokens
    rcases getElem?_concat hfirst with hfold | ⟨hi, rfl⟩
    · rcases getElem?_concat hsecond with hsold | ⟨-, rfl⟩
      · exact hall.distinct hfold hsold htokens
      · exact absurd htokens (hbefore hfold)
    · rcases getElem?_concat hsecond with hsold | ⟨hj, rfl⟩
      · exact absurd htokens.symm (hbefore hsold)
      · rw [hi, hj]

end Custodians

theorem owned_new : new.Owned := by
  have hnone : ∀ conn, new.forwarder.getConnection conn = none := by
    intro conn
    simp only [forwarder, new, MessageProcessor.new, Forwarder.new, Forwarder.getConnection,
      Pool.get, Pool.withCapacity, List.getElem?_replicate]
    split
    · rfl
    · rfl
  have hempty : ∀ {i : Nat} {custody : Custody}, new.custodies[i]? ≠ some custody := by
    intro i custody hcustody
    cases hcustody
  constructor
  case owned =>
    intro conn connection hget
    rw [hnone] at hget
    cases hget
  case unique => exact fun hcustody => absurd hcustody hempty
  case distinct => exact fun hcustody => absurd hcustody hempty
  all_goals exact fun hcustody => absurd hcustody hempty

section Steps

variable {d e : DataPath}

theorem custodies_processStream (d : DataPath) (connIndex : Nat) (isLocal clientConfig : Bool)
    (token : Option Nat) :
    (d.processStream connIndex isLocal clientConfig token).custodies =
      d.custodies ++ [⟨connIndex, isLocal, clientConfig, d.nextToken, true⟩] := by
  simp only [custodies, processStream, List.map_append, List.map_cons, List.map_nil]
  rfl

theorem Owned.opens (hd : d.Owned) {connection : Connection} {clientConfig : Bool}
    {token : Option Nat} (hconfig : clientConfig = true → connection.isLocalConnection = false)
    (htoken : token = none ∨ token = some d.nextToken) :
    Owned ((d.withForwarder (insertConnection d.forwarder connection)).processStream
      (d.forwarder.connectionTable.insert connection).2 connection.isLocalConnection
      clientConfig token) := by
  have hget : (insertConnection d.forwarder connection).getConnection = fun conn =>
      if conn = (d.forwarder.connectionTable.insert connection).2 then some connection
        else d.forwarder.getConnection conn :=
    funext fun conn => Pool.get_insert _ _ conn
  unfold Owned
  rw [custodies_processStream]
  change Custodians (insertConnection d.forwarder connection).getConnection _ _ _
  rw [hget]
  exact Custodians.append hd ⟨_, _, clientConfig, d.nextToken, true⟩
    (Pool.get_insert_index _ connection) rfl hconfig rfl rfl htoken

theorem Owned.dropConnection (hd : d.Owned) {i : Nat} {task : StreamTask}
    (htask : d.streams[i]? = some task) (hholds : task.phase.holds = true) :
    (d.dropConnection i task).Owned := by
  have hcustody := getElem?_custody htask
  have hget : (d.dropConnection i task).forwarder.getConnection = fun conn =>
      if conn = task.connIndex then none else d.forwarder.getConnection conn :=
    funext fun conn => Pool.get_remove _ _ conn
  have hcustodies : (d.dropConnection i task).custodies = d.custodies.modify i Custody.release :=
    custodies_release htask rfl
  unfold Owned
  rw [hget, hcustodies]
  exact Custodians.release hd hcustody hholds

/-- The connection is taken from one task and given to another. -/
theorem Owned.replaces (hd : d.Owned) {i : Nat} {task : StreamTask} {f : Forwarder Connection}
    {subscriptions : List SubscriptionInfo} (htask : d.streams[i]? = some task)
    (hholds : task.phase.holds = true)
    (hplaced : d.forwarder.onConnectionEstablished ⟨.client, .Remote⟩ (some task.connIndex) =
      .ok (some task.connIndex, f)) :
    Owned (((d.withForwarder f).moveTo i (.restoring subscriptions)).processStream
      task.connIndex false true (some d.nextToken)) := by
  have hcustody := getElem?_custody htask
  obtain ⟨-, -, -, hget⟩ := established_at hplaced
  have hcustodies : ((d.withForwarder f).moveTo i (.restoring subscriptions)).custodies =
      d.custodies.modify i Custody.release :=
    custodies_release (show (d.withForwarder f).streams[i]? = some task from htask) rfl
  have hboth : f.getConnection = fun conn => if conn = task.connIndex then
      some ⟨.client, .Remote⟩ else if conn = task.connIndex then none
        else d.forwarder.getConnection conn := by
    funext conn
    rw [hget]
    by_cases hconn : conn = task.connIndex
    · rw [if_pos hconn, if_pos hconn]
    · rw [if_neg hconn, if_neg hconn, if_neg hconn]
  unfold Owned
  rw [custodies_processStream, hcustodies]
  change Custodians f.getConnection _ _ _
  rw [hboth]
  exact Custodians.append (Custodians.release hd hcustody hholds)
    ⟨task.connIndex, false, true, d.nextToken, true⟩ (if_pos rfl) rfl (fun _ => rfl) rfl rfl
    (Or.inr rfl)

theorem findConnection_forwarder (s : MessageProcessor) (i : Nat) (msg : SubscriptionMessage)
    (add : Bool) : (s.findConnection i msg add).forwarder = s.forwarder := by
  unfold MessageProcessor.findConnection
  split
  · rfl
  · split
    · rfl
    · rfl

/-- What a step of `process_subscription` does to the tables, and that the step after it is
    another one. -/
theorem advance_cases (s : MessageProcessor) (i : Nat) (sendError : Option String) :
    (s.step (.advance i sendError)).forwarder.connectionTable = s.forwarder.connectionTable ∧
    (∀ content conn isLocal add forward, (s.step (.advance i sendError)).tasks i ≠
      .update content conn isLocal add forward) ∧
    ((s.step (.advance i sendError)).forwarder.subscriptionTable = s.forwarder.subscriptionTable ∨
      ∃ content conn isLocal add forward, s.tasks i = .update content conn isLocal add forward ∧
        (s.step (.advance i sendError)).forwarder.subscriptionTable =
          (s.forwarder.onSubscriptionMsg content.agentType content.agentId conn isLocal
            add).2.subscriptionTable) := by
  simp only [MessageProcessor.step]
  rcases hstate : s.tasks i with _ | ⟨msg, conn, isLocal, add, forward⟩ | ⟨msg, outConn, add⟩ |
    ⟨msg, outConn, add⟩ | result
  · exact ⟨rfl, by simp [MessageProcessor.resume, hstate], Or.inl rfl⟩
  · rcases hupdate : s.forwarder.onSubscriptionMsg msg.agentType msg.agentId conn isLocal add with
      ⟨e | ⟨⟩, f⟩
    all_goals
      have hframe := (Forwarder.onSubscriptionMsg_frame hupdate).1
      rcases forward with _ | outConn
    all_goals
      simp only [MessageProcessor.resume, hupdate]
      refine ⟨hframe, by simp [MessageProcessor.moveTo],
        Or.inr ⟨msg, conn, isLocal, add, _, rfl, ?_⟩⟩
      rw [hupdate]
      rfl
  · simp only [MessageProcessor.resume]
    split
    all_goals exact ⟨rfl, by simp [MessageProcessor.moveTo], Or.inl rfl⟩
  · exact ⟨rfl, by simp [MessageProcessor.resume, MessageProcessor.moveTo], Or.inl rfl⟩
  · exact ⟨rfl, by simp [MessageProcessor.resume, hstate], Or.inl rfl⟩

/-- Steps that leave the connections and those who have them alone. -/
theorem Owned.keeps (hd : d.Owned)
    (hconns : e.forwarder.connectionTable = d.forwarder.connectionTable)
    (htokens : e.tokens = d.tokens) (hnext : e.nextToken = d.nextToken)
    (hcustodies : e.custodies = d.custodies) : e.Owned := by
  have hget : e.forwarder.getConnection = d.forwarder.getConnection := by
    funext conn
    rw [Forwarder.getConnection, Forwarder.getConnection, hconns]
  unfold Owned
  rw [hget, htokens, hnext, hcustodies]
  exact hd

theorem Owned.outcome [NameHash] (hd : d.Owned) {event : DataPathEvent}
    (hstep : d.Outcome event e) : e.Owned := by
  rcases hstep with ⟨hprocessor, htokens, hnext, hstreams⟩ |
    ⟨i, task, htask, phase, hmoved, hphase⟩ |
    ⟨i, task, htask, hphase, received, msg, choices, hevent, hvalid, messageType, hstamp, content,
      connections, hread, add⟩ | ⟨i, task, htask, msg, hphase, choices, hevent, hbusy, sent⟩ |
    ⟨connection, hevent, clientConfig, token, hconfig, htoken⟩ | ⟨i, task, htask, hholds⟩ |
    ⟨i, task, htask, hphase, order⟩ | ⟨i, task, htask, hphase⟩ |
    ⟨i, task, htask, hphase, f, subscriptions, hplaced⟩
  case idle =>
    apply hd.keeps _ htokens hnext
    · rw [custodies, hstreams]
      rfl
    · rw [forwarder, hprocessor]
      rfl
  case moves =>
    apply hd.keeps _ hmoved.tokens hmoved.nextToken
    · rw [custodies, hmoved.streams]
      exact custodies_moveTo htask hphase.holds
    · rw [forwarder, hmoved.processor]
      rfl
  case starts =>
    refine hd.keeps (congrArg Forwarder.connectionTable (findConnection_forwarder _ _ _ _)) rfl rfl
      ?_
    apply custodies_moveTo (d := d) htask
    rw [hphase]
    rfl
  case resumes => exact hd.keeps (advance_cases d.processor i _).1 rfl rfl rfl
  case opens => exact hd.opens hconfig htoken
  case drops => exact hd.dropConnection htask hholds
  case purgesSubscriptions =>
    refine hd.keeps rfl rfl rfl ?_
    apply custodies_moveTo (d := d) htask
    rw [hphase]
    rfl
  case purgesRemote =>
    refine hd.keeps rfl rfl rfl ?_
    apply custodies_moveTo (d := d) htask
    rw [hphase]
    rfl
  case replaces =>
    exact hd.replaces htask (StreamPhase.holds_of_isReconnecting hphase) hplaced

theorem owned_run [NameHash] (events : List DataPathEvent) : (Runs.run step new events).Owned := by
  have halong : Runs.Along step (fun _ _ => True) new events :=
    Runs.along_of_forall events new fun _ _ => trivial
  apply Runs.run_invariant (I := Owned) _ events new halong owned_new
  intro d event hd _
  exact hd.outcome (outcome_step d event)

end Steps

/-! ## Results -/

section Results

variable {d : DataPath} {i j : Nat} {task other : StreamTask}

theorem Owned.connectedAs (hd : d.Owned)
    (htask : d.streams[i]? = some task) (hholds : task.phase.holds = true) :
    d.forwarder.ConnectedAs task.connIndex task.isLocal :=
  Custodians.connected hd (getElem?_custody htask) hholds

theorem Owned.eq_of_connIndex (hd : d.Owned)
    (htask : d.streams[i]? = some task) (hother : d.streams[j]? = some other)
    (hholds : task.phase.holds = true) (hoholds : other.phase.holds = true)
    (hindex : task.connIndex = other.connIndex) : i = j := by
  apply Custodians.unique hd (getElem?_custody htask) (getElem?_custody hother)
  · exact hholds
  · exact hoholds
  · exact hindex

theorem Owned.exists_task (hd : d.Owned) {conn : Nat} {connection : Connection}
    (hget : d.forwarder.getConnection conn = some connection) :
    ∃ (i : Nat) (task : StreamTask), d.streams[i]? = some task ∧ task.phase.holds = true ∧
      task.connIndex = conn := by
  obtain ⟨i, custody, hcustody, hholds, hindex⟩ := Custodians.owned hd hget
  rw [getElem?_custodies, Option.map_eq_some_iff] at hcustody
  obtain ⟨task, htask, rfl⟩ := hcustody
  exact ⟨i, task, htask, hholds, hindex⟩

/-- The token of a connection is that of the task which has the connection. -/
theorem Owned.token_eq (hd : d.Owned) {token : Nat}
    (htask : d.streams[i]? = some task) (hholds : task.phase.holds = true)
    (htoken : d.tokens task.connIndex = some token) : token = task.token := by
  rcases Custodians.token hd (getElem?_custody htask) hholds with hnone | hsome
  · simp [StreamTask.custody, htoken] at hnone
  · simpa [StreamTask.custody, htoken] using hsome

/-- No other task has that token. -/
theorem Owned.token_eq_iff (hd : d.Owned) (htask : d.streams[i]? = some task)
    (hother : d.streams[j]? = some other) (hholds : other.phase.holds = true) :
    task.token = other.token ↔ task.phase.holds = true ∧ task.connIndex = other.connIndex := by
  constructor
  · intro htoken
    obtain rfl : i = j :=
      Custodians.distinct hd (getElem?_custody htask) (getElem?_custody hother) htoken
    rw [htask, Option.some.injEq] at hother
    subst hother
    exact ⟨hholds, rfl⟩
  · rintro ⟨htholds, hindex⟩
    obtain rfl := hd.eq_of_connIndex htask hother htholds hholds hindex
    rw [htask, Option.some.injEq] at hother
    rw [hother]

end Results

/-- In every run of a node, an index has a connection exactly if one task has it, and a
    task that has a connection was started with the locality of that connection. -/
theorem connections_owned [NameHash] (events : List DataPathEvent) :
    let d := Runs.run step new events
    (∀ conn, (∃ connection, d.forwarder.getConnection conn = some connection) ↔
      ∃! i : Nat, ∃ task : StreamTask, d.streams[i]? = some task ∧ task.phase.holds = true ∧
        task.connIndex = conn) ∧
    ∀ (i : Nat) (task : StreamTask), d.streams[i]? = some task → task.phase.holds = true →
      d.forwarder.ConnectedAs task.connIndex task.isLocal := by
  intro d
  have hd : d.Owned := owned_run events
  refine ⟨fun conn => ⟨?_, ?_⟩, fun i task htask hholds => hd.connectedAs htask hholds⟩
  · rintro ⟨connection, hget⟩
    obtain ⟨i, task, htask, hholds, hindex⟩ := hd.exists_task hget
    refine ⟨i, ⟨task, htask, hholds, hindex⟩, ?_⟩
    rintro j ⟨other, hother, hoholds, hoindex⟩
    exact hd.eq_of_connIndex hother htask hoholds hholds (hoindex.trans hindex.symm)
  · rintro ⟨i, ⟨task, htask, hholds, rfl⟩, -⟩
    obtain ⟨connection, hget, -⟩ := hd.connectedAs htask hholds
    exact ⟨connection, hget⟩

/-- `disconnect` succeeds exactly if the connection is there.  If the connection has a token, it
    tells the task that has the connection to stop, and no other task, whatever the index was
    used for before; a connection without a token keeps its task. -/
theorem disconnect_tells_owner [NameHash] (events : List DataPathEvent) (conn : Nat) :
    let d := Runs.run step new events
    ((d.disconnect conn).1 = .ok () ↔ ∃ connection, d.forwarder.getConnection conn =
      some connection) ∧
    ∀ (i : Nat) (task : StreamTask), d.streams[i]? = some task →
      ((d.disconnect conn).2.told task = true ↔ d.told task = true ∨
        task.phase.holds = true ∧ task.connIndex = conn ∧ d.tokens conn ≠ none) := by
  intro d
  have hd : d.Owned := owned_run events
  unfold disconnect
  rcases hget : d.forwarder.getConnection conn with _ | connection
  · refine ⟨by simp, fun i task htask => ?_⟩
    have hfree : ¬ (task.phase.holds = true ∧ task.connIndex = conn ∧ d.tokens conn ≠ none) := by
      rintro ⟨hholds, rfl, -⟩
      obtain ⟨connection, hsome, -⟩ := hd.connectedAs htask hholds
      rw [hget] at hsome
      cases hsome
    simp [hfree]
  obtain ⟨j, owner, howner, hholds, rfl⟩ := hd.exists_task hget
  rcases htoken : d.tokens owner.connIndex with _ | token
  · simp
  · refine ⟨by simp, fun i task htask => ?_⟩
    obtain rfl := hd.token_eq howner hholds htoken
    simp only [told, List.contains_cons, Bool.or_eq_true, beq_iff_eq, ne_eq, reduceCtorEq,
      not_false_eq_true, and_true, hd.token_eq_iff htask howner hholds]
    tauto

end DataPath

end Slim
