import Slim.StreamShutdown

/-!
# No route without a task that attends to it

A subscription of a message that names no other connection is added for the connection of
the task that handles it.  That task is busy and so does not drop the connection before the
subscription is in the table.  When it drops the connection later, it takes the routes of
the index away.  So routes outlive their connection only where another task is involved:
a message names a connection that is not its own, an unsubscription takes away what another
subscription has put into the table, or the index is given to a new connection while its
old routes are still there.  Without these three, in every interleaving of the tasks, every
route leads to a connection that is in the table, or that is just being dropped.
-/

namespace Slim

open HashKey
open SubscriptionTableImpl (agentOf)

namespace DataPath

/-! ## The conditions on a run -/

/-- The conditions on a step.  A message names no connection to be handled for but that of its
    task; an unsubscription is not stray; a new connection does not get an index whose routes are
    still to be taken away. -/
def Proper (d : DataPath) : DataPathEvent → Prop
  | .receive i (.message msg) _ => ∀ task header, d.streams[i]? = some task →
      msg.tryGetSlimHeader = some header → ∀ conn ∈ header.recvFrom, conn = task.connIndex
  | .advance i _ => ∀ content conn isLocal forward,
      d.processor.tasks i = .update content conn isLocal false forward →
      ¬ d.forwarder.subscriptionTable.Stray (agentOf content.agentType content.agentId) conn
        isLocal
  | event => ∀ connection, event.connection = some connection →
      ∀ task ∈ d.streams, task.phase = .purgingSubscriptions →
        task.connIndex ≠ (d.forwarder.connectionTable.insert connection).2

/-- Every route has a task that will take it away, and an index has one such task at most.
    A task that has looked a connection up has found its own. -/
structure Guarded (d : DataPath) : Prop where
  owned : d.Owned
  configured : ∀ {i : Nat} {task : StreamTask}, d.streams[i]? = some task →
    task.phase.isReconnecting = true → task.clientConfig = true
  found : ∀ {i : Nat} {task : StreamTask}, d.streams[i]? = some task →
    task.phase.isSubscribing = true → ∀ {content conn isLocal add forward},
    d.processor.tasks i = .update content conn isLocal add forward →
    conn = task.connIndex ∧ isLocal = task.isLocal
  alone : ∀ {i j : Nat} {task other : StreamTask}, d.streams[i]? = some task →
    d.streams[j]? = some other → task.phase.attends = true → other.phase.attends = true →
    task.connIndex = other.connIndex → i = j
  consistent : d.forwarder.subscriptionTable.Consistent
  attended : ∀ {agent side conn}, conn ∈ d.forwarder.subscriptionTable.table.conns agent side →
    ∃ (i : Nat) (task : StreamTask), d.streams[i]? = some task ∧ task.phase.attends = true ∧
      task.connIndex = conn ∧ side = sideIndex task.isLocal

theorem guarded_new : new.Guarded where
  owned := owned_new
  configured := fun htask => by simp [new] at htask
  found := fun htask => by simp [new] at htask
  alone := fun htask => by simp [new] at htask
  consistent := SubscriptionTableImpl.consistent_default
  attended := fun hmem => by cases hmem

/-! ## Tasks that move on -/

section Tasks

variable {d e : DataPath} {i : Nat} {task : StreamTask} {phase : StreamPhase}

/-- A connection is routed on the side of its task only. -/
theorem Guarded.listedOn (hd : d.Guarded) (htask : d.streams[i]? = some task)
    (hattends : task.phase.attends = true) :
    d.forwarder.subscriptionTable.table.ListedOn task.connIndex (sideIndex task.isLocal) := by
  intro agent side hmem
  obtain ⟨j, other, hother, hoattends, hindex, rfl⟩ := hd.attended hmem
  obtain rfl := hd.alone htask hother hattends hoattends hindex.symm
  rw [htask, Option.some.injEq] at hother
  rw [hother]

/-- A task moves on.  It attends to the routes as before, and the routes are as before, or
    the task attends to the new ones. -/
theorem Guarded.moves (hd : d.Guarded) (he : e.Owned) (htask : d.streams[i]? = some task)
    (hstreams : e.streams = (d.moveTo i phase).streams)
    (hattends : phase.attends = task.phase.attends)
    (hreconnecting : phase.isReconnecting = true →
      task.clientConfig = true ∨ task.phase.isReconnecting = true)
    (htasks : ∀ j, j ≠ i → e.processor.tasks j = d.processor.tasks j)
    (hfound : phase.isSubscribing = true → ∀ {content conn isLocal add forward},
      e.processor.tasks i = .update content conn isLocal add forward →
      conn = task.connIndex ∧ isLocal = task.isLocal)
    (hconsistent : e.forwarder.subscriptionTable.Consistent)
    (hlisted : ∀ {agent side conn},
      conn ∈ e.forwarder.subscriptionTable.table.conns agent side →
      conn ∈ d.forwarder.subscriptionTable.table.conns agent side ∨
        task.phase.attends = true ∧ conn = task.connIndex ∧ side = sideIndex task.isLocal) :
    e.Guarded where
  owned := he
  configured := by
    intro j left hleft hphase
    rw [hstreams] at hleft
    rcases getElem?_moveTo htask hleft with ⟨-, hother⟩ | ⟨rfl, rfl⟩
    · exact hd.configured hother hphase
    · rcases hreconnecting hphase with hconfig | hbefore
      · exact hconfig
      · have hconfig := hd.configured htask hbefore
        exact hconfig
  found := by
    intro j left hleft hphase content conn isLocal add forward hstate
    rw [hstreams] at hleft
    rcases getElem?_moveTo htask hleft with ⟨hne, hother⟩ | ⟨rfl, rfl⟩
    · rw [htasks j hne] at hstate
      exact hd.found hother hphase hstate
    · exact hfound hphase hstate
  alone := by
    have hbefore : ∀ {j : Nat} {left : StreamTask}, e.streams[j]? = some left →
        ∃ other, d.streams[j]? = some other ∧ left.connIndex = other.connIndex ∧
          left.phase.attends = other.phase.attends := by
      intro j left hleft
      rw [hstreams] at hleft
      rcases getElem?_moveTo htask hleft with ⟨-, hother⟩ | ⟨rfl, rfl⟩
      · exact ⟨left, hother, rfl, rfl⟩
      · exact ⟨task, htask, rfl, hattends⟩
    intro j k left right hleft hright hlattends hrattends hindex
    obtain ⟨first, hfirst, hfindex, hfattends⟩ := hbefore hleft
    obtain ⟨second, hsecond, hsindex, hsattends⟩ := hbefore hright
    apply hd.alone hfirst hsecond
    · rw [← hfattends, hlattends]
    · rw [← hsattends, hrattends]
    · rw [← hfindex, ← hsindex, hindex]
  consistent := hconsistent
  attended := by
    have hmoved : e.streams[i]? = some { task with phase := phase } := by
      rw [hstreams]
      exact getElem?_moveTo_self htask
    intro agent side conn hmem
    rcases hlisted hmem with hold | ⟨hown, rfl, hside⟩
    · obtain ⟨j, other, hother, hoattends, hindex, hside⟩ := hd.attended hold
      by_cases hne : j = i
      · subst hne
        rw [htask, Option.some.injEq] at hother
        subst hother
        exact ⟨j, _, hmoved, hattends.trans hoattends, hindex, hside⟩
      · refine ⟨j, other, ?_, hoattends, hindex, hside⟩
        rw [hstreams, getElem?_moveTo_of_ne hne]
        exact hother
    · exact ⟨i, _, hmoved, hattends.trans hown, rfl, hside⟩

/-! ### The handling of a subscription -/

/-- A message that names no other connection is handled for the one it came from. -/
theorem own_connection [NameHash] {received msg : ProtoMessage} {connIndex : Nat}
    {messageType : MessageType} {content : SubscriptionMessage} {connections : Nat × Option Nat}
    (hvalid : received.validate = .ok ())
    (hown : ∀ header, received.tryGetSlimHeader = some header →
      ∀ conn ∈ header.recvFrom, conn = connIndex)
    (hstamp : stamp received connIndex = .ok (msg, messageType))
    (hread : readSubscription msg = .ok (content, connections)) :
    ∃ forward, content.header.getInOutConnections = some (connIndex, forward) := by
  obtain ⟨header, source, destination, hheader, -⟩ := ProtoMessage.validate_ok_iff.1 hvalid
  obtain ⟨stamped, hset, hrest⟩ := Machine.bind_eq_ok hstamp
  obtain ⟨⟨⟩, -, hrest⟩ := Machine.bind_eq_ok hrest
  obtain ⟨kind, -, hrest⟩ := Machine.bind_eq_ok hrest
  cases hrest
  rw [ProtoMessage.setIncomingConn, ProtoMessage.modifySlimHeader_of_some _ hheader,
    Except.ok.injEq] at hset
  subst hset
  obtain ⟨name, -, hread⟩ := Machine.bind_eq_ok hread
  obtain ⟨found, hfound, hread⟩ := Machine.bind_eq_ok hread
  obtain ⟨inOut, -, hread⟩ := Machine.bind_eq_ok hread
  obtain ⟨agent, -, hread⟩ := Machine.bind_eq_ok hread
  cases hread
  rw [ProtoMessage.getSlimHeader_of_some (ProtoMessage.tryGetSlimHeader_withHeader hheader _),
    Except.ok.injEq] at hfound
  subst hfound
  simp only [SlimHeader.getInOutConnections]
  cases hrecv : header.recvFrom with
  | some conn => exact ⟨none, by rw [hown header hheader conn hrecv]⟩
  | none =>
      refine ⟨header.forwardTo, ?_⟩
      cases header.forwardTo with
      | none => rfl
      | some outConn => rfl

theorem tasks_findConnection_of_ne (s : MessageProcessor) (content : SubscriptionMessage)
    (add : Bool) {j : Nat} (hne : j ≠ i) :
    (s.findConnection i content add).tasks j = s.tasks j := by
  unfold MessageProcessor.findConnection
  split
  · rfl
  · split
    · simp [MessageProcessor.moveTo, Function.update_of_ne hne]
    · simp [MessageProcessor.moveTo, Function.update_of_ne hne]

/-- The task has looked its own connection up. -/
theorem Guarded.starts (hd : d.Guarded) (htask : d.streams[i]? = some task)
    (hphase : task.phase = .receiving) {content : SubscriptionMessage} {forward : Option Nat}
    (hown : content.header.getInOutConnections = some (task.connIndex, forward)) (add : Bool)
    (msg : ProtoMessage)
    (he : ({ d with processor := d.processor.findConnection i content add }.moveTo i
      (.subscribing msg)).Owned) :
    ({ d with processor := d.processor.findConnection i content add }.moveTo i
      (.subscribing msg)).Guarded := by
  have hforwarder : (d.processor.findConnection i content add).forwarder = d.forwarder :=
    findConnection_forwarder _ _ _ _
  have hholds : task.phase.holds = true := by rw [hphase]; rfl
  obtain ⟨connection, hget, hlocal⟩ := hd.owned.connectedAs htask hholds
  refine hd.moves he htask rfl (by rw [hphase]; rfl) (by simp [StreamPhase.isReconnecting])
    (fun j hne => tasks_findConnection_of_ne _ _ _ hne) ?_ ?_ ?_
  · intro _ content' conn isLocal add' forward' hstate
    have hfound : (d.processor.findConnection i content add).tasks i =
        .update content task.connIndex connection.isLocalConnection add forward := by
      unfold MessageProcessor.findConnection
      simp only [hown, show d.processor.forwarder.getConnection task.connIndex = some connection
        from hget, MessageProcessor.moveTo, Function.update_self]
    change (d.processor.findConnection i content add).tasks i = _ at hstate
    rw [hfound] at hstate
    cases hstate
    exact ⟨rfl, hlocal⟩
  · change (d.processor.findConnection i content add).forwarder.subscriptionTable.Consistent
    rw [hforwarder]
    exact hd.consistent
  · intro agent side conn hmem
    change conn ∈ (d.processor.findConnection i content
      add).forwarder.subscriptionTable.table.conns agent side at hmem
    rw [hforwarder] at hmem
    exact Or.inl hmem

/-- The task updates the table for its own connection, or leaves the table alone. -/
theorem Guarded.resumes [NameHash] (hd : d.Guarded) (htask : d.streams[i]? = some task)
    {msg : ProtoMessage} (hphase : task.phase = .subscribing msg) {choices : Choices}
    (hproper : d.Proper (.advance i choices)) (hbusy : (d.processor.tasks i).isFinished = false)
    {sent : List (Nat × ProtoMessage)}
    (he : Owned { d with
      processor := d.processor.step (.advance i choices.sendError), sent := sent }) :
    Guarded { d with
      processor := d.processor.step (.advance i choices.sendError), sent := sent } := by
  have hattends : task.phase.attends = true := by rw [hphase]; rfl
  obtain ⟨-, hleft, htable⟩ := advance_cases d.processor i choices.sendError
  refine hd.moves he htask (moveTo_phase htask).symm rfl Or.inr
    (work_resume d.processor i choices.sendError hbusy).2
    (fun _ _ _ _ _ _ hstate => absurd hstate (hleft _ _ _ _ _)) ?_ ?_
  · change (d.processor.step (.advance i choices.sendError)).forwarder.subscriptionTable.Consistent
    rcases htable with hsame | ⟨content, conn, isLocal, add, forward, hstate, hnew⟩
    · rw [hsame]
      exact hd.consistent
    · rw [hnew]
      obtain ⟨rfl, rfl⟩ := hd.found htask (by rw [hphase]; rfl) hstate
      cases add with
      | true =>
          exact hd.consistent.addSubscription _ _ _ _ (hd.listedOn htask hattends)
      | false =>
          exact hd.consistent.removeSubscription_of_not_stray _ _ _ _
            (hproper content _ _ forward hstate)
  · intro agent side other hmem
    change other ∈ (d.processor.step (.advance i
      choices.sendError)).forwarder.subscriptionTable.table.conns agent side at hmem
    rcases htable with hsame | ⟨content, conn, isLocal, add, forward, hstate, hnew⟩
    · rw [hsame] at hmem
      exact Or.inl hmem
    · rw [hnew] at hmem
      obtain ⟨rfl, rfl⟩ := hd.found htask (by rw [hphase]; rfl) hstate
      cases add with
      | true =>
          rcases SubscriptionTableImpl.mem_conns_addSubscription hmem with hold | ⟨hside, rfl⟩
          · exact Or.inl hold
          · exact Or.inr ⟨hattends, rfl, hside⟩
      | false => exact Or.inl (SubscriptionTableImpl.mem_of_mem_removeSubscription hmem)

end Tasks

/-! ## Connections that come and go -/

section Connections

variable {d : DataPath} {i : Nat} {task : StreamTask}

/-- A task of the extended list is an old one or the new one. -/
theorem getElem?_processStream {connIndex : Nat} {isLocal clientConfig : Bool}
    {token : Option Nat} {j : Nat} {left : StreamTask}
    (hleft : (d.processStream connIndex isLocal clientConfig token).streams[j]? = some left) :
    d.streams[j]? = some left ∨ j = d.streams.length ∧
      left = ⟨connIndex, isLocal, clientConfig, d.nextToken, .receiving⟩ :=
  getElem?_concat hleft

theorem getElem?_processStream_of_some {connIndex : Nat} {isLocal clientConfig : Bool}
    {token : Option Nat} (htask : d.streams[i]? = some task) :
    (d.processStream connIndex isLocal clientConfig token).streams[i]? = some task := by
  rw [processStream, List.getElem?_append_left (List.getElem?_eq_some_iff.1 htask).1, htask]

/-- A new task at an index that nobody attends to. -/
theorem Guarded.processStream (hd : d.Guarded) {connIndex : Nat} {isLocal clientConfig : Bool}
    {token : Option Nat} (hfree : ∀ {j : Nat} {other : StreamTask}, d.streams[j]? = some other →
      other.phase.attends = true → other.connIndex ≠ connIndex)
    {f : Forwarder Connection} (htable : f.subscriptionTable = d.forwarder.subscriptionTable)
    (he : ((d.withForwarder f).processStream connIndex isLocal clientConfig token).Owned) :
    ((d.withForwarder f).processStream connIndex isLocal clientConfig token).Guarded where
  owned := he
  configured := by
    intro j left hleft hphase
    rcases getElem?_processStream hleft with hold | ⟨-, rfl⟩
    · exact hd.configured hold hphase
    · simp [StreamPhase.isReconnecting] at hphase
  found := by
    intro j left hleft hphase content conn isLocal add forward hstate
    rcases getElem?_processStream hleft with hold | ⟨-, rfl⟩
    · exact hd.found hold hphase hstate
    · simp [StreamPhase.isSubscribing] at hphase
  alone := by
    intro j k left right hleft hright hlattends hrattends hindex
    rcases getElem?_processStream hleft with hlold | ⟨hj, rfl⟩
    · rcases getElem?_processStream hright with hrold | ⟨-, rfl⟩
      · exact hd.alone hlold hrold hlattends hrattends hindex
      · exact absurd hindex (hfree hlold hlattends)
    · rcases getElem?_processStream hright with hrold | ⟨hk, rfl⟩
      · exact absurd hindex.symm (hfree hrold hrattends)
      · rw [hj, hk]
  consistent := by
    change f.subscriptionTable.Consistent
    rw [htable]
    exact hd.consistent
  attended := by
    intro agent side conn hmem
    change conn ∈ f.subscriptionTable.table.conns agent side at hmem
    rw [htable] at hmem
    obtain ⟨j, other, hother, hattends, hindex, hside⟩ := hd.attended hmem
    exact ⟨j, other, getElem?_processStream_of_some (d := d.withForwarder f) hother, hattends,
      hindex, hside⟩

theorem Guarded.purges (hd : d.Guarded) (htask : d.streams[i]? = some task)
    (hphase : task.phase = .purgingSubscriptions) (order : IterOrder (Agent × Unit))
    (he : (d.purgeSubscriptions i task order).Owned) :
    (d.purgeSubscriptions i task order).Guarded := by
  have hattends : task.phase.attends = true := by rw [hphase]; rfl
  have hside := hd.listedOn htask hattends
  obtain ⟨-, hlisted, -⟩ :=
    hd.consistent.removeConnection_eq task.connIndex task.isLocal order hside
  have hother : ∀ {j : Nat} {left : StreamTask},
      (d.purgeSubscriptions i task order).streams[j]? = some left →
      left.phase.attends = true ∨ left.phase.isSubscribing = true ∨
        left.phase.isReconnecting = true → j ≠ i ∧ d.streams[j]? = some left := by
    intro j left hleft hbusy
    rcases getElem?_moveTo htask hleft with hold | ⟨rfl, rfl⟩
    · exact hold
    · simp [StreamPhase.attends, StreamPhase.holds, StreamPhase.isSubscribing,
        StreamPhase.isReconnecting] at hbusy
  constructor
  case owned => exact he
  case configured =>
    intro j left hleft hreconnecting
    exact hd.configured (hother hleft (Or.inr (Or.inr hreconnecting))).2 hreconnecting
  case found =>
    intro j left hleft hsubscribing content conn isLocal add forward hstate
    exact hd.found (hother hleft (Or.inr (Or.inl hsubscribing))).2 hsubscribing hstate
  case alone =>
    intro j k left right hleft hright hlattends hrattends hindex
    exact hd.alone (hother hleft (Or.inl hlattends)).2 (hother hright (Or.inl hrattends)).2
      hlattends hrattends hindex
  case consistent => exact hd.consistent.removeConnection task.connIndex task.isLocal order hside
  case attended =>
    intro agent side conn hmem
    obtain ⟨hold, hne⟩ := (hlisted agent side conn).1 hmem
    obtain ⟨j, other, hfound, hoattends, hindex, hoside⟩ := hd.attended hold
    have hji : j ≠ i := by
      rintro rfl
      rw [htask, Option.some.injEq] at hfound
      exact hne (by rw [← hindex, hfound])
    exact ⟨j, other, (getElem?_moveTo_of_ne hji).trans hfound, hoattends, hindex, hoside⟩

/-- The new task attends to the routes of the old one. -/
theorem Guarded.replaces (hd : d.Guarded) (htask : d.streams[i]? = some task)
    (hphase : task.phase.isReconnecting = true) {f : Forwarder Connection}
    (htable : f.subscriptionTable = d.forwarder.subscriptionTable)
    {subscriptions : List SubscriptionInfo}
    (he : (((d.withForwarder f).moveTo i (.restoring subscriptions)).processStream
      task.connIndex false true (some d.nextToken)).Owned) :
    (((d.withForwarder f).moveTo i (.restoring subscriptions)).processStream
      task.connIndex false true (some d.nextToken)).Guarded := by
  have hattends : task.phase.attends = true :=
    StreamPhase.attends_of_holds (StreamPhase.holds_of_isReconnecting hphase)
  have hremote : task.isLocal = false :=
    Custodians.remote hd.owned (getElem?_custody htask) (hd.configured htask hphase)
  -- a task with something to do is an old one other than `i`, or the new one
  have hother : ∀ {j : Nat} {left : StreamTask},
      (((d.withForwarder f).moveTo i (.restoring subscriptions)).processStream
        task.connIndex false true (some d.nextToken)).streams[j]? = some left →
      left.phase.attends = true ∨ left.phase.isSubscribing = true ∨
        left.phase.isReconnecting = true →
      j ≠ i ∧ d.streams[j]? = some left ∨ j = d.streams.length ∧
        left = ⟨task.connIndex, false, true, d.nextToken, .receiving⟩ := by
    intro j left hleft hbusy
    rcases getElem?_processStream hleft with hold | ⟨hj, rfl⟩
    · rcases getElem?_moveTo htask hold with hbefore | ⟨rfl, rfl⟩
      · exact Or.inl hbefore
      · simp [StreamPhase.attends, StreamPhase.holds, StreamPhase.isSubscribing,
          StreamPhase.isReconnecting] at hbusy
    · exact Or.inr ⟨by simpa [moveTo, withForwarder] using hj, rfl⟩
  constructor
  case owned => exact he
  case configured =>
    intro j left hleft hreconnecting
    rcases hother hleft (Or.inr (Or.inr hreconnecting)) with ⟨-, hold⟩ | ⟨-, rfl⟩
    · exact hd.configured hold hreconnecting
    · rfl
  case found =>
    intro j left hleft hsubscribing content conn isLocal add forward hstate
    rcases hother hleft (Or.inr (Or.inl hsubscribing)) with ⟨-, hold⟩ | ⟨-, rfl⟩
    · exact hd.found hold hsubscribing hstate
    · simp [StreamPhase.isSubscribing] at hsubscribing
  case alone =>
    intro j k left right hleft hright hlattends hrattends hindex
    rcases hother hleft (Or.inl hlattends) with ⟨hji, hlold⟩ | ⟨hj, rfl⟩
    · rcases hother hright (Or.inl hrattends) with ⟨-, hrold⟩ | ⟨-, rfl⟩
      · exact hd.alone hlold hrold hlattends hrattends hindex
      · exact absurd (hd.alone hlold htask hlattends hattends hindex) hji
    · rcases hother hright (Or.inl hrattends) with ⟨hki, hrold⟩ | ⟨hk, rfl⟩
      · exact absurd (hd.alone hrold htask hrattends hattends hindex.symm) hki
      · rw [hj, hk]
  case consistent =>
    change f.subscriptionTable.Consistent
    rw [htable]
    exact hd.consistent
  case attended =>
    intro agent side conn hmem
    change conn ∈ f.subscriptionTable.table.conns agent side at hmem
    rw [htable] at hmem
    obtain ⟨j, other, hfound, hoattends, hindex, hside⟩ := hd.attended hmem
    by_cases hji : j = i
    · subst hji
      rw [htask, Option.some.injEq] at hfound
      subst hfound
      refine ⟨d.streams.length, ⟨task.connIndex, false, true, d.nextToken, .receiving⟩, ?_, rfl,
        hindex, ?_⟩
      · simp [DataPath.processStream, moveTo, withForwarder]
      · rw [hside, hremote]
    · refine ⟨j, other, getElem?_processStream_of_some ?_, hoattends, hindex, hside⟩
      rw [getElem?_moveTo_of_ne hji]
      exact hfound

/-- A task that attends to routes has its connection or is about to purge the routes. -/
theorem purging_of_attends {phase : StreamPhase} (hattends : phase.attends = true)
    (hholds : ¬ phase.holds = true) : phase = .purgingSubscriptions := by
  cases phase with
  | purgingSubscriptions => rfl
  | _ => exact absurd hattends hholds

/-- An index that is free in the table and not about to be purged has no task. -/
theorem Guarded.free (hd : d.Guarded) {event : DataPathEvent} (hproper : d.Proper event)
    {connection : Connection} (hevent : event.connection = some connection) {j : Nat}
    {other : StreamTask} (hother : d.streams[j]? = some other)
    (hattends : other.phase.attends = true) :
    other.connIndex ≠ (d.forwarder.connectionTable.insert connection).2 := by
  by_cases hholds : other.phase.holds = true
  · intro hindex
    obtain ⟨found, hget, -⟩ := hd.owned.connectedAs hother hholds
    rw [hindex, Forwarder.getConnection, Pool.get_insert_index] at hget
    simp at hget
  · have hphase := purging_of_attends hattends hholds
    have hmem := List.mem_of_getElem? hother
    cases event with
    | openChannel => exact hproper connection hevent other hmem hphase
    | registerLocalConnection => exact hproper connection hevent other hmem hphase
    | connect clientConfig => exact hproper connection hevent other hmem hphase
    | _ => simp [DataPathEvent.connection] at hevent

end Connections

/-! ## Runs -/

theorem Guarded.step [NameHash] {d : DataPath} (hd : d.Guarded) {event : DataPathEvent}
    (hproper : d.Proper event) : (d.step event).Guarded := by
  have hstep := outcome_step d event
  have he : (d.step event).Owned := hd.owned.outcome hstep
  revert he
  generalize d.step event = e at hstep
  intro he
  rcases hstep with ⟨hprocessor, htokens, hnext, hstreams⟩ |
    ⟨i, task, htask, phase, hmoved, hphase⟩ |
    ⟨i, task, htask, hphase, received, msg, choices, rfl, hvalid, messageType, hstamp, content,
      connections, hread, add⟩ | ⟨i, task, htask, msg, hphase, choices, rfl, hbusy, sent⟩ |
    ⟨connection, hevent, clientConfig, token, hconfig, htoken⟩ | ⟨i, task, htask, hholds⟩ |
    ⟨i, task, htask, hphase, order⟩ | ⟨i, task, htask, hphase⟩ |
    ⟨i, task, htask, hphase, f, subscriptions, hplaced⟩
  case idle =>
    have htable : e.forwarder = d.forwarder := by rw [forwarder, hprocessor]; rfl
    refine ⟨he, ?_, ?_, ?_, ?_, ?_⟩
    all_goals simp only [hstreams, hprocessor, htable]
    · exact hd.configured
    · exact hd.found
    · exact hd.alone
    · exact hd.consistent
    · exact hd.attended
  case moves =>
    have htable : e.forwarder = d.forwarder := by rw [forwarder, hmoved.processor]; rfl
    refine hd.moves he htask hmoved.streams hphase.attends hphase.reconnecting
      (fun j _ => by rw [hmoved.processor]) ?_ (by rw [htable]; exact hd.consistent)
      (fun hmem => Or.inl (by rwa [htable] at hmem))
    intro hsubscribing
    rw [hphase.not_subscribing] at hsubscribing
    simp at hsubscribing
  case starts =>
    obtain ⟨forward, hown⟩ := own_connection hvalid (fun header => hproper task header htask)
      hstamp hread
    exact hd.starts htask hphase hown add msg he
  case resumes => exact hd.resumes htask hphase hproper hbusy he
  case opens => exact hd.processStream (hd.free hproper hevent) rfl he
  case drops =>
    refine hd.moves he htask rfl ?_ (by simp [StreamPhase.isReconnecting]) (fun _ _ => rfl)
      (by simp [StreamPhase.isSubscribing]) hd.consistent Or.inl
    rw [StreamPhase.attends_of_holds hholds]
    rfl
  case purgesSubscriptions => exact hd.purges htask hphase order he
  case purgesRemote =>
    refine hd.moves he htask rfl ?_ (by simp [StreamPhase.isReconnecting]) (fun _ _ => rfl)
      (by simp [StreamPhase.isSubscribing]) hd.consistent Or.inl
    rw [hphase]
    rfl
  case replaces => exact hd.replaces htask hphase (established_at hplaced).2.1 he

/-- In every run that meets the conditions, in every interleaving of its tasks: a route leads
    to a connection of the side on which it is listed, or its task is about to take it away.
    An index without connection, and without such a task, has no routes. -/
theorem routes_attended [NameHash] (events : List DataPathEvent)
    (hproper : Runs.Along step Proper new events) :
    let d := Runs.run step new events
    (∀ agent side conn, conn ∈ d.forwarder.subscriptionTable.table.conns agent side →
      ∃ isLocal, side = sideIndex isLocal ∧ (d.forwarder.ConnectedAs conn isLocal ∨
        ∃ task ∈ d.streams, task.connIndex = conn ∧ task.isLocal = isLocal ∧
          task.phase = .purgingSubscriptions)) ∧
    ∀ conn, d.forwarder.getConnection conn = none →
      (∀ task ∈ d.streams, task.connIndex = conn → task.phase ≠ .purgingSubscriptions) →
      d.forwarder.subscriptionTable.Unrouted conn := by
  intro d
  have hd : d.Guarded := Runs.run_invariant (I := Guarded)
    (fun _ _ hd hevent => hd.step hevent) events new hproper guarded_new
  have hroutes : ∀ agent side conn,
      conn ∈ d.forwarder.subscriptionTable.table.conns agent side →
      ∃ isLocal, side = sideIndex isLocal ∧ (d.forwarder.ConnectedAs conn isLocal ∨
        ∃ task ∈ d.streams, task.connIndex = conn ∧ task.isLocal = isLocal ∧
          task.phase = .purgingSubscriptions) := by
    intro agent side conn hmem
    obtain ⟨i, task, htask, hattends, rfl, hside⟩ := hd.attended hmem
    refine ⟨task.isLocal, hside, ?_⟩
    by_cases hholds : task.phase.holds = true
    · exact Or.inl (hd.owned.connectedAs htask hholds)
    · exact Or.inr ⟨task, List.mem_of_getElem? htask, rfl, rfl,
        purging_of_attends hattends hholds⟩
  refine ⟨hroutes, fun conn hgone hquiet => ?_⟩
  apply SubscriptionTableImpl.unrouted_of_not_listed
  rintro agent ⟨side, hmem⟩
  obtain ⟨isLocal, -, ⟨connection, hget, -⟩ | ⟨task, htask, hindex, -, hphase⟩⟩ :=
    hroutes agent side conn hmem
  · rw [hgone] at hget
    simp at hget
  · exact hquiet task htask hindex hphase

/-- An application subscribes and closes its stream; a peer connects in between. -/
def subscribeAndClose : List DataPathEvent :=
  [.registerLocalConnection, .receive 0 (.message sampleSubscription) sampleChoices, .openChannel,
    .advance 0 sampleChoices, .advance 0 sampleChoices, .receive 0 .closed sampleChoices,
    .advance 0 sampleChoices, .advance 0 sampleChoices]

/-- The subscription is routed before the stream is closed, and not after it. -/
theorem routes_attended_sample :
    (Runs.run (@step sampleHash) new
        (subscribeAndClose.take 5)).forwarder.subscriptionTable.matchAll sampleName (some 1) 1
          IterOrder.stored = .ok [0] ∧
      (Runs.run (@step sampleHash) new
        subscribeAndClose).forwarder.subscriptionTable.Unrouted 0 := by
  refine ⟨rfl, (@routes_attended sampleHash subscribeAndClose ?_).2 0 rfl ?_⟩
  · refine ⟨?_, ?_, ?_, ?_, ?_, ?_, ?_, ?_, trivial⟩
    · intro connection hevent task hmem
      simp [new] at hmem
    · rintro task header - ⟨⟩ conn ⟨⟩
    · rintro connection hevent task (_ | ⟨_, ⟨⟩⟩) hphase
      cases hphase
    · rintro content conn isLocal forward ⟨⟩
    · rintro content conn isLocal forward ⟨⟩
    · rintro connection ⟨⟩
    · rintro content conn isLocal forward ⟨⟩
    · rintro content conn isLocal forward ⟨⟩
  · -- the task of the application has only the records of forwarded subscriptions left
    have hphases : ∀ task ∈ (Runs.run (@step sampleHash) new subscribeAndClose).streams,
        task.phase = .purgingRemote ∨ task.phase = .receiving := by
      rintro task (_ | ⟨_, _ | ⟨_, ⟨⟩⟩⟩)
      · exact Or.inl rfl
      · exact Or.inr rfl
    intro task hmem hindex hphase
    rcases hphases task hmem with hlast | hlast
    all_goals simp [hphase] at hlast

end DataPath

end Slim
