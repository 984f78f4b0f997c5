import Mathlib.Logic.Function.Iterate
import Slim.StreamTasks

/-!
# A message handled without interruption

A task handles a message in steps, and other tasks run in between.  When none does, the
steps do what `handle_new_message` does in one go: the tables, the messages that were handed
to channels and the state of the task are those of `Forwarder.handleNewMessage` and, for a
publication, of `Forwarder.processPublish`.
-/

namespace Slim

open Machine

namespace DataPath

/-! ## In one go -/

/-- The task goes on with the result of the handling. -/
def settle (d : DataPath) (i : Nat) (task : StreamTask) : Except DataPathError Unit → DataPath
  | .ok () => d.moveTo i .receiving
  | .error e => d.fail i task (.processingError e.display)

/-- A message handled in one go.  The channels of the outputs of a publication have each their
    answer. -/
def handleAtOnce [NameHash] (d : DataPath) (i : Nat) (task : StreamTask) (msg : ProtoMessage)
    (choices : Choices) (answer : Nat → Option String) : DataPath :=
  match d.forwarder.handleNewMessage task.connIndex msg choices.sendError with
  | .error _ => d.moveTo i (.panicked true)
  | .ok (.invalid e) => d.fail i task (.invalidMessage e.display)
  | .ok (.subscription processed) =>
      { d.withForwarder processed.forwarder with
        sent := d.sent ++ processed.sent.toList }.settle i task processed.result
  | .ok (.publication stamped) =>
      match d.forwarder.processPublish stamped task.connIndex choices.rng choices.matchOrder
          answer with
      | .error _ => d.moveTo i (.panicked true)
      | .ok published =>
          { d with sent := d.sent ++ published.sent }.settle i task published.result

/-- What is decided in a step of a task in this phase: the channel of the next output answers. -/
def answering (choices : Choices) (answer : Nat → Option String) : StreamPhase → Choices
  | .publishing _ (outConn :: _) => { choices with sendError := answer outConn }
  | _ => choices

/-- A step of the task, with these answers. -/
def advanceAlone [NameHash] (i : Nat) (choices : Choices) (answer : Nat → Option String)
    (d : DataPath) : DataPath :=
  match d.streams[i]? with
  | some task => d.step (.advance i (answering choices answer task.phase))
  | none => d

/-- The states differ at most in where the calls of `process_subscription` stand. -/
def Agrees (d e : DataPath) : Prop :=
  ∃ tasks, e = { d with processor := { d.processor with tasks := tasks } }

section Handling

variable {d : DataPath} {i : Nat} {task : StreamTask} {answer : Nat → Option String}

theorem Agrees.refl (d : DataPath) : d.Agrees d := ⟨d.processor.tasks, rfl⟩

theorem moveTo_moveTo (d : DataPath) (i : Nat) (first second : StreamPhase) :
    (d.moveTo i first).moveTo i second = d.moveTo i second := by
  simp only [moveTo, List.modify_modify_eq]
  rfl

/-- The result does not depend on the phase in which the task was. -/
theorem settle_moveTo (d : DataPath) (i : Nat) (task : StreamTask) (phase : StreamPhase)
    (result : Except DataPathError Unit) :
    (d.moveTo i phase).settle i task result = d.settle i task result := by
  cases result with
  | ok done => exact moveTo_moveTo d i phase _
  | error e => exact moveTo_moveTo d i phase _

/-! ## Publications -/

/-- The loop over the outputs, step by step. -/
theorem publishing_in_steps [NameHash] {msg cleared : ProtoMessage}
    (hreadable : Readable msg cleared) (choices : Choices) (answer : Nat → Option String)
    {outputs : List Nat} (houtputs : outputs ≠ []) (htask : d.streams[i]? = some task)
    (hphase : task.phase = .publishing msg outputs) :
    ∃ published n,
      d.forwarder.sendEach msg answer outputs = .ok published ∧
      (advanceAlone i choices answer)^[n] d =
        { d with sent := d.sent ++ published.sent }.settle i task published.result := by
  induction outputs generalizing d task with
  | nil => exact absurd rfl houtputs
  | cons outConn rest ih =>
      have hstep : d.advanceAlone i choices answer =
          d.resumePublication i task msg (answer outConn) (outConn :: rest) := by
        simp only [advanceAlone, htask, hphase, answering, step, advance]
      rcases hsend : d.forwarder.sendPublication msg outConn answer with panic | first
      · -- the header was read when the message was received
        obtain ⟨result, hresult, -⟩ :=
          Forwarder.sendPublication_eq hreadable d.forwarder answer outConn
        rw [hsend] at hresult
        cases hresult
      have hanswer : d.forwarder.sendPublication msg outConn (fun _ => answer outConn) =
          .ok first := hsend
      simp only [resumePublication, hanswer] at hstep
      rcases hresult : first.result with e | ⟨⟩
      · -- the loop returns here
        refine ⟨first, 1, ?_, ?_⟩
        · cases rest with
          | nil => simpa only [Forwarder.sendEach] using hsend
          | cons next rest =>
              simp only [Forwarder.sendEach, hsend, bind_ok, hresult]
              rfl
        · simp only [hresult] at hstep
          simp only [Function.iterate_one, hstep, hresult, settle]
      · simp only [hresult] at hstep
        cases rest with
        | nil =>
            refine ⟨first, 1, by simpa only [Forwarder.sendEach] using hsend, ?_⟩
            simp only [Function.iterate_one, hstep, hresult, settle, List.isEmpty_nil, if_true]
        | cons next rest =>
            simp only [List.isEmpty_cons, Bool.false_eq_true, if_false] at hstep
            have hnext : ({ d with sent := d.sent ++ first.sent }.moveTo i
                (.publishing msg (next :: rest))).streams[i]? =
                  some { task with phase := .publishing msg (next :: rest) } := by
              simp [moveTo, htask]
            obtain ⟨others, n, hothers, hrun⟩ := ih (by simp) hnext rfl
            refine ⟨⟨others.result, first.sent ++ others.sent⟩, n + 1, ?_, ?_⟩
            · simp only [Forwarder.sendEach, hsend, bind_ok, hresult]
              rw [show d.forwarder.sendEach msg answer (next :: rest) = .ok others from hothers]
              rfl
            · rw [Function.iterate_succ_apply, hstep, hrun, ← List.append_assoc]
              exact settle_moveTo { d with sent := d.sent ++ first.sent ++ others.sent } i task _ _

/-! ## Subscriptions -/

section Subscriptions

variable [NameHash] {msg : ProtoMessage} {add : Bool} {content : SubscriptionMessage}

theorem readSubscription_of_reads (hreads : msg.Reads add content) {conn : Nat}
    {forward : Option Nat}
    (hconns : content.header.getInOutConnections = some (conn, forward)) :
    readSubscription msg = .ok (content, (conn, forward)) := by
  obtain ⟨header, source, destination, hheader, hfields, -⟩ := hreads.header
  simp only [readSubscription, hreads.name, bind_ok, ProtoMessage.getSlimHeader_of_some hheader,
    ProtoSlimHeader.getInOutConnections, hfields, hconns, orPanic_some, hreads.getSource]
  rfl

/-- The node while the task stands at a step of `process_subscription`. -/
def subscribingAt (d : DataPath) (i : Nat) (msg : ProtoMessage) (f : Forwarder Connection)
    (state : ProcessingState) (sent : List (Nat × ProtoMessage)) : DataPath :=
  { d with
    processor := ⟨f, Function.update d.processor.tasks i state⟩
    sent := sent }.moveTo i (.subscribing msg)

variable {f : Forwarder Connection} {sent : List (Nat × ProtoMessage)} {choices : Choices}

theorem subscribingAt_step (htask : d.streams[i]? = some task) (state : ProcessingState) :
    (d.subscribingAt i msg f state sent).advanceAlone i choices answer =
      (d.subscribingAt i msg f state sent).resumeSubscription i
        { task with phase := .subscribing msg } msg choices.sendError := by
  have hstream : (d.subscribingAt i msg f state sent).streams[i]? =
      some { task with phase := .subscribing msg } := by
    simp [subscribingAt, moveTo, htask]
  simp only [advanceAlone, hstream, answering, step, advance]

/-- The result is there: the task goes on with it. -/
theorem subscribingAt_returned (htask : d.streams[i]? = some task)
    (result : Except DataPathError Unit) :
    ({ d.withForwarder f with sent := sent }.settle i task result).Agrees
      ((d.subscribingAt i msg f (.returned result) sent).advanceAlone i choices answer) := by
  refine ⟨Function.update d.processor.tasks i (.returned result), ?_⟩
  rw [subscribingAt_step htask]
  have hstate : (d.subscribingAt i msg f (.returned result) sent).processor.tasks i =
      .returned result := Function.update_self i _ _
  unfold resumeSubscription
  rw [hstate]
  cases result with
  | ok done => exact moveTo_moveTo _ i _ _
  | error e => exact moveTo_moveTo _ i _ _

theorem subscribingAt_update (htask : d.streams[i]? = some task) {conn : Nat}
    {isLocal : Bool} {forward : Option Nat} :
    (d.subscribingAt i msg f (.update content conn isLocal add forward) sent).advanceAlone i
        choices answer =
      match f.onSubscriptionMsg content.agentType content.agentId conn isLocal add with
      | (.error e, g) =>
          d.subscribingAt i msg g (.returned (.error (.subscriptionError e.display))) sent
      | (.ok (), g) =>
          match forward with
          | none => d.subscribingAt i msg g (.returned (.ok ())) sent
          | some outConn => d.subscribingAt i msg g (.send content outConn add) sent := by
  rw [subscribingAt_step htask]
  have hstate : (d.subscribingAt i msg f (.update content conn isLocal add forward)
      sent).processor.tasks i = .update content conn isLocal add forward :=
    Function.update_self i _ _
  unfold resumeSubscription
  rw [hstate]
  simp only [MessageProcessor.step, hstate, MessageProcessor.resume]
  rw [show (d.subscribingAt i msg f (.update content conn isLocal add forward)
    sent).processor.forwarder = f from rfl]
  rcases f.onSubscriptionMsg content.agentType content.agentId conn isLocal add with ⟨e | ⟨⟩, g⟩
  · simp [subscribingAt, MessageProcessor.moveTo, moveTo]
  · cases forward with
    | none => simp [subscribingAt, MessageProcessor.moveTo, moveTo]
    | some outConn => simp [subscribingAt, MessageProcessor.moveTo, moveTo]

theorem subscribingAt_send {cleared : ProtoMessage} (hreadable : Readable msg cleared)
    (htask : d.streams[i]? = some task) {outConn : Nat} :
    (d.subscribingAt i msg f (.send content outConn add) sent).advanceAlone i choices answer =
      match f.sendMsg outConn choices.sendError with
      | .error e =>
          d.subscribingAt i msg f (.returned (.error (.unsubscriptionError e.display))) sent
      | .ok () =>
          d.subscribingAt i msg f (.record content outConn add) (sent ++ [(outConn, cleared)]) := by
  rw [subscribingAt_step htask]
  have hstate : (d.subscribingAt i msg f (.send content outConn add) sent).processor.tasks i =
      .send content outConn add := Function.update_self i _ _
  have hforwarder : (d.subscribingAt i msg f (.send content outConn add) sent).forwarder = f := rfl
  unfold resumeSubscription
  rw [hstate]
  simp only [MessageProcessor.step, hstate, MessageProcessor.resume, hforwarder,
    hreadable.transmit]
  rw [show (d.subscribingAt i msg f (.send content outConn add) sent).processor.forwarder = f
    from rfl]
  rcases f.sendMsg outConn choices.sendError with e | ⟨⟩
  · simp [Except.map, subscribingAt, MessageProcessor.moveTo, moveTo]
  · simp [Except.map, subscribingAt, MessageProcessor.moveTo, moveTo]

theorem subscribingAt_record (htask : d.streams[i]? = some task) {outConn : Nat} :
    (d.subscribingAt i msg f (.record content outConn add) sent).advanceAlone i choices answer =
      d.subscribingAt i msg (f.onForwardedSubscription content.source content.agentType
        content.agentId outConn add) (.returned (.ok ())) sent := by
  rw [subscribingAt_step htask]
  have hstate : (d.subscribingAt i msg f (.record content outConn add) sent).processor.tasks i =
      .record content outConn add := Function.update_self i _ _
  unfold resumeSubscription
  rw [hstate]
  simp only [MessageProcessor.step, hstate, MessageProcessor.resume]
  simp [subscribingAt, MessageProcessor.moveTo, moveTo]

/-- The steps of a subscription that was just started. -/
theorem subscribing_in_steps (hreads : msg.Reads add content) (choices : Choices)
    (htask : d.streams[i]? = some task) {conn : Nat} {forward : Option Nat}
    (hconns : content.header.getInOutConnections = some (conn, forward)) :
    ∃ processed n, d.forwarder.processSubscription msg add choices.sendError = .ok processed ∧
      ({ d.withForwarder processed.forwarder with
        sent := d.sent ++ processed.sent.toList }.settle i task processed.result).Agrees
          ((advanceAlone i choices answer)^[n] (d.startSubscription i msg add)) := by
  obtain ⟨cleared, hreadable, -⟩ := hreads.readable
  have hstart : d.startSubscription i msg add =
      { d with processor := d.processor.findConnection i content add }.moveTo i
        (.subscribing msg) := by
    simp only [startSubscription, readSubscription_of_reads hreads hconns]
  have hprocessor : d.processor.forwarder = d.forwarder := rfl
  unfold Forwarder.processSubscription
  simp only [hreads.name, hreads.getInOutConnections, hconns, orPanic_some, bind_ok]
  unfold MessageProcessor.findConnection at hstart
  simp only [hconns, hprocessor] at hstart
  rcases hconn : d.forwarder.getConnection conn with _ | connection
  · simp only [hconn] at hstart
    refine ⟨_, 1, rfl, ?_⟩
    rw [hstart, Function.iterate_one, Option.toList_none, List.append_nil]
    exact subscribingAt_returned htask _
  simp only [hconn] at hstart
  have hupdating : d.startSubscription i msg add = d.subscribingAt i msg d.forwarder
      (.update content conn connection.isLocalConnection add forward) d.sent := hstart
  rw [hupdating]
  have hupdated : (d.subscribingAt i msg d.forwarder (.update content conn
      connection.isLocalConnection add forward) d.sent).advanceAlone i choices answer = _ :=
    subscribingAt_update htask
  simp only []
  rcases hupdate : d.forwarder.onSubscriptionMsg content.agentType content.agentId conn
      connection.isLocalConnection add with ⟨e | ⟨⟩, g⟩
  · simp only [hupdate] at hupdated
    refine ⟨_, 2, rfl, ?_⟩
    simp only [Function.iterate_succ_apply, Function.iterate_zero_apply, hupdated,
      Option.toList_none, List.append_nil]
    exact subscribingAt_returned htask _
  simp only [hupdate] at hupdated
  simp only []
  rcases forward with _ | outConn
  · refine ⟨_, 2, rfl, ?_⟩
    simp only [Function.iterate_succ_apply, Function.iterate_zero_apply, hupdated,
      Option.toList_none, List.append_nil]
    exact subscribingAt_returned htask _
  simp only [hreads.getSource, bind_ok, hreadable.transmit]
  have hsent : (d.subscribingAt i msg g (.send content outConn add) d.sent).advanceAlone i
      choices answer = _ := subscribingAt_send hreadable htask
  rcases hsend : g.sendMsg outConn choices.sendError with e | ⟨⟩
  · simp only [hsend] at hsent
    refine ⟨_, 3, rfl, ?_⟩
    simp only [Function.iterate_succ_apply, Function.iterate_zero_apply, hupdated,
      hsent, Option.toList_none, List.append_nil]
    exact subscribingAt_returned htask _
  · simp only [hsend] at hsent
    refine ⟨_, 4, rfl, ?_⟩
    simp only [Function.iterate_succ_apply, Function.iterate_zero_apply, hupdated,
      hsent, subscribingAt_record htask, Option.toList_some]
    exact subscribingAt_returned htask _

end Subscriptions

/-! ## The agreement -/

section Agreement

variable [NameHash] {msg : ProtoMessage} {choices : Choices}

/-- The first step, if no other task comes before it. -/
theorem receive_step (htask : d.streams[i]? = some task) (hphase : task.phase = .receiving) :
    d.step (.receive i (.message msg) choices) = d.handleNewMessage i task msg choices := by
  simp only [step, htask, hphase, receive]

/-- The loop over the outputs, once they are known. -/
theorem outputs_in_steps {stamped cleared : ProtoMessage} (htask : d.streams[i]? = some task)
    (hreadable : Readable stamped cleared) (choices : Choices) (answer : Nat → Option String)
    {outputs : List Nat} (houtputs : outputs ≠ []) :
    ∃ published n,
      d.forwarder.sendEach stamped answer outputs = .ok published ∧
      (advanceAlone i choices answer)^[n] (d.moveTo i (.publishing stamped outputs)) =
        { d with sent := d.sent ++ published.sent }.settle i task published.result := by
  have hmoved : (d.moveTo i (.publishing stamped outputs)).streams[i]? =
      some { task with phase := .publishing stamped outputs } := by
    simp [moveTo, htask]
  obtain ⟨published, n, hpublished, hrun⟩ :=
    publishing_in_steps hreadable choices answer houtputs hmoved rfl
  refine ⟨published, n, hpublished, hrun.trans ?_⟩
  exact settle_moveTo { d with sent := d.sent ++ published.sent } i task _ _

theorem publication_in_steps {stamped cleared : ProtoMessage} (choices : Choices)
    (htask : d.streams[i]? = some task) (hreadable : Readable stamped cleared) :
    ∃ n, (advanceAlone i choices answer)^[n] (d.startPublication i task stamped choices) =
      match d.forwarder.processPublish stamped task.connIndex choices.rng choices.matchOrder
          answer with
      | .error _ => d.moveTo i (.panicked true)
      | .ok published =>
          { d with sent := d.sent ++ published.sent }.settle i task published.result := by
  unfold startPublication publicationOutputs Forwarder.processPublish
    Forwarder.matchAndForwardMsg
  rcases stamped.getDst with panic | ⟨agentType, agentId⟩
  · exact ⟨0, rfl⟩
  rcases stamped.getFanout with panic | fanout
  · exact ⟨0, rfl⟩
  rcases stamped.getForwardTo with panic | ⟨_ | outConn⟩
  · exact ⟨0, rfl⟩
  · simp only [Except.mapError, bind_ok, pure, Except.pure]
    rcases hmatch : d.forwarder.onPublishMsgMatch agentType agentId task.connIndex fanout
        choices.rng choices.matchOrder with e | outputs
    · refine ⟨0, ?_⟩
      simp only [Function.iterate_zero_apply, List.append_nil]
      rfl
    · obtain ⟨published, n, hpublished, hrun⟩ := outputs_in_steps htask hreadable choices
        answer (Forwarder.ne_nil_of_onPublishMsgMatch hmatch)
      refine ⟨n, ?_⟩
      simp only [hpublished]
      exact hrun
  · simp only [Except.mapError, bind_ok, pure, Except.pure]
    obtain ⟨published, n, hpublished, hrun⟩ := outputs_in_steps htask hreadable choices
      answer (List.cons_ne_nil outConn [])
    simp only [Forwarder.sendEach] at hpublished
    refine ⟨n, ?_⟩
    simp only [hpublished]
    exact hrun

omit [NameHash] in
/-- A message that was stamped and has its span can be sent on. -/
theorem readable_of_stamped {header : ProtoSlimHeader} {connIndex : Nat}
    (hheader : msg.tryGetSlimHeader = some header)
    (hspan : createSpan (msg.withHeader { header with incomingConn := some connIndex }) = .ok ()) :
    ∃ cleared,
      Readable (msg.withHeader { header with incomingConn := some connIndex }) cleared := by
  have hset := ProtoMessage.tryGetSlimHeader_withHeader hheader
    { header with incomingConn := some connIndex }
  refine ⟨_, ProtoMessage.modifySlimHeader_of_some _ hset, ?_⟩
  rw [← hspan]
  exact createSpan_withHeader hset rfl rfl

/-- A subscription that was stamped and has its span. -/
theorem subscription_in_steps (htask : d.streams[i]? = some task) {header : ProtoSlimHeader}
    (hheader : msg.tryGetSlimHeader = some header) {source destination : ProtoAgent}
    (hsource : header.source = some source) (hdestination : header.destination = some destination)
    {connIndex : Nat}
    (hspan : createSpan (msg.withHeader { header with incomingConn := some connIndex }) = .ok ())
    {add : Bool} (hkind : msg.subscriptionKind = some add) (choices : Choices) :
    ∃ processed n, d.forwarder.processSubscription
        (msg.withHeader { header with incomingConn := some connIndex }) add choices.sendError =
          .ok processed ∧
      ({ d.withForwarder processed.forwarder with
        sent := d.sent ++ processed.sent.toList }.settle i task processed.result).Agrees
          ((advanceAlone i choices answer)^[n] (d.startSubscription i
            (msg.withHeader { header with incomingConn := some connIndex }) add)) := by
  have hset := ProtoMessage.tryGetSlimHeader_withHeader hheader
    { header with incomingConn := some connIndex }
  obtain ⟨agent, hagent, -⟩ := bind_eq_ok hspan
  rw [ProtoMessage.getSource_of_some hset hsource] at hagent
  obtain ⟨content, hreads, hcontent⟩ := ProtoMessage.reads_of_header
    ((ProtoMessage.subscriptionKind_withHeader msg _).trans hkind) hset hsource hagent hdestination
  obtain ⟨conn, forward, hconns, -⟩ :=
    SlimHeader.getInOutConnections_setIncomingConn header.toSlimHeader connIndex
  have hown : content.header.getInOutConnections = some (conn, forward) := by
    rw [hcontent]
    exact hconns
  exact subscribing_in_steps hreads choices htask hown

end Agreement

end Handling

/-- A message that a waiting task handles while no other task takes a step is handled as in
    one go, whatever it is, and whatever the channels answer, each for itself. -/
theorem handled_in_steps [NameHash] (d : DataPath) (i : Nat) (task : StreamTask)
    (htask : d.streams[i]? = some task) (hphase : task.phase = .receiving) (msg : ProtoMessage)
    (choices : Choices) (answer : Nat → Option String) :
    ∃ n, (d.handleAtOnce i task msg choices answer).Agrees
      ((advanceAlone i choices answer)^[n] (d.step (.receive i (.message msg) choices))) := by
  rw [receive_step htask hphase]
  unfold handleAtOnce handleNewMessage Forwarder.handleNewMessage stamp
  rcases hvalid : msg.validate with e | ⟨⟩
  · exact ⟨0, Agrees.refl _⟩
  obtain ⟨header, source, destination, hheader, hsource, hdestination, -⟩ :=
    ProtoMessage.validate_ok_iff.1 hvalid
  simp only [ProtoMessage.setIncomingConn, ProtoMessage.modifySlimHeader_of_some _ hheader, bind_ok]
  rcases hspan : createSpan (msg.withHeader { header with
      incomingConn := some task.connIndex }) with panic | ⟨⟩
  · exact ⟨0, Agrees.refl _⟩
  have hsubscribes := @subscription_in_steps d i task answer _ msg htask header hheader source
    destination hsource hdestination task.connIndex hspan
  have hkinds := ProtoMessage.subscriptionKind_withHeader msg
    { header with incomingConn := some task.connIndex }
  simp only [bind_ok, ProtoMessage.getType]
  unfold ProtoMessage.subscriptionKind at hkinds
  rcases htype : (msg.withHeader { header with
      incomingConn := some task.connIndex }).messageType with _ | ⟨publish⟩ | ⟨subscribe⟩ |
    ⟨unsubscribe⟩
  · exact ⟨0, Agrees.refl _⟩
  · obtain ⟨cleared, hreadable⟩ := readable_of_stamped hheader hspan
    obtain ⟨n, hrun⟩ := publication_in_steps choices htask hreadable
    refine ⟨n, ?_⟩
    simp only [orPanic_some, bind_ok, pure, Except.pure]
    rw [hrun]
    exact Agrees.refl _
  · simp only [htype] at hkinds
    obtain ⟨processed, n, hprocessed, hagrees⟩ := hsubscribes hkinds.symm choices
    refine ⟨n, ?_⟩
    simp only [orPanic_some, bind_ok, pure, Except.pure, hprocessed]
    exact hagrees
  · simp only [htype] at hkinds
    obtain ⟨processed, n, hprocessed, hagrees⟩ := hsubscribes hkinds.symm choices
    refine ⟨n, ?_⟩
    simp only [orPanic_some, bind_ok, pure, Except.pure, hprocessed]
    exact hagrees

/-- A publication to two subscribers: the first takes it, and the channel of the second is
    closed. -/
theorem handled_in_steps_sample :
    let d := (Runs.run (@step sampleHash) new [.registerLocalConnection]).withForwarder
      Forwarder.twoSubscribers
    let done := @handleAtOnce sampleHash d 0 ⟨0, true, false, 0, .receiving⟩
      Forwarder.samplePublication sampleChoices (Forwarder.closed 2)
    done.sent.map Prod.fst = [1] ∧
      ∃ n, done.Agrees ((@advanceAlone sampleHash 0 sampleChoices (Forwarder.closed 2))^[n]
        (@step sampleHash d
          (.receive 0 (.message Forwarder.samplePublication) sampleChoices))) := by
  intro d done
  refine ⟨rfl, ?_⟩
  exact @handled_in_steps sampleHash d 0 _ rfl rfl Forwarder.samplePublication sampleChoices _

end DataPath

end Slim
