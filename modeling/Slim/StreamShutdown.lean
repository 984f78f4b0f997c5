import Slim.StreamOwnership

/-!
# A node that is drained

After the drain signal every task finishes the message it is working on, leaves its loop
and drops its connection.  A reconnection is given up, and no task is started.  How many
rounds a task still needs can be read off its phase, so every schedule that gives each task
its rounds, in any order, leaves the connection table empty, but for the connections of
tasks that have panicked.
-/

namespace Slim

/-! ## The work that is left -/

/-- The steps of `process_subscription` that are left, with those of the loop after it. -/
def ProcessingState.work : ProcessingState → Nat
  | .update _ _ _ _ _ => 8
  | .send _ _ _ => 7
  | .record _ _ _ => 6
  | .idle => 5
  | .returned _ => 5

/-- The rounds that a task needs at most after the drain signal. -/
def StreamPhase.work (state : ProcessingState) : StreamPhase → Nat
  | .receiving => 3
  | .subscribing _ => state.work
  | .publishing _ outputs => outputs.length + 4
  | .notifying _ => 4
  | .leaving tryToReconnect => if tryToReconnect then 4 else 3
  | .reconnecting _ _ => 3
  | .restoring subscriptions => subscriptions.length + 1
  | .purgingSubscriptions => 2
  | .purgingRemote => 1
  | .ended => 0
  | .panicked _ => 0

theorem StreamPhase.isOver_of_work_eq_zero {state : ProcessingState} {phase : StreamPhase}
    (hwork : phase.work state = 0) : phase.isOver = true := by
  cases phase with
  | ended => rfl
  | panicked connected => rfl
  | subscribing msg => cases state <;> simp [work, ProcessingState.work] at hwork
  | leaving tryToReconnect => cases tryToReconnect <;> simp [work] at hwork
  | _ => simp [work] at hwork

namespace DataPath

def work (d : DataPath) (i : Nat) : Nat :=
  match d.streams[i]? with
  | some task => task.phase.work (d.processor.tasks i)
  | none => 0

/-- The task looks at the signal and takes its next step. -/
def round [NameHash] (d : DataPath) (turn : Nat × Choices) : DataPath :=
  (d.step (.stop turn.1)).step (.advance turn.1 turn.2)

/-- The task moves to a phase; the other tasks stay where they are. -/
structure Moves (d : DataPath) (i : Nat) (phase : StreamPhase) (e : DataPath) : Prop where
  drained : e.drained = d.drained
  streams : e.streams = (d.moveTo i phase).streams
  tasks : ∀ j, j ≠ i → e.processor.tasks j = d.processor.tasks j

section Moves

variable {d e : DataPath} {i : Nat} {task : StreamTask} {phase : StreamPhase}

theorem Moves.work_of_ne (hmoves : d.Moves i phase e) {j : Nat} (hne : j ≠ i) :
    e.work j = d.work j := by
  simp only [work, hmoves.streams, hmoves.tasks j hne, getElem?_moveTo_of_ne hne]

theorem Moves.work_self (hmoves : d.Moves i phase e) (htask : d.streams[i]? = some task) :
    e.work i = phase.work (e.processor.tasks i) := by
  simp only [work, hmoves.streams, getElem?_moveTo_self htask]

theorem moves_moveTo (d : DataPath) (i : Nat) (phase : StreamPhase) :
    d.Moves i phase (d.moveTo i phase) :=
  ⟨rfl, rfl, fun _ _ => rfl⟩

end Moves

/-! ## What a step leaves to do -/

/-- A step after which less is left to do. -/
def Lowers (d : DataPath) (i : Nat) (task : StreamTask) (e : DataPath) : Prop :=
  ∃ phase, d.Moves i phase e ∧
    phase.work (e.processor.tasks i) < task.phase.work (d.processor.tasks i)

section Lowers

variable {d : DataPath} {i : Nat} {task : StreamTask}

theorem lowers_moveTo {phase : StreamPhase}
    (hless : phase.work (d.processor.tasks i) < task.phase.work (d.processor.tasks i)) :
    d.Lowers i task (d.moveTo i phase) :=
  ⟨phase, moves_moveTo d i phase, hless⟩

/-- The same step after a message was recorded as sent. -/
theorem lowers_moveTo_sent {sent : List (Nat × ProtoMessage)} {phase : StreamPhase}
    (hless : phase.work (d.processor.tasks i) < task.phase.work (d.processor.tasks i)) :
    d.Lowers i task ({ d with sent := sent }.moveTo i phase) :=
  ⟨phase, ⟨rfl, rfl, fun _ _ => rfl⟩, hless⟩

theorem lowers_fail {error : HandlingError} {sent : List (Nat × ProtoMessage)}
    (hmore : 4 < task.phase.work (d.processor.tasks i)) :
    d.Lowers i task ({ d with sent := sent }.fail i task error) := by
  apply lowers_moveTo_sent
  split
  · exact hmore
  · exact Nat.lt_trans (Nat.lt_succ_self 3) hmore

theorem work_resume (s : MessageProcessor) (i : Nat) (sendError : Option String)
    (hbusy : (s.tasks i).isFinished = false) :
    ((s.step (.advance i sendError)).tasks i).work < (s.tasks i).work ∧
      ∀ j, j ≠ i → (s.step (.advance i sendError)).tasks j = s.tasks j := by
  have hmoved : ∀ (t : MessageProcessor) (state : ProcessingState), t.tasks = s.tasks →
      state.work < (s.tasks i).work → ((t.moveTo i state).tasks i).work < (s.tasks i).work ∧
        ∀ j, j ≠ i → (t.moveTo i state).tasks j = s.tasks j := by
    intro t state htasks hless
    refine ⟨?_, fun j hne => ?_⟩
    · simpa [MessageProcessor.moveTo] using hless
    · simp [MessageProcessor.moveTo, Function.update_of_ne hne, htasks]
  simp only [MessageProcessor.step]
  rcases hstate : s.tasks i with _ | ⟨msg, conn, isLocal, add, forward⟩ | ⟨msg, outConn, add⟩ |
    ⟨msg, outConn, add⟩ | result
  all_goals rw [hstate] at hmoved hbusy
  · simp [ProcessingState.isFinished] at hbusy
  · simp only [MessageProcessor.resume]
    split
    · exact hmoved _ _ rfl (by simp [ProcessingState.work])
    · split
      · exact hmoved _ _ rfl (by simp [ProcessingState.work])
      · exact hmoved _ _ rfl (by simp [ProcessingState.work])
  · simp only [MessageProcessor.resume]
    split
    · exact hmoved _ _ rfl (by simp [ProcessingState.work])
    · exact hmoved _ _ rfl (by simp [ProcessingState.work])
  · exact hmoved _ _ rfl (by simp [ProcessingState.work])
  · simp [ProcessingState.isFinished] at hbusy

theorem lowers_resumeSubscription (htask : d.streams[i]? = some task) {msg : ProtoMessage}
    (hphase : task.phase = .subscribing msg) (sendError : Option String) :
    d.Lowers i task (d.resumeSubscription i task msg sendError) := by
  have hwork : task.phase.work (d.processor.tasks i) = (d.processor.tasks i).work := by
    rw [hphase]
    rfl
  have hresumed : ∀ sent : List (Nat × ProtoMessage), (d.processor.tasks i).isFinished = false →
      d.Lowers i task
        { d with processor := d.processor.step (.advance i sendError), sent := sent } := by
    intro sent hbusy
    obtain ⟨hless, htasks⟩ := work_resume d.processor i sendError hbusy
    refine ⟨task.phase, ⟨rfl, (moveTo_phase htask).symm, htasks⟩, ?_⟩
    rw [hwork, hphase]
    exact hless
  unfold resumeSubscription
  rcases hstate : d.processor.tasks i with _ | ⟨content, conn, isLocal, add, forward⟩ |
    ⟨content, outConn, add⟩ | ⟨content, outConn, add⟩ | (e | ⟨⟩)
  all_goals rw [hstate] at hwork hresumed
  · apply lowers_moveTo
    rw [hstate, hwork]
    simp [StreamPhase.work, ProcessingState.work]
  · exact hresumed _ rfl
  · simp only
    split
    · apply lowers_moveTo
      rw [hstate, hwork]
      simp [StreamPhase.work, ProcessingState.work]
    · exact hresumed _ rfl
    · exact hresumed _ rfl
  · exact hresumed _ rfl
  · apply lowers_fail
    rw [hstate, hwork]
    simp [ProcessingState.work]
  · apply lowers_moveTo
    rw [hstate, hwork]
    simp [StreamPhase.work, ProcessingState.work]

theorem lowers_resumePublication {msg : ProtoMessage} {outputs : List Nat}
    (hphase : task.phase = .publishing msg outputs) (sendError : Option String) :
    d.Lowers i task (d.resumePublication i task msg sendError outputs) := by
  have hwork : task.phase.work (d.processor.tasks i) = outputs.length + 4 := by
    rw [hphase]
    rfl
  unfold resumePublication
  split
  · apply lowers_moveTo
    rw [hwork]
    simp [StreamPhase.work]
  · rename_i outConn rest
    rw [List.length_cons] at hwork
    split
    · apply lowers_moveTo
      rw [hwork]
      simp [StreamPhase.work]
    · split
      · apply lowers_fail
        omega
      · apply lowers_moveTo_sent
        rw [hwork]
        split <;> simp [StreamPhase.work]

theorem lowers_notify {error : HandlingError} (hphase : task.phase = .notifying error) :
    d.Lowers i task (d.notify i task error) := by
  unfold notify
  split
  · refine ⟨.receiving, ⟨rfl, rfl, fun _ _ => rfl⟩, ?_⟩
    simp [hphase, StreamPhase.work]
  · apply lowers_moveTo
    simp [hphase, StreamPhase.work]

theorem lowers_leave {tryToReconnect : Bool} (hphase : task.phase = .leaving tryToReconnect)
    (choices : Choices) : d.Lowers i task (d.leave i task tryToReconnect choices) := by
  unfold leave
  split
  · rename_i hcondition
    simp only [Bool.and_eq_true] at hcondition
    apply lowers_moveTo
    simp [hphase, StreamPhase.work, hcondition.1.1]
  · refine ⟨.purgingSubscriptions, ⟨rfl, rfl, fun _ _ => rfl⟩, ?_⟩
    rw [hphase]
    cases tryToReconnect
    · simp [StreamPhase.work]
    · simp [StreamPhase.work]

theorem lowers_restore {subscriptions : List SubscriptionInfo}
    (hphase : task.phase = .restoring subscriptions) (sendError : Option String) :
    d.Lowers i task (d.restore i task sendError subscriptions) := by
  have hwork : task.phase.work (d.processor.tasks i) = subscriptions.length + 1 := by
    rw [hphase]
    rfl
  unfold restore
  split
  · apply lowers_moveTo
    rw [hwork]
    simp [StreamPhase.work]
  · split
    all_goals
      first | apply lowers_moveTo | apply lowers_moveTo_sent
      rw [hwork]
      simp [StreamPhase.work]

/-- A task that is neither waiting for a message nor reconnecting comes closer to its end. -/
theorem lowers_advance (htask : d.streams[i]? = some task) (hreceiving : task.phase ≠ .receiving)
    (hreconnecting : task.phase.isReconnecting = false) (hover : task.phase.isOver = false)
    (choices : Choices) : d.Lowers i task (d.advance i task choices task.phase) := by
  rcases hphase : task.phase with _ | msg | ⟨msg, outputs⟩ | error | tryToReconnect |
    ⟨attempts, subscriptions⟩ | subscriptions | _ | _ | _ | connected
  all_goals simp only [hphase] at hreceiving hreconnecting hover
  case receiving => exact absurd rfl hreceiving
  case subscribing => exact lowers_resumeSubscription htask hphase choices.sendError
  case publishing => exact lowers_resumePublication hphase choices.sendError
  case notifying => exact lowers_notify hphase
  case leaving => exact lowers_leave hphase choices
  case reconnecting => simp [StreamPhase.isReconnecting] at hreconnecting
  case restoring => exact lowers_restore hphase choices.sendError
  case purgingSubscriptions =>
    refine ⟨.purgingRemote, ⟨rfl, rfl, fun _ _ => rfl⟩, ?_⟩
    simp [hphase, StreamPhase.work]
  case purgingRemote =>
    refine ⟨.ended, ⟨rfl, rfl, fun _ _ => rfl⟩, ?_⟩
    simp [hphase, StreamPhase.work]
  case ended => simp [StreamPhase.isOver] at hover
  case panicked => simp [StreamPhase.isOver] at hover

end Lowers

/-! ## Rounds -/

section Rounds

variable [NameHash] {d : DataPath} {i : Nat} {task : StreamTask}

/-- A task that is told to stop no longer waits, for a message or for a connection. -/
theorem stop_of_told (htask : d.streams[i]? = some task) (htold : d.told task = true) :
    ∃ phase : StreamPhase, d.Moves i phase (d.step (.stop i)) ∧ phase ≠ .receiving ∧
      phase.isReconnecting = false ∧ (phase.isOver = true ↔ task.phase.isOver = true) ∧
      (d.step (.stop i)).processor = d.processor ∧
      phase.work (d.processor.tasks i) ≤ task.phase.work (d.processor.tasks i) := by
  simp only [step, htask, stop, htold, if_true]
  split
  · rename_i hphase
    refine ⟨.leaving false, moves_moveTo d i _, ?_⟩
    simp [hphase, StreamPhase.isReconnecting, StreamPhase.isOver, StreamPhase.work, moveTo]
  · rename_i hphase
    refine ⟨.leaving false, moves_moveTo d i _, ?_⟩
    simp [hphase, StreamPhase.isReconnecting, StreamPhase.isOver, StreamPhase.work, moveTo]
  · rename_i hreceiving hreconnecting
    refine ⟨task.phase, ⟨rfl, (moveTo_phase htask).symm, fun _ _ => rfl⟩, hreceiving, ?_,
      Iff.rfl, rfl, le_rfl⟩
    rcases hphase : task.phase with _ | msg | ⟨msg, outputs⟩ | error | tryToReconnect |
      ⟨attempts, subscriptions⟩ | subscriptions | _ | _ | _ | connected
    case reconnecting => exact absurd hphase (hreconnecting attempts subscriptions)
    all_goals rfl

/-- A round of a task that was told to stop: it is over, or less is left to do. -/
theorem round_of_told (hdrained : d.drained = true) (turn : Nat × Choices) :
    (d.round turn).drained = true ∧ (d.round turn).work turn.1 ≤ d.work turn.1 - 1 ∧
      ∀ j, j ≠ turn.1 → (d.round turn).work j ≤ d.work j := by
  obtain ⟨i, choices⟩ := turn
  simp only [round]
  rcases htask : d.streams[i]? with _ | task
  · have hstop : d.step (.stop i) = d := by simp [step, htask]
    have hadvance : d.step (.advance i choices) = d := by simp [step, htask]
    rw [hstop, hadvance]
    exact ⟨hdrained, by simp [work, htask], fun _ _ => le_rfl⟩
  obtain ⟨phase, hmoves, hreceiving, hreconnecting, hover, hprocessor, hle⟩ :=
    stop_of_told htask (show d.told task = true by simp [told, hdrained])
  have hstopped : (d.step (.stop i)).streams[i]? = some { task with phase := phase } := by
    rw [hmoves.streams]
    exact getElem?_moveTo_self htask
  have hself := hmoves.work_self htask
  have hadvance : (d.step (.stop i)).step (.advance i choices) = (d.step (.stop i)).advance i
      { task with phase := phase } choices phase := by
    simp only [step] at hstopped ⊢
    simp only [hstopped]
  rw [hprocessor] at hself
  have hwork : d.work i = task.phase.work (d.processor.tasks i) := by simp [work, htask]
  rw [hadvance]
  by_cases hphase : phase.isOver = true
  · have hsame : (d.step (.stop i)).advance i { task with phase := phase } choices phase =
        d.step (.stop i) := by
      cases phase
      all_goals simp [StreamPhase.isOver] at hphase
      all_goals rfl
    rw [hsame]
    refine ⟨hmoves.drained.trans hdrained, ?_, fun j hne => (hmoves.work_of_ne hne).le⟩
    rw [hself]
    cases phase
    all_goals simp [StreamPhase.isOver] at hphase
    all_goals simp [StreamPhase.work]
  · obtain ⟨next, hnext, hless⟩ := lowers_advance hstopped hreceiving hreconnecting
      (by simpa using hphase) choices
    rw [hprocessor] at hless
    refine ⟨hnext.drained.trans (hmoves.drained.trans hdrained), ?_, fun j hne => ?_⟩
    · rw [hnext.work_self hstopped, hwork]
      exact Nat.le_sub_one_of_lt (Nat.lt_of_lt_of_le hless hle)
    · rw [hnext.work_of_ne hne, hmoves.work_of_ne hne]

theorem round_eq_run (d : DataPath) (turns : List (Nat × Choices)) :
    Runs.run round d turns = Runs.run step d
      (turns.flatMap fun turn => [.stop turn.1, .advance turn.1 turn.2]) := by
  induction turns generalizing d with
  | nil => rfl
  | cons turn turns ih =>
      simp only [Runs.run_cons, List.flatMap_cons, List.cons_append, List.nil_append]
      exact ih _

end Rounds

/-- A node that was drained at any point of any run.  Once every task has had the rounds it
    needs, in whatever order and with whatever the environment does, no connection is left
    but those of tasks that have panicked. -/
theorem drained_node_empties [NameHash] (events : List DataPathEvent)
    (turns : List (Nat × Choices)) (hdrained : (Runs.run step new events).drained = true)
    (henough : ∀ i, (Runs.run step new events).work i ≤ turns.countP fun turn => turn.1 = i) :
    let e := Runs.run round (Runs.run step new events) turns
    (∀ (i : Nat) (task : StreamTask), e.streams[i]? = some task → task.phase.isOver = true) ∧
    ∀ conn connection, e.forwarder.getConnection conn = some connection →
      ∃ (i : Nat) (task : StreamTask), e.streams[i]? = some task ∧ task.connIndex = conn ∧
        task.phase = .panicked true := by
  intro e
  have hwork : ∀ i, e.work i = 0 := by
    intro i
    have hrank := @Runs.rank_run _ _ round Nat _ Prod.fst work (fun d => d.drained = true)
      (fun d turn hd => (round_of_told hd turn).1) (fun d turn hd => (round_of_told hd turn).2.1)
      (fun d turn j hd hne => (round_of_told hd turn).2.2 j hne) turns _ hdrained i
    exact Nat.le_zero.1 (hrank.trans (Nat.sub_eq_zero_of_le (henough i)).le)
  have hover : ∀ (i : Nat) (task : StreamTask), e.streams[i]? = some task →
      task.phase.isOver = true := by
    intro i task htask
    have hzero : task.phase.work (e.processor.tasks i) = 0 := by
      simpa [work, htask] using hwork i
    exact StreamPhase.isOver_of_work_eq_zero hzero
  refine ⟨hover, fun conn connection hget => ?_⟩
  have he : e.Owned := by
    have hrun := owned_run
      (events ++ turns.flatMap fun turn => [.stop turn.1, .advance turn.1 turn.2])
    rw [Runs.run_append, ← round_eq_run] at hrun
    exact hrun
  obtain ⟨i, task, htask, hholds, hindex⟩ := he.exists_task hget
  refine ⟨i, task, htask, hindex, ?_⟩
  have hphase := hover i task htask
  cases hlast : task.phase with
  | panicked connected =>
      rw [hlast] at hholds
      exact congrArg StreamPhase.panicked hholds
  | _ =>
      rw [hlast] at hholds hphase
      simp [StreamPhase.isOver, StreamPhase.holds] at hphase hholds

/-- An application, a peer that has connected, and a connection to another node that is lost
    and is being made again when the node is drained. -/
def drainedNode : List DataPathEvent :=
  [.registerLocalConnection, .openChannel, .connect true, .receive 2 .failed sampleChoices,
    .advance 2 sampleChoices, .drain]

/-- Three rounds for each of the three tasks. -/
def threeRounds : List (Nat × Choices) :=
  [0, 1, 2, 2, 1, 0, 0, 1, 2].map fun i => (i, sampleChoices)

theorem drained_node_empties_sample :
    let d := Runs.run (@step sampleHash) new drainedNode
    d.forwarder.ConnectedAs 2 false ∧
      ∀ conn, (Runs.run (@round sampleHash) d threeRounds).forwarder.getConnection conn = none := by
  intro d
  have henough : ∀ i, d.work i ≤ threeRounds.countP fun turn => turn.1 = i := by
    rintro (_ | _ | _ | i)
    · decide
    · decide
    · decide
    · exact Nat.zero_le _
  obtain ⟨-, hleft⟩ := @drained_node_empties sampleHash drainedNode threeRounds rfl henough
  refine ⟨⟨⟨.client, .Remote⟩, rfl, rfl⟩, fun conn => ?_⟩
  by_contra hsome
  obtain ⟨connection, hget⟩ := Option.ne_none_iff_exists'.1 hsome
  obtain ⟨i, task, htask, -, hphase⟩ := hleft conn connection hget
  -- all three tasks have ended
  rcases i with _ | _ | _ | i
  all_goals cases htask
  all_goals cases hphase

end DataPath

end Slim
