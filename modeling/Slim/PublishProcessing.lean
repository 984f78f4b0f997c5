import Mathlib.Data.List.TakeWhile
import Slim.SubscriptionProcessing

/-!
# Publications: `process_publish` and `match_and_forward_msg`

A publication that names no output connection is handed to the connections that the
subscription table answers with, one after the other.  The loop over them returns at the
first send that fails.
-/

namespace Slim

open Machine
open SubscriptionTableImpl (sampleType)

/-! ## The model -/

/-- The ways in which a publication stops its task: a field that is not there, or a list of
    outputs that is empty (`out_vec.len() - 1` overflows in a debug build; in a release
    build it wraps and `out_vec[0]` is out of bounds). -/
inductive PublishPanic where
  | access (panic : AccessPanic)
  | noOutput
deriving DecidableEq, Repr

/-- What has been done with a publication: the result, and the messages that were handed to
    connections, in this order. -/
structure Published where
  result : Except DataPathError Unit
  sent : List (Nat × ProtoMessage)

namespace Forwarder

section Model

variable (f : Forwarder Connection) (msg : ProtoMessage)

/-- `send_msg` with the error that the caller makes of its error; `sendError` is what the
    channels report. -/
def sendPublication (outConn : Nat) (sendError : Nat → Option String) :
    Except PublishPanic Published :=
  match f.transmit msg outConn (sendError outConn) with
  | .error panic => .error (.access panic)
  | .ok (.error e) => .ok ⟨.error (.publicationError e.display), []⟩
  | .ok (.ok sent) => .ok ⟨.ok (), [(outConn, sent)]⟩

/-- The loop over the outputs.  A copy of the message goes to all of them but the last. -/
def sendEach (sendError : Nat → Option String) : List Nat → Except PublishPanic Published
  | [] => .error .noOutput
  | [last] => f.sendPublication msg last sendError
  | outConn :: next :: rest => do
      let first ← f.sendPublication msg outConn sendError
      match first.result with
      | .error _ => return first
      | .ok () =>
          let others ← sendEach sendError (next :: rest)
          return ⟨others.result, first.sent ++ others.sent⟩

def matchAndForwardMsg (agentType : AgentType) (inConnection : Nat) (fanout : UInt32)
    (agentId : Option UInt64) (rng : Rng) (order : IterOrder (Nat × Nat))
    (sendError : Nat → Option String) : Except PublishPanic Published := do
  match ← msg.getForwardTo.mapError PublishPanic.access with
  | some outConn => f.sendPublication msg outConn sendError
  | none =>
      match f.onPublishMsgMatch agentType agentId inConnection fanout rng order with
      | .ok outVec => f.sendEach msg sendError outVec
      | .error e => return ⟨.error (.publicationError e.display), []⟩

def processPublish (inConnection : Nat) (rng : Rng) (order : IterOrder (Nat × Nat))
    (sendError : Nat → Option String) : Except PublishPanic Published := do
  let (agentType, agentId) ← msg.getDst.mapError PublishPanic.access
  let fanout ← msg.getFanout.mapError PublishPanic.access
  f.matchAndForwardMsg msg agentType inConnection fanout agentId rng order sendError

end Model

/-! ## The messages that reach `process_publish` -/

/-- The span of the message was made when it was received. -/
theorem readable_of_handled [NameHash] {f : Forwarder Connection} {connIndex : Nat}
    {raw msg : ProtoMessage} {sendError : Option String}
    (hhandled : f.handleNewMessage connIndex raw sendError = .ok (.publication msg)) :
    ∃ cleared, Readable msg cleared := by
  unfold handleNewMessage at hhandled
  rcases hvalid : raw.validate with e | ⟨⟩
  · rw [hvalid] at hhandled
    cases hhandled
  obtain ⟨header, source, destination, hheader, -⟩ := ProtoMessage.validate_ok_iff.1 hvalid
  rw [hvalid] at hhandled
  obtain ⟨stamped, hstamped, hhandled⟩ := bind_eq_ok hhandled
  obtain ⟨⟨⟩, hspan, hhandled⟩ := bind_eq_ok hhandled
  obtain ⟨messageType, htype, hhandled⟩ := bind_eq_ok hhandled
  have hsame : stamped = msg := by
    cases messageType with
    | publish publish =>
        cases hhandled
        rfl
    | subscribe subscribe =>
        obtain ⟨processed, -, hleft⟩ := bind_eq_ok hhandled
        cases hleft
    | unsubscribe unsubscribe =>
        obtain ⟨processed, -, hleft⟩ := bind_eq_ok hhandled
        cases hleft
  subst hsame
  rw [ProtoMessage.setIncomingConn, ProtoMessage.modifySlimHeader_of_some _ hheader,
    Except.ok.injEq] at hstamped
  have hset := ProtoMessage.tryGetSlimHeader_withHeader hheader
    { header with incomingConn := some connIndex }
  rw [hstamped] at hset
  refine ⟨_, ProtoMessage.modifySlimHeader_of_some _ hset, ?_⟩
  rw [← hspan]
  apply createSpan_withHeader hset
  · rfl
  · rfl

/-! ## The loop -/

/-- The connection is there and its channel takes the message. -/
def sends (f : Forwarder Connection) (sendError : Nat → Option String) (conn : Nat) : Bool :=
  (f.sendMsg conn (sendError conn)).isOk

section Loop

variable {msg cleared : ProtoMessage}

theorem sendPublication_eq (hs : Readable msg cleared) (f : Forwarder Connection)
    (sendError : Nat → Option String) (outConn : Nat) :
    ∃ result, f.sendPublication msg outConn sendError =
        .ok ⟨result, if f.sends sendError outConn then [(outConn, cleared)] else []⟩ ∧
      (result = .ok () ↔ f.sends sendError outConn = true) := by
  unfold sendPublication sends
  rw [hs.transmit]
  rcases f.sendMsg outConn (sendError outConn) with e | ⟨⟩
  · exact ⟨_, rfl, by simp [Except.isOk, Except.toBool]⟩
  · exact ⟨_, rfl, by simp [Except.isOk, Except.toBool]⟩

/-- The loop hands the message to the outputs before the first whose send fails, and
    succeeds if there is none. -/
theorem sendEach_eq (hs : Readable msg cleared) (f : Forwarder Connection)
    (sendError : Nat → Option String) {out : List Nat} (hne : out ≠ []) :
    ∃ result, f.sendEach msg sendError out =
        .ok ⟨result, (out.takeWhile (f.sends sendError)).map fun conn => (conn, cleared)⟩ ∧
      (result = .ok () ↔ ∀ conn ∈ out, f.sends sendError conn = true) := by
  induction out with
  | nil => exact absurd rfl hne
  | cons outConn rest ih =>
      obtain ⟨first, hfirst, hok⟩ := sendPublication_eq hs f sendError outConn
      rcases hsends : f.sends sendError outConn with _ | _
      · -- the loop ends here, whether or not there are more outputs
        rw [hsends] at hfirst hok
        have hfailed : ∃ e, first = .error e := by
          rcases first with e | ⟨⟩
          · exact ⟨e, rfl⟩
          · simp at hok
        obtain ⟨e, rfl⟩ := hfailed
        refine ⟨.error e, ?_, by simp [hsends]⟩
        cases rest with
        | nil => simp [sendEach, hfirst, hsends]
        | cons next rest =>
            simp only [sendEach, hfirst, bind_ok, List.takeWhile_cons, hsends]
            rfl
      · rw [hsends] at hfirst hok
        simp only [iff_true] at hok
        subst hok
        cases rest with
        | nil => exact ⟨.ok (), by simp [sendEach, hfirst, hsends], by simp [hsends]⟩
        | cons next rest =>
            obtain ⟨result, hrest, hall⟩ := ih (by simp)
            refine ⟨result, ?_, by simp [hall, hsends]⟩
            rw [sendEach, hfirst, bind_ok]
            simp only [hrest, bind_ok, List.takeWhile_cons_of_pos hsends]
            rfl

end Loop

/-! ## One dead subscriber -/

/-- Every output whose send succeeds gets the message once, and the call fails exactly if
    some send does. -/
structure ServesAll (f : Forwarder Connection) (msg : ProtoMessage) (out : List Nat)
    (sendError : Nat → Option String) (published : Published) : Prop where
  once : ∀ conn ∈ out, f.sendMsg conn (sendError conn) = .ok () →
    ∃ cleared, msg.clearSlimHeader = .ok cleared ∧
      published.sent.filter (fun sent => sent.1 = conn) = [(conn, cleared)]
  fails_iff : (∃ e, published.result = .error e) ↔
    ∃ conn ∈ out, f.sendMsg conn (sendError conn) ≠ .ok ()

theorem sends_iff (f : Forwarder Connection) (sendError : Nat → Option String) (conn : Nat) :
    f.sends sendError conn = true ↔ f.sendMsg conn (sendError conn) = .ok () := by
  unfold sends
  rcases f.sendMsg conn (sendError conn) with e | ⟨⟩
  · simp [Except.isOk, Except.toBool]
  · simp [Except.isOk, Except.toBool]

theorem filter_sent_eq (outs : List Nat) (cleared : ProtoMessage) (conn : Nat) :
    (outs.map fun out => (out, cleared)).filter (fun sent => sent.1 = conn) =
      List.replicate (outs.count conn) (conn, cleared) := by
  induction outs with
  | nil => rfl
  | cons out outs ih =>
      by_cases hsame : out = conn
      · subst hsame
        simp [ih, List.replicate_succ]
      · simp [hsame, ih]

/-- For every list of outputs that the subscription table answers with, and whichever of the
    sends fail, all others are served exactly if each of them stands, once, before the first
    output whose send fails. -/
theorem dead_subscriber_starves_iff [NameHash] (f : Forwarder Connection)
    {connIndex : Nat} {raw msg : ProtoMessage} {error : Option String}
    (hhandled : f.handleNewMessage connIndex raw error = .ok (.publication msg))
    (hforward : msg.getForwardTo = .ok none) (agentType : AgentType) (agentId : Option UInt64)
    (inConnection : Nat) (fanout : UInt32) (rng : Rng) (order : IterOrder (Nat × Nat))
    (sendError : Nat → Option String) {out : List Nat}
    (hout : f.onPublishMsgMatch agentType agentId inConnection fanout rng order = .ok out) :
    ∃ published,
      f.matchAndForwardMsg msg agentType inConnection fanout agentId rng order sendError =
        .ok published ∧
      (f.ServesAll msg out sendError published ↔
        (out.takeWhile (f.sends sendError)).Nodup ∧
          ∀ conn ∈ out, f.sendMsg conn (sendError conn) = .ok () →
            conn ∈ out.takeWhile (f.sends sendError)) := by
  obtain ⟨cleared, hs⟩ := readable_of_handled hhandled
  obtain ⟨result, heach, hok⟩ := sendEach_eq hs f sendError (ne_nil_of_onPublishMsgMatch hout)
  have hpublished :
      f.matchAndForwardMsg msg agentType inConnection fanout agentId rng order sendError =
        .ok ⟨result, (out.takeWhile (f.sends sendError)).map fun conn => (conn, cleared)⟩ := by
    simp only [matchAndForwardMsg, hforward, hout]
    exact heach
  refine ⟨_, hpublished, ?_⟩
  have hfails : (∃ e, result = .error e) ↔
      ∃ conn ∈ out, f.sendMsg conn (sendError conn) ≠ .ok () := by
    rcases result with e | ⟨⟩
    · simpa [sends_iff] using hok
    · simpa [sends_iff] using hok
  constructor
  · intro hserves
    have hcount : ∀ conn ∈ out, f.sendMsg conn (sendError conn) = .ok () →
        (out.takeWhile (f.sends sendError)).count conn = 1 := by
      intro conn hmem hsend
      obtain ⟨left, -, hsent⟩ := hserves.once conn hmem hsend
      rw [filter_sent_eq] at hsent
      simpa using congrArg List.length hsent
    refine ⟨List.nodup_iff_count_le_one.2 fun conn => ?_, fun conn hmem hsend => ?_⟩
    · by_cases hmem : conn ∈ out.takeWhile (f.sends sendError)
      · exact (hcount conn ((List.takeWhile_prefix _).subset hmem)
          ((sends_iff f sendError conn).1 (List.mem_takeWhile_imp hmem))).le
      · simp [List.count_eq_zero_of_not_mem hmem]
    · apply List.count_pos_iff.1
      simp [hcount conn hmem hsend]
  · rintro ⟨hnodup, hreached⟩
    refine ⟨fun conn hmem hsend => ⟨cleared, hs.clear, ?_⟩, hfails⟩
    rw [filter_sent_eq, List.count_eq_one_of_mem hnodup (hreached conn hmem hsend)]
    rfl

/-- The applications on connections 1 and 2 are subscribed to the same name. -/
def twoSubscribers : Forwarder Connection :=
  Runs.run exec new
    [.connectionEstablished ⟨.server, .Local⟩ none, .connectionEstablished ⟨.server, .Local⟩ none,
      .connectionEstablished ⟨.server, .Local⟩ none,
      .subscriptionMsg sampleType (some 1) 1 true true,
      .subscriptionMsg sampleType (some 1) 2 true true]

/-- A publication to all subscribers of the name. -/
def samplePublication : ProtoMessage :=
  ProtoMessage.newPublish ⟨sampleType, 7⟩ sampleType (some 1)
    (some { SlimHeaderFlags.default with fanout := 0 }) "text" []

/-- The channel of one connection is closed. -/
def closed (conn : Nat) : Nat → Option String :=
  fun other => if other = conn then some "channel closed" else none

/-- Connection 1 is dead: connection 2 gets nothing, although a send to it would succeed. -/
theorem dead_subscriber_starves_next :
    ∃ msg published,
      @handleNewMessage sampleHash twoSubscribers 0 samplePublication none =
        .ok (.publication msg) ∧
      twoSubscribers.onPublishMsgMatch sampleType (some 1) 0 0 Rng.zero IterOrder.stored =
        .ok [1, 2] ∧
      twoSubscribers.sendMsg 2 (closed 1 2) = .ok () ∧
      twoSubscribers.processPublish msg 0 Rng.zero IterOrder.stored (closed 1) = .ok published ∧
      published.sent = [] ∧
      ¬ twoSubscribers.ServesAll msg [1, 2] (closed 1) published := by
  refine ⟨_, _, rfl, rfl, rfl, rfl, rfl, fun hserves => ?_⟩
  obtain ⟨cleared, -, hsent⟩ := hserves.once 2 (by decide) rfl
  cases hsent

/-- Connection 2 is dead: connection 1 comes first and is served. -/
theorem dead_subscriber_starves_sample :
    ∃ msg published,
      twoSubscribers.matchAndForwardMsg msg sampleType 0 0 (some 1) Rng.zero IterOrder.stored
        (closed 2) = .ok published ∧
      twoSubscribers.ServesAll msg [1, 2] (closed 2) published := by
  obtain ⟨published, hpublished, hserves⟩ := @dead_subscriber_starves_iff sampleHash
    twoSubscribers 0 samplePublication _ none rfl rfl sampleType (some 1) 0 0 Rng.zero
    IterOrder.stored (closed 2) [1, 2] rfl
  refine ⟨_, published, hpublished, hserves.2 ⟨?_, ?_⟩⟩
  · decide
  · intro conn hmem hsend
    simp only [List.mem_cons, List.not_mem_nil, or_false] at hmem
    rcases hmem with rfl | rfl
    · decide
    · cases hsend

end Forwarder

end Slim
