import Slim.Ring
import Slim.StreamPair

/-!
# The send buffer is a sliding window

The send buffer of a producer is a ring with an index.  A push is accepted unless a message
with its id can be found; beside the buffer stands the log of the accepted messages since
the last `clear`.  The buffer holds the last messages of the log, and the index has exactly
the ids of these.  A producer session numbers its messages one after the other, so all of
them are accepted, and its buffer holds the last 500.
-/

namespace Slim

open HashKey Machine StreamPanic

/-- The calls on the send buffer. -/
inductive ProducerBufferCall where
  | push (msg : ProtoMessage)
  | clear

namespace ProducerBuffer

def call [NameHash] (s : ProducerBuffer) : ProducerBufferCall → Except AccessPanic ProducerBuffer
  | .push msg => s.push msg
  | .clear => .ok s.clear

/-- The messages accepted since the last `clear`, after one more call.  A push is accepted if
    its id cannot be found at the moment. -/
def accepted (s : ProducerBuffer) (log : List ProtoMessage) :
    ProducerBufferCall → List ProtoMessage
  | .push msg => if (s.get (getId msg).toNat).isNone then log ++ [msg] else log
  | .clear => []

/-- The buffer and the accepted messages after a sequence of calls. -/
def callAll [NameHash] : ProducerBuffer → List ProtoMessage → List ProducerBufferCall →
    Except AccessPanic (ProducerBuffer × List ProtoMessage)
  | s, log, [] => .ok (s, log)
  | s, log, next :: calls => do
      let after ← s.call next
      callAll after (s.accepted log next) calls

/-- What `push` reads of a message. -/
def Pushable [NameHash] (msg : ProtoMessage) : Prop :=
  ProtoMessage.Returns msg.getName ∧ ProtoMessage.Returns msg.getMessageId

/-- The message is that of the latest accepted push with the id, which is one of the last `n`. -/
def IsLatest (n : Nat) (log : List ProtoMessage) (id : Nat) (msg : ProtoMessage) : Prop :=
  ∃ k, log[k]? = some msg ∧ (getId msg).toNat = id ∧ log.length ≤ k + n ∧
    ∀ l other, k < l → log[l]? = some other → (getId other).toNat ≠ id

/-! ## The ring and its index -/

/-- The buffer with the messages of the log. -/
structure Keeps (n : Nat) (log : List ProtoMessage) (s : ProducerBuffer) : Prop where
  capacity_eq : s.capacity = n
  ring : Ring.Holds n log s.buffer
  next_eq : s.next = log.length % n
  mapped : ∀ p m, s.buffer[p]? = some (some m) → s.map.get? (getId m).toNat = some p

section Keeps

variable {n : Nat} {log : List ProtoMessage} {s : ProducerBuffer}

theorem keeps_withCapacity (n : Nat) (hpos : 0 < n) : Keeps n [] (withCapacity n hpos) where
  capacity_eq := rfl
  ring := Ring.holds_nil n
  next_eq := (Nat.zero_mod n).symm
  mapped := by
    intro p m hm
    cases List.eq_of_mem_replicate (List.mem_of_getElem? hm)

/-- The index holds the ids of the messages in the ring, each with its slot. -/
theorem Keeps.map_iff (hs : Keeps n log s) (id p : Nat) :
    s.map.get? id = some p ↔ ∃ m, s.buffer[p]? = some (some m) ∧ (getId m).toNat = id := by
  constructor
  · intro hget
    obtain ⟨m, msgId, hslot, hmsgId, hid⟩ := s.stored id p hget
    exact ⟨m, hslot, by rw [getId_of_getMessageId hmsgId, hid]⟩
  · rintro ⟨m, hslot, rfl⟩
    exact hs.mapped p m hslot

theorem Keeps.get_eq_some_iff (hs : Keeps n log s) (id : Nat) (m : ProtoMessage) :
    s.get id = some m ↔ ∃ p : Nat, s.buffer[p]? = some (some m) ∧ (getId m).toNat = id := by
  unfold ProducerBuffer.get
  constructor
  · intro hget
    split at hget
    next => cases hget
    next p hp =>
      obtain ⟨found, hslot, hid⟩ := (hs.map_iff id p).1 hp
      rw [hslot] at hget
      cases hget
      exact ⟨p, hslot, hid⟩
  · rintro ⟨p, hslot, hid⟩
    rw [(hs.map_iff id p).2 ⟨m, hslot, hid⟩]
    simp only [hslot, Option.join_some]

theorem Keeps.contains_iff (hs : Keeps n log s) (id : Nat) :
    s.map.contains id = (s.get id).isSome := by
  unfold ProducerBuffer.get HashMap.contains
  rcases hget : s.map.get? id with _ | p
  · rfl
  · obtain ⟨m, hslot, -⟩ := (hs.map_iff id p).1 hget
    simp [hslot]

/-- Two of the last messages with one id are the same push. -/
theorem Keeps.eq_of_getId_eq (hs : Keeps n log s) {k l : Nat} {a b : ProtoMessage}
    (ha : log[k]? = some a) (hb : log[l]? = some b) (hk : log.length ≤ k + n)
    (hl : log.length ≤ l + n) (hsame : getId a = getId b) : k = l := by
  have hka := hs.mapped _ _ (hs.ring.kept k a ha hk)
  have hlb := hs.mapped _ _ (hs.ring.kept l b hb hl)
  rw [hsame, hlb] at hka
  have hkl : Ring.Recent n log k := ⟨(List.getElem?_eq_some_iff.1 ha).1, hk⟩
  have hll : Ring.Recent n log l := ⟨(List.getElem?_eq_some_iff.1 hb).1, hl⟩
  exact hkl.eq_of_mod_eq hll (Option.some.inj hka).symm

theorem Keeps.get_iff (hs : Keeps n log s) (id : Nat) (m : ProtoMessage) :
    s.get id = some m ↔ IsLatest n log id m := by
  rw [hs.get_eq_some_iff]
  constructor
  · rintro ⟨p, hslot, hid⟩
    obtain ⟨k, hk, hrecent, -⟩ := hs.ring.exists_recent hslot
    refine ⟨k, hk, hid, hrecent.2, ?_⟩
    intro l other hlt hother hsame
    have hids : getId m = getId other := UInt32.toNat_inj.1 (by rw [hid, hsame])
    have heq := hs.eq_of_getId_eq hk hother hrecent.2 (by have := hrecent.2; omega) hids
    omega
  · rintro ⟨k, hk, hid, hrecent, -⟩
    exact ⟨k % n, hs.ring.kept k m hk hrecent, hid⟩

/-- A new message gets the next slot. -/
theorem Keeps.store (hs : Keeps n log s) {msg : ProtoMessage} {id : UInt32}
    (hid : msg.getMessageId = .ok id) (hnew : s.map.contains id.toNat = false) :
    Keeps n (log ++ [msg]) (s.store msg id hid) := by
  have hpos : 0 < n := by
    rw [← hs.capacity_eq]
    exact Nat.zero_lt_of_lt s.next_lt
  have hgetId := getId_of_getMessageId hid
  constructor
  case capacity_eq => exact hs.capacity_eq
  case ring =>
    have hring := hs.ring.write hpos msg
    rwa [← hs.next_eq] at hring
  case next_eq =>
    simp only [ProducerBuffer.store, hs.capacity_eq, hs.next_eq, List.length_append,
      List.length_singleton, Nat.mod_add_mod]
  case mapped =>
    intro p m hm
    simp only [ProducerBuffer.store, List.getElem?_set] at hm ⊢
    rw [HashMap.get?_insert]
    split at hm
    next hp =>
      -- the new message
      split at hm
      next =>
        cases hm
        rw [if_pos (by rw [hgetId]), hp]
      next => cases hm
    next hp =>
      have hold := hs.mapped p m hm
      have hne : key (getId m).toNat ≠ key id.toNat := by
        intro hsame
        rw [HashMap.contains, ← show (getId m).toNat = id.toNat from hsame, hold] at hnew
        cases hnew
      rw [if_neg hne]
      unfold mapWithoutNext
      split
      next message hnext =>
        rw [HashMap.get?_remove, if_neg, hold]
        intro hsame
        have hslot := hs.mapped s.next message hnext
        rw [← show (getId m).toNat = (getId message).toNat from hsame, hold] at hslot
        exact hp (Option.some.inj hslot).symm
      next => exact hold

/-- The name that the messages go to does not matter. -/
theorem Keeps.destination (hs : Keeps n log s) (destinationName : AgentType)
    (destinationId : Option UInt64) : Keeps n log { s with destinationName, destinationId } :=
  ⟨hs.capacity_eq, hs.ring, hs.next_eq, hs.mapped⟩

theorem Keeps.clear (hs : Keeps n log s) : Keeps n [] s.clear where
  capacity_eq := hs.capacity_eq
  ring := by
    rw [← hs.capacity_eq]
    exact Ring.holds_nil s.capacity
  next_eq := (Nat.zero_mod n).symm
  mapped := by
    intro p m hm
    cases List.eq_of_mem_replicate (List.mem_of_getElem? hm)

variable [NameHash]

theorem Keeps.push (hs : Keeps n log s) {s' : ProducerBuffer} {msg : ProtoMessage}
    (hpush : s.push msg = .ok s') : Keeps n (s.accepted log (.push msg)) s' := by
  obtain ⟨id, hid, destinationName, destinationId, ⟨hold, rfl⟩ | ⟨hnew, rfl⟩⟩ := push_cases hpush
  · rw [hs.contains_iff, ← getId_of_getMessageId hid] at hold
    rw [ProducerBuffer.accepted, if_neg (by simp [Option.isSome_iff_ne_none.1 hold])]
    exact hs.destination destinationName destinationId
  · have hfree := hnew
    rw [hs.contains_iff, ← getId_of_getMessageId hid, Option.isSome_eq_false_iff] at hfree
    rw [ProducerBuffer.accepted, if_pos hfree]
    exact (hs.destination destinationName destinationId).store hid hnew

theorem Keeps.call (hs : Keeps n log s) {s' : ProducerBuffer} {next : ProducerBufferCall}
    (hcall : s.call next = .ok s') : Keeps n (s.accepted log next) s' := by
  cases next with
  | push msg => exact hs.push hcall
  | clear =>
      cases hcall
      exact hs.clear

theorem Keeps.callAll {calls : List ProducerBufferCall} (hs : Keeps n log s)
    {s' : ProducerBuffer} {log' : List ProtoMessage}
    (hrun : ProducerBuffer.callAll s log calls = .ok (s', log')) : Keeps n log' s' := by
  induction calls generalizing s log with
  | nil =>
      cases hrun
      exact hs
  | cons next rest ih =>
      obtain ⟨after, hcall, hrest⟩ := bind_eq_ok hrun
      exact ih (hs.call hcall) hrest

theorem callAll_returns {calls : List ProducerBufferCall}
    (hcalls : ∀ msg, .push msg ∈ calls → Pushable msg) (s : ProducerBuffer)
    (log : List ProtoMessage) : ProtoMessage.Returns (callAll s log calls) := by
  induction calls generalizing s log with
  | nil => exact ⟨_, rfl⟩
  | cons next rest ih =>
      have hcall : ProtoMessage.Returns (s.call next) := by
        cases next with
        | clear => exact ⟨_, rfl⟩
        | push msg =>
            obtain ⟨hname, id, hid⟩ := hcalls msg List.mem_cons_self
            exact s.push_returns hname hid
      obtain ⟨after, hafter⟩ := hcall
      simp only [callAll, hafter, bind_ok]
      exact ih (fun msg hmsg => hcalls msg (List.mem_cons_of_mem _ hmsg)) _ _

end Keeps

end ProducerBuffer

/-! ## The producer of a session -/

/-- The message that is sent with the number for a message of the application. -/
def IsSentFor (id : UInt32) (original sent : ProtoMessage) : Prop :=
  ∃ (producer : ProducerState) (isBidirectional : Bool), producer.nextId = id ∧
    producer.stamp isBidirectional original = .ok sent

/-- The messages that were sent for the accepted ones, one after the other. -/
structure Numbering (accepted : Accepted) (sent : List ProtoMessage) : Prop where
  length_eq : sent.length = accepted.length
  numbered : ∀ k m, sent[k]? = some m → (getId m).toNat = k ∧
    ∃ original, accepted[k]? = some (getId m, original) ∧ IsSentFor (getId m) original m

namespace ProducerState

/-- The buffer of the producer holds the last of the messages sent. -/
structure Windowed (accepted : Accepted) (producer : ProducerState) (sent : List ProtoMessage) :
    Prop where
  nextId_eq : producer.nextId.toNat = accepted.length
  numbering : Numbering accepted sent
  keeps : producer.buffer.Keeps 500 sent

theorem windowed_new : Windowed [] new [] where
  nextId_eq := rfl
  numbering := by
    refine ⟨rfl, ?_⟩
    intro k m hm
    cases hm
  keeps := ProducerBuffer.keeps_withCapacity 500 _

section Windowed

variable {accepted : Accepted} {producer : ProducerState} {sent : List ProtoMessage}

/-- The ids in the buffer are the last 500. -/
theorem Windowed.get_iff (hs : Windowed accepted producer sent) (id : Nat) (m : ProtoMessage) :
    producer.buffer.get id = some m ↔
      producer.nextId.toNat - min producer.nextId.toNat 500 ≤ id ∧
        id < producer.nextId.toNat ∧ sent[id]? = some m := by
  have hlength := hs.numbering.length_eq
  have hnext := hs.nextId_eq
  rw [hs.keeps.get_iff]
  constructor
  · rintro ⟨k, hk, hid, hrecent, -⟩
    have hlt := (List.getElem?_eq_some_iff.1 hk).1
    obtain ⟨hnumber, -⟩ := hs.numbering.numbered k m hk
    obtain rfl : id = k := by omega
    exact ⟨by omega, by omega, hk⟩
  · rintro ⟨hle, hlt, hm⟩
    refine ⟨id, hm, (hs.numbering.numbered id m hm).1, by omega, ?_⟩
    intro l other hlater hother hsame
    obtain ⟨hnumber, -⟩ := hs.numbering.numbered l other hother
    omega

/-- The next number is not in the buffer, so the message is accepted. -/
theorem Windowed.accept [NameHash] {ctx : StreamContext} {next : ProducerState}
    (hs : Windowed accepted producer sent) {isBidirectional : Bool} {msg : ProtoMessage}
    {slimClosed : Bool} {effects : Effects}
    (hrun : producer.processMessageFromApp ctx isBidirectional msg slimClosed =
      .ok (effects, next))
    (hcount : accepted.length + 1 < 2 ^ 32) :
    ∃ stamped, Windowed (accepted ++ [(producer.nextId, msg)]) next (sent ++ [stamped]) := by
  obtain ⟨stamped, hstamped, hrun⟩ := mapError_bind_eq_ok hrun
  obtain ⟨buffer, hpush, hrun⟩ := mapError_bind_eq_ok hrun
  obtain ⟨nextId, hnext, hrun⟩ := mapError_bind_eq_ok hrun
  cases hrun
  obtain ⟨hid, -, -⟩ := stamp_eq_ok hstamped
  have hlength := hs.numbering.length_eq
  have hnew : (producer.buffer.get (getId stamped).toNat).isNone = true := by
    rw [Option.isNone_iff_eq_none, Option.eq_none_iff_forall_not_mem]
    intro m hm
    have hlt := ((hs.get_iff _ m).1 hm).2.1
    rw [hid] at hlt
    exact Nat.lt_irrefl _ hlt
  refine ⟨stamped, ?_, ⟨?_, ?_⟩, ?_⟩
  · rw [List.length_append, List.length_singleton, ← hs.nextId_eq]
    exact Build.toNat_succ32 (by rw [hs.nextId_eq]; exact hcount) hnext
  · rw [List.length_append, List.length_append, hlength, List.length_singleton,
      List.length_singleton]
  · intro k m hm
    rcases Nat.lt_trichotomy k sent.length with hlt | rfl | hgt
    · rw [List.getElem?_append_left hlt] at hm
      rw [List.getElem?_append_left (hlength ▸ hlt)]
      exact hs.numbering.numbered k m hm
    · rw [List.getElem?_append_right (Nat.le_refl _), Nat.sub_self] at hm
      cases hm
      refine ⟨by rw [hid, hs.nextId_eq, hlength], msg, ?_, producer, isBidirectional, hid.symm,
        hstamped⟩
      rw [hlength, List.getElem?_append_right (Nat.le_refl _), Nat.sub_self, hid]
      rfl
    · rw [List.getElem?_eq_none (by rw [List.length_append, List.length_singleton]; omega)] at hm
      cases hm
  · have hkeeps := hs.keeps.push hpush
    rwa [ProducerBuffer.accepted, if_pos hnew] at hkeeps

end Windowed

end ProducerState

/-- What an event does to the producer: nothing, or it accepts a message. -/
theorem Endpoint.Outcome.producer_cases [NameHash] {ctx : StreamContext}
    {prod prod' : Option ProducerState} {recv recv' : Option ReceiverState} {event : StreamEvent}
    {effects : Effects} (houtcome : Outcome ctx prod recv event effects prod' recv') :
    prod' = prod ∧ acceptedBy prod event = [] ∨
      ∃ producer next isBidirectional msg slimClosed, prod = some producer ∧ prod' = some next ∧
        acceptedBy prod event = [(producer.nextId, msg)] ∧
        producer.processMessageFromApp ctx isBidirectional msg slimClosed =
          .ok (effects, next) := by
  cases houtcome with
  | accepted hrun => exact .inr ⟨_, _, _, _, _, rfl, rfl, rfl, hrun⟩
  | replied hrun => exact .inl ⟨rfl, rfl⟩
  | @received prod _ _ msg direction _ _ hrun hdirection =>
      refine .inl ⟨rfl, ?_⟩
      cases direction with
      | North => rfl
      | South =>
          rw [hdirection rfl]
          rfl
  | rtxTimer hrun => exact .inl ⟨rfl, rfl⟩
  | beacon hrun htype => exact .inl ⟨rfl, rfl⟩
  | ignored hevent =>
      refine .inl ⟨rfl, ?_⟩
      unfold acceptedBy
      split
      next msg slimClosed => exact absurd rfl (hevent msg slimClosed)
      next => rfl

/-! ## The timer of the producer -/

/-- A session and the timer of its producer, which is created without being started: only a
    message of the application starts it, and it goes on for good. -/
structure TimedSession where
  session : StreamSession
  timerStarted : Bool

namespace TimedSession

def new (direction : SessionDirection) : TimedSession := ⟨StreamSession.new direction, false⟩

/-- `producer.timer.reset` stands at the end of `process_message_from_app`. -/
def step [NameHash] (ctx : StreamContext) (s : TimedSession) (event : StreamEvent) :
    TimedSession :=
  match event with
  | .producerTimer =>
      if s.timerStarted then { s with session := s.session.step ctx .producerTimer } else s
  | event =>
      let next := s.session.step ctx event
      ⟨next, s.timerStarted || decide (s.session.accepted.length < next.accepted.length)⟩

def run [NameHash] (ctx : StreamContext) (direction : SessionDirection)
    (events : List StreamEvent) : TimedSession :=
  Runs.run (step ctx) (new direction) events

/-- As long as the numbers do not begin anew, the producer has the last messages in its buffer,
    and a running timer means that there was a message. -/
structure Windowed (s : TimedSession) : Prop where
  producer : s.session.accepted.length < 2 ^ 32 → ∀ endpoint ∈ s.session.endpoint,
    ∀ prod ∈ endpoint.producer?, ∃ sent, prod.Windowed s.session.accepted sent
  timer : s.timerStarted = true → 0 < s.session.accepted.length

theorem windowed_new (direction : SessionDirection) : (new direction).Windowed := by
  constructor
  · rintro - _ ⟨⟩ prod hprod
    refine ⟨[], ?_⟩
    cases direction with
    | Sender =>
        cases hprod
        exact ProducerState.windowed_new
    | Receiver => cases hprod
    | Bidirectional =>
        cases hprod
        exact ProducerState.windowed_new
  · intro hstarted
    cases hstarted

section Step

variable [NameHash] {ctx : StreamContext}

/-- One event that the task of a session handles. -/
theorem windowed_session {s : StreamSession}
    (hs : s.accepted.length < 2 ^ 32 → ∀ endpoint ∈ s.endpoint,
      ∀ prod ∈ endpoint.producer?, ∃ sent, prod.Windowed s.accepted sent) (event : StreamEvent)
    (hcount : (s.step ctx event).accepted.length < 2 ^ 32) :
    ∀ endpoint ∈ (s.step ctx event).endpoint, ∀ prod ∈ endpoint.producer?,
      ∃ sent, prod.Windowed (s.step ctx event).accepted sent := by
  obtain ⟨more, hmore⟩ := StreamSession.exists_accepted_step ctx s event
  have hbefore : s.accepted.length < 2 ^ 32 := by
    rw [hmore, List.length_append] at hcount
    omega
  rcases hendpoint : s.endpoint with _ | endpoint
  · intro next hnext
    simp only [StreamSession.step, hendpoint] at hnext
    cases hnext
  rcases hevent : endpoint.processEvent ctx event with panic | ⟨effects, next⟩
  · intro after hafter
    simp only [StreamSession.step, hendpoint, hevent] at hafter
    cases hafter
  simp only [StreamSession.step, hendpoint, hevent] at hcount ⊢
  rintro _ ⟨⟩ prod hprod
  rcases (Endpoint.outcome_of_processEvent hevent).producer_cases with
    ⟨hsame, hnone⟩ | ⟨producer, after, isBidirectional, msg, slimClosed, hold, hnew, hone, hrun⟩
  · rw [hnone, List.append_nil]
    rw [hsame] at hprod
    exact hs hbefore endpoint hendpoint prod hprod
  · rw [hnew] at hprod
    cases hprod
    obtain ⟨sent, hsent⟩ := hs hbefore endpoint hendpoint producer hold
    rw [hone, List.length_append, List.length_singleton] at hcount
    obtain ⟨stamped, hstamped⟩ := hsent.accept hrun hcount
    rw [hone]
    exact ⟨sent ++ [stamped], hstamped⟩

theorem Windowed.step {s : TimedSession} (hs : s.Windowed) (event : StreamEvent) :
    (s.step ctx event).Windowed := by
  obtain ⟨more, hmore⟩ := StreamSession.exists_accepted_step ctx s.session event
  have hgrows : s.session.accepted.length ≤ (s.session.step ctx event).accepted.length := by
    rw [hmore, List.length_append]
    exact Nat.le_add_right _ _
  unfold TimedSession.step
  split
  next =>
    split
    next hstarted =>
      exact ⟨windowed_session hs.producer _,
        fun _ => Nat.lt_of_lt_of_le (hs.timer hstarted) hgrows⟩
    next => exact hs
  next =>
    refine ⟨windowed_session hs.producer _, ?_⟩
    intro hstarted
    simp only [Bool.or_eq_true, decide_eq_true_eq] at hstarted
    rcases hstarted with hold | hnew
    · exact Nat.lt_of_lt_of_le (hs.timer hold) hgrows
    · exact Nat.zero_lt_of_lt hnew

theorem windowed_run (ctx : StreamContext) (direction : SessionDirection)
    (events : List StreamEvent) : (run ctx direction events).Windowed := by
  apply Runs.run_invariant (fun s event hs _ => hs.step event) events (new direction)
    (Runs.along_of_forall (P := fun _ => True) events _ fun _ _ => trivial)
  exact windowed_new direction

end Step

end TimedSession

/-- The send buffer is a sliding window over the accepted pushes, for every capacity and every
    sequence of calls; and the buffer of a producer session that has accepted fewer than `2 ^ 32`
    messages holds the last 500 of them, each under its number.  The timer of the producer runs
    out only after a message has got a number. -/
theorem producerBuffer_sliding_window [NameHash] (n : Nat) (hpos : 0 < n)
    (calls : List ProducerBufferCall) (ctx : StreamContext) (direction : SessionDirection)
    (events : List StreamEvent)
    (hcount : (TimedSession.run ctx direction events).session.accepted.length < 2 ^ 32) :
    ((∀ msg, .push msg ∈ calls → ProducerBuffer.Pushable msg) →
      ProtoMessage.Returns (ProducerBuffer.callAll (.withCapacity n hpos) [] calls)) ∧
    (∀ s log, ProducerBuffer.callAll (.withCapacity n hpos) [] calls = .ok (s, log) →
      (∀ id m, s.get id = some m ↔ ProducerBuffer.IsLatest n log id m) ∧
      (∀ id p, s.map.get? id = some p ↔
        ∃ m, s.buffer[p]? = some (some m) ∧ (getId m).toNat = id) ∧
      s.next < s.buffer.length) ∧
    ∀ endpoint ∈ (TimedSession.run ctx direction events).session.endpoint,
      ∀ prod ∈ endpoint.producer?,
        (∃ sent, Numbering (TimedSession.run ctx direction events).session.accepted sent ∧
          sent.length = prod.nextId.toNat ∧
          ∀ id m, prod.buffer.get id = some m ↔
            prod.nextId.toNat - min prod.nextId.toNat 500 ≤ id ∧ id < prod.nextId.toNat ∧
              sent[id]? = some m) ∧
        ((TimedSession.run ctx direction events).timerStarted = true →
          1 ≤ prod.nextId.toNat) := by
  refine ⟨fun hcalls => ProducerBuffer.callAll_returns hcalls _ _, ?_, ?_⟩
  · intro s log hrun
    have hs := (ProducerBuffer.keeps_withCapacity n hpos).callAll hrun
    refine ⟨hs.get_iff, hs.map_iff, ?_⟩
    rw [s.length_eq]
    exact s.next_lt
  · intro endpoint hendpoint prod hprod
    have hs := TimedSession.windowed_run ctx direction events
    obtain ⟨sent, hsent⟩ := hs.producer hcount endpoint hendpoint prod hprod
    have hlength := hsent.numbering.length_eq
    refine ⟨⟨sent, hsent.numbering, by rw [hlength, hsent.nextId_eq], hsent.get_iff⟩, ?_⟩
    intro hstarted
    rw [hsent.nextId_eq]
    exact hs.timer hstarted

/-- A message with a number. -/
def pushSample (id : UInt32) : ProtoMessage :=
  ProtoMessage.newPublishWithHeaders
    (some (ProtoSlimHeader.new StreamPair.sampleProducer ⟨1, 1, 2, none⟩ none none))
    (some ⟨SessionHeaderType.stream.toInt, 5, id⟩) "" []

/-- Two messages of an application, and the timer runs out. -/
@[reducible] def timedSample : TimedSession :=
  @TimedSession.run sampleHash (StreamPair.sampleContext .first) .Sender
    [.producerTimer, .message (StreamPair.sampleMessage 10) .South false,
      .message (StreamPair.sampleMessage 11) .South false, .producerTimer]

/-- A ring of two slots takes three messages; the first is gone. -/
theorem producerBuffer_sliding_window_sample :
    0 < 2 ∧ timedSample.session.accepted.length = 2 ∧ timedSample.timerStarted = true ∧
      ∃ s log, @ProducerBuffer.callAll sampleHash (.withCapacity 2 (by decide)) []
          [.push (pushSample 0), .push (pushSample 1), .push (pushSample 1),
            .push (pushSample 2)] = .ok (s, log) ∧
        log = [pushSample 0, pushSample 1, pushSample 2] ∧ s.get 0 = none ∧
        ∀ m, s.get 2 = some m ↔ ProducerBuffer.IsLatest 2 log 2 m := by
  have hcount : timedSample.session.accepted.length = 2 := by decide +kernel
  obtain ⟨hreturns, hwindow, -⟩ := @producerBuffer_sliding_window sampleHash 2 (by decide)
    [.push (pushSample 0), .push (pushSample 1), .push (pushSample 1), .push (pushSample 2)]
    (StreamPair.sampleContext .first) .Sender
    [.producerTimer, .message (StreamPair.sampleMessage 10) .South false,
      .message (StreamPair.sampleMessage 11) .South false, .producerTimer]
    (by rw [hcount]; decide)
  have hpushable : ∀ id, @ProducerBuffer.Pushable sampleHash (pushSample id) :=
    fun id => ⟨⟨_, rfl⟩, ⟨_, rfl⟩⟩
  obtain ⟨⟨s, log⟩, hrun⟩ := hreturns (by
    intro msg hmsg
    simp only [List.mem_cons, ProducerBufferCall.push.injEq, List.not_mem_nil, or_false] at hmsg
    rcases hmsg with rfl | rfl | rfl | rfl <;> exact hpushable _)
  refine ⟨by decide, hcount, by decide +kernel, s, log, hrun, ?_, ?_,
    (hwindow s log hrun).1 2⟩
  · cases hrun
    rfl
  · cases hrun
    rfl

end Slim
