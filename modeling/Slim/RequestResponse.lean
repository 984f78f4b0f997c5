import Slim.Session
import Slim.Runs

/-!
# Request and response: `request_response.rs`, `timer.rs`

A request is handed to the network, then its timer is started, and then the timer is
stored under the id of the message together with the message.  A reply takes the entry
out of the map and stops the timer; a timer that runs out takes the entry out and
reports a timeout to the application.  The three run in different tasks.

The end of a timer is two steps: the timer task takes the branch of the elapsed sleep,
and from then on stopping the timer has no effect; then `on_failure` looks for the entry.
-/

namespace Slim

open HashKey Machine

/-! ## The session -/

/-- How far `send_message_with_timer` has come with a request. -/
inductive RequestPhase where
  | idle
  | sent (messageId : UInt32) (message : SessionMessage)
  | started (messageId : UInt32) (message : SessionMessage)
  | waiting (messageId : UInt32)

/-- The task of a timer.  Without retries a timer that ends goes to `on_failure` at once,
    so that `on_timeout` is never called. -/
inductive TimerPhase where
  | idle
  | sleeping
  | ended
  | stopped
  | reported
  | panicked -- "timer not found"
deriving DecidableEq, Repr

/-- Requests are numbered, and each has the timer of its number.  `entries` is the map
    `timers` of the source. -/
structure RequestResponse where
  common : Common
  entries : HashMap UInt32 (Nat × SessionMessage)
  requests : Nat → RequestPhase
  timers : Nat → TimerPhase
  toSlim : List ProtoMessage
  toApp : List (Except SessionError SessionMessage)

/-- The variant name, as `{:?}` prints it. -/
def SessionHeaderType.debug : SessionHeaderType → String
  | unspecified => "Unspecified"
  | fnf => "Fnf"
  | fnfReliable => "FnfReliable"
  | fnfAck => "FnfAck"
  | fnfDiscovery => "FnfDiscovery"
  | fnfDiscoveryReply => "FnfDiscoveryReply"
  | request => "Request"
  | reply => "Reply"
  | stream => "Stream"
  | pubSub => "PubSub"
  | rtxRequest => "RtxRequest"
  | rtxReply => "RtxReply"
  | beaconStream => "BeaconStream"
  | beaconPubSub => "BeaconPubSub"

/-- The request that waits for this message id or is about to. -/
def RequestPhase.messageId? : RequestPhase → Option UInt32
  | idle => none
  | sent messageId _ => some messageId
  | started messageId _ => some messageId
  | waiting messageId => some messageId

/-- `stop` and the drop of a timer: the sleep is cancelled. -/
def TimerPhase.cancel : TimerPhase → TimerPhase
  | sleeping => stopped
  | phase => phase

namespace RequestResponse

def new (common : Common) : RequestResponse where
  common := common
  entries := HashMap.empty
  requests := fun _ => .idle
  timers := fun _ => .idle
  toSlim := []
  toApp := []

/-- The message of the application as a request with a fresh message id. -/
def prepareRequest (s : RequestResponse) (message : SessionMessage) (messageId : UInt32) :
    Except AccessPanic SessionMessage := do
  let request ← message.message.modifySessionHeader fun header =>
    { header with
      sessionId := s.common.id
      messageId := messageId
      headerType := SessionHeaderType.request.toInt }
  return ⟨request, { message.info with id := s.common.id, messageId := some messageId }⟩

/-- The message of the application as a reply to the request it names. -/
def prepareReply (s : RequestResponse) (message : SessionMessage) (messageId : UInt32) :
    Except AccessPanic ProtoMessage :=
  message.message.modifySessionHeader fun header =>
    { header with
      sessionId := s.common.id
      messageId := messageId
      headerType := SessionHeaderType.reply.toInt }

/-- A message for the network; `sendError` is what the channel reports. -/
def sendToSlim (s : RequestResponse) (message : ProtoMessage) (sendError : Option String) :
    Except SessionError Unit × RequestResponse :=
  match sendError with
  | some text => (.error (.slimTransmission text), s)
  | none => (.ok (), { s with toSlim := s.toSlim ++ [message] })

/-- A message for the application; `sendError` is what the channel reports. -/
def sendToApp (s : RequestResponse) (message : SessionMessage) (sendError : Option String) :
    Except SessionError Unit × RequestResponse :=
  match sendError with
  | some text => (.error (.appTransmission text), s)
  | none => (.ok (), { s with toApp := s.toApp ++ [.ok message] })

/-- `on_message` from the application, up to the point where the message is handed to the
    network.  `i` is the number of the request and `draw` its random message id. -/
def onMessageSouth (s : RequestResponse) (i : Nat) (message : SessionMessage) (draw : UInt32)
    (sendError : Option String) :
    Except AccessPanic (Except SessionError Unit × RequestResponse) := do
  let _ ← message.message.getSessionHeader
  match message.info.sessionHeaderType with
  | .reply =>
      match message.info.messageId with
      | none => return (.error (.slimTransmission "missing message id for reply"), s)
      | some messageId => do
          let reply ← s.prepareReply message messageId
          return s.sendToSlim reply sendError
  | _ => do
      let request ← s.prepareRequest message draw
      match s.common.sessionConfig with
      | .requestResponse _ =>
          match s.sendToSlim request.message sendError with
          | (.error e, left) => return (.error e, left)
          | (.ok (), left) => return (.ok (), { left with
              requests := Function.update left.requests i (.sent draw request) })
      | _ => return (.error (.appTransmission "invalid session config"), s)

/-- `on_message` from the network. -/
def onMessageNorth (s : RequestResponse) (message : SessionMessage) (sendError : Option String) :
    Except AccessPanic (Except SessionError Unit × RequestResponse) := do
  let header ← message.message.getSessionHeader
  match message.info.sessionHeaderType with
  | .reply =>
      match s.entries.get? header.messageId with
      | some (i, _) =>
          return { s with
            entries := s.entries.remove header.messageId
            timers := Function.update s.timers i (s.timers i).cancel }.sendToApp message sendError
      | none => return (.error (.appTransmission ("timer not found for message id " ++
          toString header.messageId)), s)
  | .request =>
      return s.sendToApp { message with info := { message.info with sessionHeaderType := .reply } }
        sendError
  | other => return (.error (.appTransmission
      ("request/reply session: unsupported session type: " ++ other.debug)), s)

/-- The timer of a request that was sent is started. -/
def startTimer (s : RequestResponse) (i : Nat) : RequestResponse :=
  match s.requests i with
  | .sent messageId message =>
      { s with
        requests := Function.update s.requests i (.started messageId message)
        timers := Function.update s.timers i .sleeping }
  | _ => s

/-- The timer and the message are stored.  An entry that was there is dropped with its
    timer. -/
def insertEntry (s : RequestResponse) (i : Nat) : RequestResponse :=
  match s.requests i with
  | .started messageId message =>
      { s with
        requests := Function.update s.requests i (.waiting messageId)
        entries := s.entries.insert messageId (i, message)
        timers :=
          match s.entries.get? messageId with
          | some (j, _) => Function.update s.timers j (s.timers j).cancel
          | none => s.timers }
  | _ => s

/-- The sleep of the timer is over. -/
def endTimer (s : RequestResponse) (i : Nat) : RequestResponse :=
  match s.timers i with
  | .sleeping => { s with timers := Function.update s.timers i .ended }
  | _ => s

/-- `on_failure` of a timer that has ended. -/
def onFailure (s : RequestResponse) (i : Nat) : RequestResponse :=
  match s.timers i, (s.requests i).messageId? with
  | .ended, some messageId =>
      match s.entries.get? messageId with
      | some (j, message) =>
          { s with
            entries := s.entries.remove messageId
            toApp := s.toApp ++ [.error (.timeout s.common.id messageId message)]
            timers := Function.update (Function.update s.timers j (s.timers j).cancel) i .reported }
      | none => { s with timers := Function.update s.timers i .panicked }
  | _, _ => s

end RequestResponse

inductive RequestEvent where
  | south (i : Nat) (message : SessionMessage) (draw : UInt32) (sendError : Option String)
  | startTimer (i : Nat)
  | insertEntry (i : Nat)
  | north (message : SessionMessage) (sendError : Option String)
  | endTimer (i : Nat)
  | onFailure (i : Nat)

namespace RequestResponse

/-- A panic of an accessor ends its task and changes nothing.  The number of a request is
    used once. -/
def step (s : RequestResponse) : RequestEvent → RequestResponse
  | .south i message draw sendError =>
      match s.requests i, s.onMessageSouth i message draw sendError with
      | .idle, .ok (_, left) => left
      | _, _ => s
  | .startTimer i => s.startTimer i
  | .insertEntry i => s.insertEntry i
  | .north message sendError =>
      match s.onMessageNorth message sendError with
      | .ok (_, left) => left
      | .error _ => s
  | .endTimer i => s.endTimer i
  | .onFailure i => s.onFailure i

/-! ## Outstanding requests -/

/-- The request was handed to the network, and neither a reply to it nor its timeout has
    been processed. -/
def Outstanding (s : RequestResponse) (i : Nat) (messageId : UInt32) : Prop :=
  (s.requests i).messageId? = some messageId ∧ s.timers i ≠ .stopped ∧ s.timers i ≠ .reported

/-- The message ids that are drawn are distinct. -/
def Distinct (s : RequestResponse) : RequestEvent → Prop
  | .south _ _ draw _ => ∀ j, (s.requests j).messageId? ≠ some draw
  | _ => True

/-- The conditions on a step.  A reply is processed after the entry of its request was
    inserted, and not between the end of the timer and `on_failure`; and a timer does not
    end before its entry was inserted. -/
def Admits (s : RequestResponse) : RequestEvent → Prop
  | .north message _ => ∀ header i, message.message.getSessionHeader = .ok header →
      message.info.sessionHeaderType = .reply →
      (s.requests i).messageId? = some header.messageId →
      s.requests i = .waiting header.messageId ∧ s.timers i ≠ .ended
  | .endTimer i => ∀ messageId message, s.requests i ≠ .started messageId message
  | _ => True

/-! ## The invariant -/

/-- The timer of a request runs while the request waits for its reply, and as long as it
    runs or has just ended the request has its entry. -/
def Accounted (s : RequestResponse) (i : Nat) : Prop :=
  match s.requests i with
  | .idle => s.timers i = .idle
  | .sent _ _ => s.timers i = .idle
  | .started _ _ => s.timers i = .sleeping
  | .waiting messageId => s.timers i ≠ .idle ∧ s.timers i ≠ .panicked ∧
      (s.timers i = .sleeping ∨ s.timers i = .ended →
        ∃ message, s.entries.get? messageId = some (i, message))

structure Orderly (s : RequestResponse) : Prop where
  distinct : ∀ i j messageId, (s.requests i).messageId? = some messageId →
    (s.requests j).messageId? = some messageId → i = j
  accounted : ∀ i, s.Accounted i
  owner : ∀ messageId i message, s.entries.get? messageId = some (i, message) →
    s.requests i = .waiting messageId

theorem orderly_new (common : Common) : (new common).Orderly where
  distinct := fun _ _ _ hid => nomatch hid
  accounted := fun _ => rfl
  owner := fun _ _ _ hentry => nomatch hentry

section Steps

variable {s left : RequestResponse} {i : Nat} {message : SessionMessage} {messageId : UInt32}
  {sendError : Option String} {result : Except SessionError Unit}

/-- A timer that has ended belongs to a request with its entry. -/
theorem Orderly.ended_entry (hs : s.Orderly) (hended : s.timers i = .ended) :
    ∃ messageId message, s.requests i = .waiting messageId ∧
      s.entries.get? messageId = some (i, message) := by
  have hcounted := hs.accounted i
  unfold Accounted at hcounted
  rcases hphase : s.requests i with _ | ⟨id, request⟩ | ⟨id, request⟩ | id
  all_goals simp only [hphase] at hcounted
  · rw [hended] at hcounted
    cases hcounted
  · rw [hended] at hcounted
    cases hcounted
  · rw [hended] at hcounted
    cases hcounted
  · obtain ⟨message, hmessage⟩ := hcounted.2.2 (Or.inr hended)
    exact ⟨id, message, rfl, hmessage⟩

theorem Orderly.not_panicked (hs : s.Orderly) (i : Nat) : s.timers i ≠ .panicked := by
  intro hpanicked
  have hcounted := hs.accounted i
  unfold Accounted at hcounted
  rcases hphase : s.requests i with _ | ⟨id, request⟩ | ⟨id, request⟩ | id
  all_goals simp only [hphase, hpanicked] at hcounted
  · cases hcounted
  · cases hcounted
  · cases hcounted
  · exact hcounted.2.1 rfl

/-- What a request is accounted by depends on its own phase, timer and entry. -/
theorem Accounted.congr (hcounted : s.Accounted i) (hrequest : left.requests i = s.requests i)
    (htimer : left.timers i = s.timers i)
    (hentry : ∀ messageId message, s.requests i = .waiting messageId →
      s.entries.get? messageId = some (i, message) →
      left.entries.get? messageId = some (i, message)) : left.Accounted i := by
  unfold Accounted at hcounted ⊢
  rw [hrequest, htimer]
  rcases hphase : s.requests i with _ | ⟨id, request⟩ | ⟨id, request⟩ | id
  all_goals simp only [hphase] at hcounted ⊢
  · exact hcounted
  · exact hcounted
  · exact hcounted
  · obtain ⟨hidle, hpanicked, hfound⟩ := hcounted
    refine ⟨hidle, hpanicked, fun hruns => ?_⟩
    obtain ⟨message, hmessage⟩ := hfound hruns
    exact ⟨message, hentry id message hphase hmessage⟩

/-- The ids of the requests stay distinct when one request takes an id that no other has. -/
theorem distinct_update {requests : Nat → RequestPhase} {phase : RequestPhase}
    (hdistinct : ∀ j k messageId, (requests j).messageId? = some messageId →
      (requests k).messageId? = some messageId → j = k)
    (hfresh : ∀ messageId j, phase.messageId? = some messageId →
      (requests j).messageId? = some messageId → j = i) :
    ∀ j k messageId, (Function.update requests i phase j).messageId? = some messageId →
      (Function.update requests i phase k).messageId? = some messageId → j = k := by
  intro j k messageId
  rw [Function.update_apply, Function.update_apply]
  by_cases hj : j = i
  · by_cases hk : k = i
    · intro _ _
      rw [hj, hk]
    · rw [if_pos hj, if_neg hk]
      intro hnew hold
      exact absurd (hfresh messageId k hnew hold) hk
  · by_cases hk : k = i
    · rw [if_neg hj, if_pos hk]
      intro hold hnew
      exact absurd (hfresh messageId j hnew hold) hj
    · rw [if_neg hj, if_neg hk]
      exact hdistinct j k messageId

/-- A request that was handed to the network. -/
theorem Orderly.sent (hs : s.Orderly) {draw : UInt32} {request : SessionMessage}
    (hidle : s.requests i = .idle) (hfresh : ∀ j, (s.requests j).messageId? ≠ some draw)
    (hrequests : left.requests = Function.update s.requests i (.sent draw request))
    (hentries : left.entries = s.entries) (htimers : left.timers = s.timers) :
    left.Orderly where
  distinct := by
    rw [hrequests]
    apply distinct_update hs.distinct
    rintro messageId j ⟨⟩ hsame
    exact absurd hsame (hfresh j)
  accounted := by
    intro j
    by_cases hj : j = i
    · subst hj
      have hcounted := hs.accounted j
      unfold Accounted at hcounted ⊢
      simp only [hidle] at hcounted
      rw [hrequests, Function.update_self, htimers]
      exact hcounted
    · apply (hs.accounted j).congr
      · rw [hrequests, Function.update_of_ne hj]
      · rw [htimers]
      · intro messageId message _ hentry
        rw [hentries]
        exact hentry
  owner := by
    intro messageId j message hentry
    rw [hentries] at hentry
    have howner := hs.owner messageId j message hentry
    have hne : j ≠ i := by
      rintro rfl
      rw [hidle] at howner
      cases howner
    rw [hrequests, Function.update_of_ne hne]
    exact howner

/-- A request keeps its message id from step to step. -/
theorem messageId?_update (phase : RequestPhase)
    (hsame : phase.messageId? = (s.requests i).messageId?) (j : Nat) :
    (Function.update s.requests i phase j).messageId? = (s.requests j).messageId? := by
  by_cases hj : j = i
  · rw [hj, Function.update_self, hsame]
  · rw [Function.update_of_ne hj]

theorem Orderly.startTimer (hs : s.Orderly) (i : Nat) : (s.startTimer i).Orderly := by
  unfold RequestResponse.startTimer
  rcases hphase : s.requests i with _ | ⟨id, request⟩ | ⟨id, request⟩ | id
  any_goals exact hs
  refine ⟨?_, ?_, ?_⟩
  · intro j k messageId
    have hid : (s.requests i).messageId? = some id := by
      rw [hphase]
      rfl
    simp only [messageId?_update (.started id request) hid.symm]
    exact hs.distinct j k messageId
  · intro j
    by_cases hj : j = i
    · subst hj
      simp only [Accounted, Function.update_self]
    · apply (hs.accounted j).congr
      · simp only [Function.update_of_ne hj]
      · simp only [Function.update_of_ne hj]
      · intro messageId message _ hentry
        exact hentry
  · intro messageId j message hentry
    have howner := hs.owner messageId j message hentry
    have hne : j ≠ i := by
      rintro rfl
      rw [hphase] at howner
      cases howner
    simp only [Function.update_of_ne hne]
    exact howner

theorem Orderly.insertEntry (hs : s.Orderly) (i : Nat) : (s.insertEntry i).Orderly := by
  unfold RequestResponse.insertEntry
  rcases hphase : s.requests i with _ | ⟨id, request⟩ | ⟨id, request⟩ | id
  any_goals exact hs
  have hid : (s.requests i).messageId? = some id := by
    rw [hphase]
    rfl
  -- no other request has the id, so the map has no entry for it
  have hnone : s.entries.get? id = none := by
    rcases hget : s.entries.get? id with _ | ⟨j, message⟩
    · rfl
    · have howner := hs.owner id j message hget
      have hj := hs.distinct i j id hid (by rw [howner]; rfl)
      rw [← hj, hphase] at howner
      cases howner
  simp only [hnone]
  refine ⟨?_, ?_, ?_⟩
  · intro j k messageId
    simp only [messageId?_update (.waiting id) hid.symm]
    exact hs.distinct j k messageId
  · intro j
    by_cases hj : j = i
    · subst hj
      have hcounted := hs.accounted j
      simp only [Accounted, hphase] at hcounted
      simp only [Accounted, Function.update_self, hcounted]
      exact ⟨by decide, by decide, fun _ => ⟨request, HashMap.get?_insert_self _ _ _⟩⟩
    · apply (hs.accounted j).congr
      · simp only [Function.update_of_ne hj]
      · rfl
      · intro messageId message hwaiting hentry
        have hne : messageId ≠ id := by
          rintro rfl
          rw [hnone] at hentry
          cases hentry
        simp only [HashMap.get?_insert_of_ne _ _ (show key messageId ≠ key id from hne)]
        exact hentry
  · intro messageId j message hentry
    by_cases hnew : messageId = id
    · subst hnew
      simp only [HashMap.get?_insert_self, Option.some.injEq, Prod.mk.injEq] at hentry
      rw [← hentry.1]
      simp only [Function.update_self]
    · simp only [HashMap.get?_insert_of_ne _ _ (show key messageId ≠ key id from hnew)] at hentry
      have howner := hs.owner messageId j message hentry
      have hne : j ≠ i := by
        rintro rfl
        rw [hphase] at howner
        cases howner
      simp only [Function.update_of_ne hne]
      exact howner

/-- The timer of a request changes and nothing else, while it has its entry. -/
theorem Orderly.endTimer (hs : s.Orderly) {i : Nat}
    (hadmits : ∀ messageId message, s.requests i ≠ .started messageId message) :
    (s.endTimer i).Orderly := by
  unfold RequestResponse.endTimer
  rcases htimer : s.timers i
  any_goals exact hs
  refine ⟨hs.distinct, ?_, hs.owner⟩
  intro j
  by_cases hj : j = i
  · subst hj
    have hcounted := hs.accounted j
    unfold Accounted at hcounted ⊢
    simp only [Function.update_self]
    rcases hphase : s.requests j with _ | ⟨id, request⟩ | ⟨id, request⟩ | id
    all_goals simp only [hphase] at hcounted
    · rw [htimer] at hcounted
      cases hcounted
    · rw [htimer] at hcounted
      cases hcounted
    · exact absurd hphase (hadmits id request)
    · exact ⟨by decide, by decide, fun _ => hcounted.2.2 (Or.inl htimer)⟩
  · apply (hs.accounted j).congr
    · rfl
    · simp only [Function.update_of_ne hj]
    · intro messageId message _ hentry
      exact hentry

/-- The entry of a request is taken out, and its timer neither runs nor has ended. -/
theorem Orderly.removed (hs : s.Orderly) {phase : TimerPhase}
    (hwaiting : s.requests i = .waiting messageId) (hphase : phase = .stopped ∨ phase = .reported)
    (hrequests : left.requests = s.requests) (hentries : left.entries = s.entries.remove messageId)
    (htimers : left.timers = Function.update s.timers i phase) : left.Orderly where
  distinct := by
    rw [hrequests]
    exact hs.distinct
  accounted := by
    intro j
    by_cases hj : j = i
    · subst hj
      unfold Accounted
      rw [hrequests, hwaiting, htimers, Function.update_self]
      rcases hphase with rfl | rfl
      · exact ⟨by decide, by decide, by rintro (hruns | hruns) <;> cases hruns⟩
      · exact ⟨by decide, by decide, by rintro (hruns | hruns) <;> cases hruns⟩
    · apply (hs.accounted j).congr
      · rw [hrequests]
      · rw [htimers, Function.update_of_ne hj]
      · intro other message hother hentry
        have hne : other ≠ messageId := by
          rintro rfl
          exact hj (hs.distinct j i other (by rw [hother]; rfl) (by rw [hwaiting]; rfl))
        rw [hentries, HashMap.get?_remove_of_ne _ hne]
        exact hentry
  owner := by
    intro other j message hentry
    rw [hentries] at hentry
    rw [hrequests]
    apply hs.owner other j message
    by_cases hsame : other = messageId
    · rw [hsame, HashMap.get?_remove_self] at hentry
      cases hentry
    · rw [HashMap.get?_remove_of_ne _ hsame] at hentry
      exact hentry

theorem Orderly.onFailure (hs : s.Orderly) (i : Nat) : (s.onFailure i).Orderly := by
  unfold RequestResponse.onFailure
  rcases htimer : s.timers i
  any_goals exact hs
  obtain ⟨messageId, message, hwaiting, hentry⟩ := hs.ended_entry htimer
  simp only [hwaiting, RequestPhase.messageId?, hentry]
  refine hs.removed hwaiting (Or.inr rfl) rfl rfl ?_
  simp only [Function.update_idem]

/-- A timer that is cancelled while its request waits has stopped or was reported before,
    unless it has ended just now. -/
theorem Orderly.cancel_waiting (hs : s.Orderly) (hwaiting : s.requests i = .waiting messageId)
    (hended : s.timers i ≠ .ended) :
    (s.timers i).cancel = .stopped ∨ (s.timers i).cancel = .reported := by
  have hcounted := hs.accounted i
  simp only [Accounted, hwaiting] at hcounted
  obtain ⟨hidle, hpanicked, -⟩ := hcounted
  rcases htimer : s.timers i
  · exact absurd htimer hidle
  · exact Or.inl rfl
  · exact absurd htimer hended
  · exact Or.inl rfl
  · exact Or.inr rfl
  · exact absurd htimer hpanicked

/-- A message for the application changes nothing else. -/
theorem Orderly.sendToApp (hs : s.Orderly) (message : SessionMessage)
    (sendError : Option String) : (s.sendToApp message sendError).2.Orderly := by
  cases sendError with
  | some text => exact hs
  | none => exact ⟨hs.distinct, hs.accounted, hs.owner⟩

/-- What a message from the network does: nothing, or a reply takes the entry of its request
    away, or a request goes to the application. -/
theorem onMessageNorth_cases (hleft : s.onMessageNorth message sendError = .ok (result, left)) :
    left = s ∨
    (∃ header i request, message.message.getSessionHeader = .ok header ∧
      message.info.sessionHeaderType = .reply ∧
      s.entries.get? header.messageId = some (i, request) ∧
      left = ({ s with
        entries := s.entries.remove header.messageId
        timers := Function.update s.timers i (s.timers i).cancel }.sendToApp message sendError).2) ∨
    (message.info.sessionHeaderType = .request ∧
      left = (s.sendToApp { message with
        info := { message.info with sessionHeaderType := .reply } } sendError).2) := by
  obtain ⟨header, hheader, hleft⟩ := bind_eq_ok hleft
  rcases htype : message.info.sessionHeaderType
  all_goals rw [htype] at hleft
  case reply =>
    rcases hentry : s.entries.get? header.messageId with _ | ⟨i, request⟩
    · rw [hentry] at hleft
      cases hleft
      exact .inl rfl
    · rw [hentry] at hleft
      exact .inr (.inl ⟨header, i, request, hheader, rfl, hentry,
        (congrArg Prod.snd (Except.ok.inj hleft)).symm⟩)
  case request =>
    exact .inr (.inr ⟨rfl, (congrArg Prod.snd (Except.ok.inj hleft)).symm⟩)
  all_goals
    cases hleft
    exact .inl rfl

theorem Orderly.north (hs : s.Orderly) (hadmits : s.Admits (.north message sendError))
    (hleft : s.onMessageNorth message sendError = .ok (result, left)) :
    left.Orderly := by
  rcases onMessageNorth_cases hleft with
    rfl | ⟨header, i, request, hheader, htype, hentry, rfl⟩ | ⟨_, rfl⟩
  · exact hs
  · have hwaiting := hs.owner header.messageId i request hentry
    obtain ⟨-, hended⟩ := hadmits header i hheader htype (by rw [hwaiting]; rfl)
    apply Orderly.sendToApp
    exact hs.removed hwaiting (hs.cancel_waiting hwaiting hended) rfl rfl rfl
  · exact hs.sendToApp _ sendError

theorem Orderly.south (hs : s.Orderly) {draw : UInt32} (hidle : s.requests i = .idle)
    (hfresh : ∀ j, (s.requests j).messageId? ≠ some draw)
    (hleft : s.onMessageSouth i message draw sendError = .ok (result, left)) : left.Orderly := by
  obtain ⟨header, -, hleft⟩ := bind_eq_ok hleft
  split at hleft
  · -- a reply is sent without a timer
    rcases hid : message.info.messageId with _ | messageId
    · rw [hid] at hleft
      cases hleft
      exact hs
    · rw [hid] at hleft
      obtain ⟨reply, -, hleft⟩ := bind_eq_ok hleft
      obtain rfl : _ = left := congrArg Prod.snd (Except.ok.inj hleft)
      cases sendError with
      | some text => exact hs
      | none => exact ⟨hs.distinct, hs.accounted, hs.owner⟩
  · obtain ⟨request, -, hleft⟩ := bind_eq_ok hleft
    split at hleft
    · cases sendError with
      | some text =>
          cases hleft
          exact hs
      | none =>
          cases hleft
          exact hs.sent hidle hfresh rfl rfl rfl
    · cases hleft
      exact hs

theorem Orderly.step (hs : s.Orderly) {event : RequestEvent} (hdistinct : s.Distinct event)
    (hadmits : s.Admits event) : (s.step event).Orderly := by
  cases event with
  | south i message draw sendError =>
      simp only [RequestResponse.step]
      rcases hphase : s.requests i with _ | ⟨id, request⟩ | ⟨id, request⟩ | id
      any_goals exact hs
      rcases hleft : s.onMessageSouth i message draw sendError with panic | ⟨result, left⟩
      · exact hs
      · exact hs.south hphase hdistinct hleft
  | startTimer i => exact hs.startTimer i
  | insertEntry i => exact hs.insertEntry i
  | north message sendError =>
      simp only [RequestResponse.step]
      rcases hleft : s.onMessageNorth message sendError with panic | ⟨result, left⟩
      · exact hs
      · exact hs.north hadmits hleft
  | endTimer i => exact hs.endTimer hadmits
  | onFailure i => exact hs.onFailure i

/-- A reply to an outstanding request is delivered if the request waits for it. -/
theorem Orderly.delivers (hs : s.Orderly) {header : SessionHeader}
    (houtstanding : s.Outstanding i messageId)
    (hheader : message.message.getSessionHeader = .ok header) (hid : header.messageId = messageId)
    (htype : message.info.sessionHeaderType = .reply) (hadmits : s.Admits (.north message none)) :
    ∃ left, s.onMessageNorth message none = .ok (.ok (), left) ∧
      left.toApp = s.toApp ++ [.ok message] := by
  obtain ⟨hrequest, hstopped, hreported⟩ := houtstanding
  obtain ⟨hwaiting, hended⟩ := hadmits header i hheader htype (by rw [hid]; exact hrequest)
  have hcounted := hs.accounted i
  simp only [Accounted, hwaiting] at hcounted
  obtain ⟨hidle, hpanicked, hentry⟩ := hcounted
  have hsleeping : s.timers i = .sleeping := by
    rcases htimer : s.timers i
    · exact absurd htimer hidle
    · rfl
    · exact absurd htimer hended
    · exact absurd htimer hstopped
    · exact absurd htimer hreported
    · exact absurd htimer hpanicked
  obtain ⟨request, hget⟩ := hentry (Or.inl hsleeping)
  simp only [onMessageNorth, hheader, bind_ok, htype, hget]
  exact ⟨_, rfl, rfl⟩

end Steps

/-- In every run with distinct message ids whose steps meet the conditions, and in every
    state of it: no timer task has panicked; `on_failure` finds the entry of a timer that
    has ended; and a reply to an outstanding request is delivered to the application. -/
theorem outstanding_reply_delivered (common : Common) (events : List RequestEvent)
    (hdistinct : Runs.Along step Distinct (new common) events)
    (hsteps : Runs.Along step Admits (new common) events) :
    let s := Runs.run step (new common) events
    (∀ i, s.timers i ≠ .panicked) ∧
      (∀ i, s.timers i = .ended → ∃ messageId message,
        (s.requests i).messageId? = some messageId ∧
          s.entries.get? messageId = some (i, message)) ∧
      ∀ i messageId message header, s.Outstanding i messageId →
        message.message.getSessionHeader = .ok header → header.messageId = messageId →
        message.info.sessionHeaderType = .reply → s.Admits (.north message none) →
        ∃ left, s.onMessageNorth message none = .ok (.ok (), left) ∧
          left.toApp = s.toApp ++ [.ok message] := by
  intro s
  have hs : s.Orderly := by
    apply Runs.run_invariant (I := Orderly) (P := fun s event => s.Distinct event ∧ s.Admits event)
    · intro s event hs hstep
      exact hs.step hstep.1 hstep.2
    · exact (Runs.along_and _ _).2 ⟨hdistinct, hsteps⟩
    · exact orderly_new common
  refine ⟨hs.not_panicked, ?_, ?_⟩
  · intro i hended
    obtain ⟨messageId, message, hwaiting, hentry⟩ := hs.ended_entry hended
    exact ⟨messageId, message, by rw [hwaiting]; rfl, hentry⟩
  · intro i messageId message header houtstanding hheader hid htype hadmits
    exact hs.delivers houtstanding hheader hid htype hadmits

/-! ### A fast reply and a short timeout -/

/-- A publication with this message id. -/
def samplePublication (headerType : SessionHeaderType) (messageId : UInt32) : ProtoMessage :=
  ProtoMessage.newPublishWithHeaders
    (some (ProtoSlimHeader.new ⟨⟨1, 1, 1, none⟩, 7⟩ ⟨1, 1, 2, none⟩ none none))
    (some ⟨headerType.toInt, 1, messageId⟩) "" []

def sampleRequest : SessionMessage := ⟨samplePublication .unspecified 0, Info.new 1⟩

/-- A reply with message id 42. -/
def sampleReply : SessionMessage :=
  ⟨samplePublication .reply 42, { Info.new 1 with sessionHeaderType := .reply }⟩

def sampleCommon : Common :=
  Common.new 1 .Bidirectional (.requestResponse .default) ⟨⟨1, 1, 1, none⟩, 7⟩ none

/-- A reply that comes before the entry of its request is answered with an error and lost,
    and a timer that ends before its entry was inserted panics. -/
theorem early_reply_lost_early_timeout_panics :
    let sent := Runs.run step (new sampleCommon) [.south 0 sampleRequest 42 none]
    sent.Outstanding 0 42 ∧
      sent.onMessageNorth sampleReply none =
        .ok (.error (.appTransmission "timer not found for message id 42"), sent) ∧
      (Runs.run step (new sampleCommon) [.south 0 sampleRequest 42 none, .startTimer 0,
        .endTimer 0, .onFailure 0]).timers 0 = .panicked := by
  refine ⟨⟨rfl, ?_, ?_⟩, rfl, rfl⟩
  · decide
  · decide

/-- The reply comes after the entry. -/
theorem outstanding_reply_delivered_sample :
    let s := Runs.run step (new sampleCommon)
      [.south 0 sampleRequest 42 none, .startTimer 0, .insertEntry 0]
    ∃ left, s.onMessageNorth sampleReply none = .ok (.ok (), left) ∧
      left.toApp = s.toApp ++ [.ok sampleReply] := by
  intro s
  obtain ⟨-, -, hdelivered⟩ := outstanding_reply_delivered sampleCommon
    [.south 0 sampleRequest 42 none, .startTimer 0, .insertEntry 0]
    ⟨(fun _ hid => nomatch hid), trivial, trivial, trivial⟩ ⟨trivial, trivial, trivial, trivial⟩
  apply hdelivered 0 42 sampleReply _ ⟨rfl, by decide, by decide⟩ rfl rfl rfl
  intro header i hheader _ hid
  cases hheader
  cases i with
  | zero => exact ⟨rfl, by decide⟩
  | succ k =>
      have hidle : (s.requests (k + 1)).messageId? = none := rfl
      rw [hidle] at hid
      cases hid

end RequestResponse

end Slim
