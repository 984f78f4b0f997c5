import Slim.RequestResponse

/-!
# One outcome for a request

A reply and the end of the timer race for the entry of a request.  Both take the entry
out of the map before they hand anything to the application, and a request inserts its
entry once; so whatever the order of the steps, the application gets at most one of the
reply and the timeout.
-/

namespace Slim

open HashKey Machine

/-- The info of a message from the network says what its header says. -/
def RequestEvent.Labelled : RequestEvent → Prop
  | .north message _ => message.message.getHeaderType = .ok message.info.sessionHeaderType
  | _ => True

namespace RequestResponse

/-! ## What a step can do -/

/-- The effect of one step on the requests, the entries and the items for the application. -/
inductive Transition (s left : RequestResponse) : RequestEvent → Prop
  | unchanged {event : RequestEvent} (hrequests : left.requests = s.requests)
      (hentries : left.entries = s.entries) (happ : left.toApp = s.toApp) :
      Transition s left event
  | sent {i : Nat} {message request : SessionMessage} {draw : UInt32} {sendError : Option String}
      (hidle : s.requests i = .idle)
      (hrequests : left.requests = Function.update s.requests i (.sent draw request))
      (hentries : left.entries = s.entries) (happ : left.toApp = s.toApp) :
      Transition s left (.south i message draw sendError)
  | started {i : Nat} {messageId : UInt32} {request : SessionMessage}
      (hsent : s.requests i = .sent messageId request)
      (hrequests : left.requests = Function.update s.requests i (.started messageId request))
      (hentries : left.entries = s.entries) (happ : left.toApp = s.toApp) :
      Transition s left (.startTimer i)
  | inserted {i : Nat} {messageId : UInt32} {request : SessionMessage}
      (hstarted : s.requests i = .started messageId request)
      (hrequests : left.requests = Function.update s.requests i (.waiting messageId))
      (hentries : left.entries = s.entries.insert messageId (i, request))
      (happ : left.toApp = s.toApp) : Transition s left (.insertEntry i)
  | requested {message : SessionMessage} {sendError : Option String}
      (htype : message.info.sessionHeaderType = .request)
      (hrequests : left.requests = s.requests) (hentries : left.entries = s.entries)
      (happ : left.toApp = s.toApp ++
        [.ok { message with info := { message.info with sessionHeaderType := .reply } }]) :
      Transition s left (.north message sendError)
  | replied {message : SessionMessage} {sendError : Option String} {header : SessionHeader}
      {entry : Nat × SessionMessage} (hheader : message.message.getSessionHeader = .ok header)
      (hentry : s.entries.get? header.messageId = some entry)
      (hrequests : left.requests = s.requests)
      (hentries : left.entries = s.entries.remove header.messageId)
      (happ : left.toApp = s.toApp ∨ left.toApp = s.toApp ++ [.ok message]) :
      Transition s left (.north message sendError)
  | failed {i : Nat} {messageId : UInt32} {entry : Nat × SessionMessage}
      (hentry : s.entries.get? messageId = some entry) (hrequests : left.requests = s.requests)
      (hentries : left.entries = s.entries.remove messageId)
      (happ : left.toApp = s.toApp ++ [.error (.timeout s.common.id messageId entry.2)]) :
      Transition s left (.onFailure i)

section Steps

variable {s left : RequestResponse} {i : Nat} {message : SessionMessage} {draw : UInt32}
  {sendError : Option String} {result : Except SessionError Unit}

theorem transition_south (hidle : s.requests i = .idle)
    (hleft : s.onMessageSouth i message draw sendError = .ok (result, left)) :
    Transition s left (.south i message draw sendError) := by
  obtain ⟨header, -, hleft⟩ := bind_eq_ok hleft
  split at hleft
  · rcases hid : message.info.messageId with _ | messageId
    · rw [hid] at hleft
      cases hleft
      exact .unchanged rfl rfl rfl
    · rw [hid] at hleft
      obtain ⟨reply, -, hleft⟩ := bind_eq_ok hleft
      obtain rfl : _ = left := congrArg Prod.snd (Except.ok.inj hleft)
      cases sendError with
      | some text => exact .unchanged rfl rfl rfl
      | none => exact .unchanged rfl rfl rfl
  · obtain ⟨request, -, hleft⟩ := bind_eq_ok hleft
    split at hleft
    · cases sendError with
      | some text =>
          cases hleft
          exact .unchanged rfl rfl rfl
      | none =>
          cases hleft
          exact .sent hidle rfl rfl rfl
    · cases hleft
      exact .unchanged rfl rfl rfl

theorem transition_north
    (hleft : s.onMessageNorth message sendError = .ok (result, left)) :
    Transition s left (.north message sendError) := by
  rcases onMessageNorth_cases hleft with
    rfl | ⟨header, i, request, hheader, _, hentry, rfl⟩ | ⟨htype, rfl⟩
  · exact .unchanged rfl rfl rfl
  · cases sendError with
    | some text => exact .replied hheader hentry rfl rfl (.inl rfl)
    | none => exact .replied hheader hentry rfl rfl (.inr rfl)
  · cases sendError with
    | some text => exact .unchanged rfl rfl rfl
    | none => exact .requested htype rfl rfl rfl

theorem transition_onFailure (s : RequestResponse) (i : Nat) :
    Transition s (s.onFailure i) (.onFailure i) := by
  unfold onFailure
  split
  next messageId _ _ =>
    rcases hentry : s.entries.get? messageId with _ | ⟨j, request⟩
    · exact .unchanged rfl rfl rfl
    · exact .failed hentry rfl rfl rfl
  next => exact .unchanged rfl rfl rfl

theorem step_transition (s : RequestResponse) (event : RequestEvent) :
    Transition s (s.step event) event := by
  cases event with
  | south i message draw sendError =>
      simp only [step]
      split
      next left hidle hleft => exact transition_south hidle hleft
      next => exact .unchanged rfl rfl rfl
  | startTimer i =>
      simp only [step, startTimer]
      split
      next hsent => exact .started hsent rfl rfl rfl
      next => exact .unchanged rfl rfl rfl
  | insertEntry i =>
      simp only [step, insertEntry]
      split
      next hstarted => exact .inserted hstarted rfl rfl rfl
      next => exact .unchanged rfl rfl rfl
  | north message sendError =>
      simp only [step]
      split
      next hleft => exact transition_north hleft
      next => exact .unchanged rfl rfl rfl
  | endTimer i =>
      simp only [step, endTimer]
      split
      next => exact .unchanged rfl rfl rfl
      next => exact .unchanged rfl rfl rfl
  | onFailure i => exact transition_onFailure s i

end Steps

/-! ## Outcomes -/

/-- The item settles the request with this message id: it is a reply to it, or the report
    of its timeout. -/
def settles (messageId : UInt32) : Except SessionError SessionMessage → Bool
  | .ok delivered =>
      match delivered.message.getHeaderType, delivered.message.getMessageId with
      | .ok .reply, .ok found => decide (found = messageId)
      | _, _ => false
  | .error (.timeout _ found _) => decide (found = messageId)
  | .error _ => false

/-- How often the request with this message id was settled. -/
def outcomes (s : RequestResponse) (messageId : UInt32) : Nat :=
  s.toApp.countP (settles messageId)

/-- No entry for this message id was inserted yet, or it is still there. -/
def Unsettled (s : RequestResponse) (messageId : UInt32) : Prop :=
  (∀ i, s.requests i ≠ .waiting messageId) ∨ ∃ entry, s.entries.get? messageId = some entry

structure Settled (s : RequestResponse) : Prop where
  distinct : ∀ i j messageId, (s.requests i).messageId? = some messageId →
    (s.requests j).messageId? = some messageId → i = j
  owner : ∀ messageId entry, s.entries.get? messageId = some entry →
    ∃ i, s.requests i = .waiting messageId
  unsettled : ∀ messageId, s.Unsettled messageId → s.outcomes messageId = 0
  outcomes_le : ∀ messageId, s.outcomes messageId ≤ 1

theorem settled_new (common : Common) : (new common).Settled where
  distinct := fun _ _ _ hid => nomatch hid
  owner := fun _ _ hentry => nomatch hentry
  unsettled := fun _ _ => rfl
  outcomes_le := fun _ => Nat.zero_le 1

section Invariant

variable {s left : RequestResponse} {i : Nat} {messageId : UInt32}

/-- An inbound request is no outcome, although the application may answer with its info. -/
theorem settles_requested {message : SessionMessage}
    (hlabel : message.message.getHeaderType = .ok message.info.sessionHeaderType)
    (htype : message.info.sessionHeaderType = .request) (info : Info) (messageId : UInt32) :
    settles messageId (.ok { message with info := info }) = false := by
  simp only [settles, hlabel, htype]

/-- A reply settles the request it names and no other. -/
theorem eq_of_settles_ok {message : SessionMessage} {header : SessionHeader}
    (hheader : message.message.getSessionHeader = .ok header)
    (hsettles : settles messageId (.ok message) = true) : header.messageId = messageId := by
  simp only [settles, ProtoMessage.getMessageId, hheader, bind_ok] at hsettles
  split at hsettles
  next hfound =>
    cases hfound
    exact of_decide_eq_true hsettles
  next => cases hsettles

theorem outcomes_append {item : Except SessionError SessionMessage}
    (happ : left.toApp = s.toApp ++ [item]) (messageId : UInt32) :
    left.outcomes messageId =
      s.outcomes messageId + if settles messageId item = true then 1 else 0 := by
  rw [outcomes, happ, List.countP_append, List.countP_singleton, outcomes]

/-- A step that settles nothing, after which no request is unsettled that was not before. -/
theorem Settled.quiet (hs : s.Settled)
    (hdistinct : ∀ i j messageId, (left.requests i).messageId? = some messageId →
      (left.requests j).messageId? = some messageId → i = j)
    (howner : ∀ messageId entry, left.entries.get? messageId = some entry →
      ∃ i, left.requests i = .waiting messageId)
    (hunsettled : ∀ messageId, left.Unsettled messageId → s.Unsettled messageId)
    (houtcomes : ∀ messageId, left.outcomes messageId = s.outcomes messageId) :
    left.Settled where
  distinct := hdistinct
  owner := howner
  unsettled := fun messageId hopen =>
    (houtcomes messageId).trans (hs.unsettled messageId (hunsettled messageId hopen))
  outcomes_le := fun messageId => (houtcomes messageId).trans_le (hs.outcomes_le messageId)

/-- Neither the requests nor the entries change. -/
theorem Settled.unchanged (hs : s.Settled) (hrequests : left.requests = s.requests)
    (hentries : left.entries = s.entries)
    (houtcomes : ∀ messageId, left.outcomes messageId = s.outcomes messageId) :
    left.Settled := by
  apply hs.quiet _ _ _ houtcomes
  · rw [hrequests]
    exact hs.distinct
  · rw [hrequests, hentries]
    exact hs.owner
  · intro messageId hopen
    rwa [Unsettled, hrequests, hentries] at hopen

/-- A request that does not wait yet goes on to another phase before the wait. -/
theorem Settled.advance (hs : s.Settled) {phase : RequestPhase}
    (hbefore : ∀ messageId, s.requests i ≠ .waiting messageId)
    (hafter : ∀ messageId, phase ≠ .waiting messageId)
    (hfresh : ∀ messageId j, phase.messageId? = some messageId →
      (s.requests j).messageId? = some messageId → j = i)
    (hrequests : left.requests = Function.update s.requests i phase)
    (hentries : left.entries = s.entries) (happ : left.toApp = s.toApp) : left.Settled := by
  have hwaiting : ∀ j messageId,
      left.requests j = .waiting messageId ↔ s.requests j = .waiting messageId := by
    intro j messageId
    rw [hrequests]
    by_cases hj : j = i
    · rw [hj, Function.update_self]
      exact iff_of_false (hafter messageId) (hbefore messageId)
    · rw [Function.update_of_ne hj]
  apply hs.quiet
  · rw [hrequests]
    exact distinct_update hs.distinct hfresh
  · intro messageId entry hentry
    rw [hentries] at hentry
    obtain ⟨j, hj⟩ := hs.owner messageId entry hentry
    exact ⟨j, (hwaiting j messageId).2 hj⟩
  · rintro messageId (hnone | ⟨entry, hentry⟩)
    · exact .inl fun j hj => hnone j ((hwaiting j messageId).2 hj)
    · rw [hentries] at hentry
      exact .inr ⟨entry, hentry⟩
  · intro messageId
    rw [outcomes, happ, outcomes]

/-- The entry of a request is inserted. -/
theorem Settled.inserted (hs : s.Settled) {request : SessionMessage}
    (hstarted : s.requests i = .started messageId request)
    (hrequests : left.requests = Function.update s.requests i (.waiting messageId))
    (hentries : left.entries = s.entries.insert messageId (i, request))
    (happ : left.toApp = s.toApp) : left.Settled := by
  have hid : (s.requests i).messageId? = some messageId := by
    rw [hstarted]
    rfl
  apply hs.quiet
  · intro j k other
    rw [hrequests, messageId?_update (.waiting messageId) hid.symm,
      messageId?_update (.waiting messageId) hid.symm]
    exact hs.distinct j k other
  · intro other entry hentry
    by_cases hsame : other = messageId
    · exact ⟨i, by rw [hrequests, Function.update_self, hsame]⟩
    · rw [hentries, HashMap.get?_insert_of_ne _ _ (show key other ≠ key messageId from hsame)]
        at hentry
      obtain ⟨j, hj⟩ := hs.owner other entry hentry
      have hne : j ≠ i := by
        rintro rfl
        rw [hstarted] at hj
        cases hj
      exact ⟨j, by rw [hrequests, Function.update_of_ne hne, hj]⟩
  · intro other hopen
    by_cases hsame : other = messageId
    · -- no other request has the id, so none waits with it
      refine .inl fun j hj => ?_
      have hji := hs.distinct j i other (by rw [hj]; rfl) (by rw [hsame]; exact hid)
      rw [hji, hstarted] at hj
      cases hj
    · rcases hopen with hnone | ⟨entry, hentry⟩
      · refine .inl fun j hj => hnone j ?_
        have hne : j ≠ i := by
          rintro rfl
          rw [hstarted] at hj
          cases hj
        rw [hrequests, Function.update_of_ne hne, hj]
      · rw [hentries, HashMap.get?_insert_of_ne _ _ (show key other ≠ key messageId from hsame)]
          at hentry
        exact .inr ⟨entry, hentry⟩
  · intro other
    rw [outcomes, happ, outcomes]

/-- The entry of a request is taken out, and then at most one item settles the request. -/
theorem Settled.removed (hs : s.Settled) {entry : Nat × SessionMessage}
    (hentry : s.entries.get? messageId = some entry) (hrequests : left.requests = s.requests)
    (hentries : left.entries = s.entries.remove messageId)
    (hone : left.outcomes messageId ≤ s.outcomes messageId + 1)
    (hothers : ∀ other, other ≠ messageId → left.outcomes other = s.outcomes other) :
    left.Settled where
  distinct := by
    rw [hrequests]
    exact hs.distinct
  owner := by
    intro other found hfound
    rw [hrequests]
    apply hs.owner other found
    rw [hentries, HashMap.get?_remove] at hfound
    split at hfound
    next => cases hfound
    next => exact hfound
  unsettled := by
    intro other hopen
    have hne : other ≠ messageId := by
      rintro rfl
      rcases hopen with hnone | ⟨found, hfound⟩
      · obtain ⟨j, hj⟩ := hs.owner other entry hentry
        exact hnone j (by rw [hrequests, hj])
      · rw [hentries, HashMap.get?_remove_self] at hfound
        cases hfound
    rw [hothers other hne]
    apply hs.unsettled
    rcases hopen with hnone | ⟨found, hfound⟩
    · rw [hrequests] at hnone
      exact .inl hnone
    · rw [hentries, HashMap.get?_remove_of_ne _ hne] at hfound
      exact .inr ⟨found, hfound⟩
  outcomes_le := by
    intro other
    by_cases hsame : other = messageId
    · have hzero := hs.unsettled messageId (.inr ⟨entry, hentry⟩)
      rw [hsame]
      omega
    · rw [hothers other hsame]
      exact hs.outcomes_le other

theorem Settled.transition {event : RequestEvent} (hs : s.Settled) (hdistinct : s.Distinct event)
    (hlabel : event.Labelled) (hstep : Transition s left event) : left.Settled := by
  cases hstep with
  | unchanged hrequests hentries happ =>
      exact hs.unchanged hrequests hentries fun messageId => by rw [outcomes, happ, outcomes]
  | sent hidle hrequests hentries happ =>
      refine hs.advance ?_ ?_ ?_ hrequests hentries happ
      · intro messageId hphase
        rw [hidle] at hphase
        cases hphase
      · intro messageId hphase
        cases hphase
      · rintro _ j ⟨⟩ hid
        exact absurd hid (hdistinct j)
  | started hsent hrequests hentries happ =>
      refine hs.advance ?_ ?_ ?_ hrequests hentries happ
      · intro messageId hphase
        rw [hsent] at hphase
        cases hphase
      · intro messageId hphase
        cases hphase
      · rintro _ j ⟨⟩ hid
        exact hs.distinct j _ _ hid (by rw [hsent]; rfl)
  | inserted hstarted hrequests hentries happ =>
      exact hs.inserted hstarted hrequests hentries happ
  | requested htype hrequests hentries happ =>
      apply hs.unchanged hrequests hentries
      intro messageId
      rw [outcomes_append happ, settles_requested hlabel htype]
      rfl
  | replied hheader hentry hrequests hentries happ =>
      apply hs.removed hentry hrequests hentries
      · rcases happ with happ | happ
        · rw [outcomes, happ, outcomes]
          exact Nat.le_succ _
        · rw [outcomes_append happ]
          split <;> omega
      · intro other hne
        rcases happ with happ | happ
        · rw [outcomes, happ, outcomes]
        · rw [outcomes_append happ, if_neg]
          · rfl
          · exact fun hsettles => hne (eq_of_settles_ok hheader hsettles).symm
  | failed hentry hrequests hentries happ =>
      apply hs.removed hentry hrequests hentries
      · rw [outcomes_append happ]
        split <;> omega
      · intro other hne
        rw [outcomes_append happ, if_neg]
        · rfl
        · exact fun hsettles => hne (of_decide_eq_true hsettles).symm

end Invariant

/-- In every run with distinct message ids, whatever the order of its steps, the
    application gets at most one item among the reply to a request and its timeout; and
    a reply to which no entry belongs is answered with an error and changes nothing. -/
theorem request_settled_at_most_once (common : Common) (events : List RequestEvent)
    (hdistinct : Runs.Along step Distinct (new common) events)
    (hlabels : ∀ event ∈ events, event.Labelled) :
    let s := Runs.run step (new common) events
    (∀ messageId, s.outcomes messageId ≤ 1) ∧
      ∀ message header sendError, message.message.getSessionHeader = .ok header →
        message.info.sessionHeaderType = .reply → s.entries.get? header.messageId = none →
        s.onMessageNorth message sendError = .ok (.error (.appTransmission
          ("timer not found for message id " ++ toString header.messageId)), s) := by
  intro s
  constructor
  · have hs : s.Settled := by
      apply Runs.run_invariant (I := Settled)
        (P := fun s event => s.Distinct event ∧ event.Labelled)
      · intro s event hs hstep
        exact hs.transition hstep.1 hstep.2 (step_transition s event)
      · exact Runs.along_and_forall hdistinct hlabels
      · exact settled_new common
    exact hs.outcomes_le
  · intro message header sendError hheader htype hnone
    simp only [onMessageNorth, hheader, bind_ok, htype, hnone]
    rfl

/-- The reply comes twice, and between the end of the timer and `on_failure`: the second
    reply finds no entry, and the task of the timer panics without a report. -/
theorem request_settled_at_most_once_sample :
    let s := Runs.run step (new sampleCommon)
      [.south 0 sampleRequest 42 none, .startTimer 0, .insertEntry 0, .endTimer 0,
        .north sampleReply none, .north sampleReply none, .onFailure 0]
    s.outcomes 42 = 1 ∧ ∀ messageId, s.outcomes messageId ≤ 1 := by
  refine ⟨by decide, ?_⟩
  apply (request_settled_at_most_once sampleCommon _ _ _).1
  · exact ⟨(fun _ hid => nomatch hid), trivial, trivial, trivial, trivial, trivial, trivial,
      trivial⟩
  · intro event hevent
    simp only [List.mem_cons, List.not_mem_nil, or_false] at hevent
    rcases hevent with rfl | rfl | rfl | rfl | rfl | rfl | rfl
    all_goals trivial

end RequestResponse

end Slim
