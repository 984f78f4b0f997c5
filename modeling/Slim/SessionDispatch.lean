import Slim.ConcurrentSessions
import Slim.Retransmission

/-!
# Messages on their way to a session: `handle_message`, `publish_with_flags`

A message of the network goes through the steps of `handle_message_from_slim`, here one
after the other.  A message of the application must be for a session of the pool.  In both
directions the interceptors of the session come last, and what they leave is given to the
session together with the info that came with the message.
-/

namespace Slim

open HashKey Machine SessionInterceptor

/-- The arguments of `publish_with_flags`. -/
structure Publication where
  source : Agent
  info : Info
  agentType : AgentType
  agentId : Option UInt64
  flags : SlimHeaderFlags
  blob : List UInt8

/-- `publish_with_flags`, up to the call of `handle_message`. -/
def Publication.message (publication : Publication) : SessionMessage :=
  ⟨ProtoMessage.newPublish publication.source publication.agentType publication.agentId
    (some publication.flags) "msg" publication.blob, publication.info⟩

/-- The steps of a task that nothing comes in between. -/
def InboundState.drive [NameHash] (build : Build) :
    Nat → InboundState → SessionLayer → InboundState × SessionLayer
  | 0, state, layer => (state, layer)
  | n + 1, state, layer =>
      let (next, left) := state.resume build layer
      drive build n next left

namespace SessionLayer

def handleMessageFromApp (layer : SessionLayer) (message : SessionMessage) : InboundState :=
  match layer.pool.get? message.info.id with
  | none => .answered (.sessionNotFound (toString message.info.id))
  | some session =>
      match message.message.modifySessionHeader fun header =>
          { header with sessionId := message.info.id } with
      | .error panic => .panicked (.access panic)
      | .ok msg =>
          match session.onMessageFromAppInterceptors msg with
          | .error e => .answered e
          | .ok received => .handed message.message session received

/-- A message of the network takes four steps at most.  The checks of `handle_message` are in
    the first state of its task. -/
def handleMessage [NameHash] (build : Build) (layer : SessionLayer) (message : SessionMessage) :
    MessageDirection → InboundState × SessionLayer
  | .North => InboundState.drive build 4 (.start message.message) layer
  | .South =>
      match message.message.validate with
      | .error e => (.answered (.validationError e.display), layer)
      | .ok () =>
          match message.message.isPublish with
          | .error panic => (.panicked (.access panic), layer)
          | .ok false => (.answered (.validationError "message is not a publish"), layer)
          | .ok true => (layer.handleMessageFromApp message, layer)

end SessionLayer

/-! ## The headers of a message -/

namespace ProtoMessage

/-- The info can be read off a message whose source has an id. -/
theorem Headers.ofMessage {msg : ProtoMessage} {header : ProtoSlimHeader} {session : SessionHeader}
    (hs : msg.Headers header session) {source : Agent} (hsource : header.getSource = .ok source) :
    ∃ info, Info.ofMessage msg = .ok info ∧ info.messageId = some session.messageId := by
  rw [Info.ofMessage, hs.session, bind_ok, hs.slim, bind_ok, hs.getSource, hsource, bind_ok]
  exact ⟨_, rfl, rfl⟩

/-- The message is not the same, but its headers are. -/
def SameHeaders (changed msg : ProtoMessage) : Prop :=
  ∀ header session, msg.Headers header session → changed.Headers header session

end ProtoMessage

/-! ## Interceptors -/

namespace SessionInterceptor

/-- The interceptor leaves the headers of a message alone. -/
structure KeepsHeaders (interceptor : SessionInterceptor) : Prop where
  fromApp : ∀ msg changed, interceptor.onMsgFromApp msg = .ok changed → changed.SameHeaders msg
  fromSlim : ∀ msg changed, interceptor.onMsgFromSlim msg = .ok changed → changed.SameHeaders msg

theorem sameHeaders_rfl (msg : ProtoMessage) : msg.SameHeaders msg :=
  fun _ _ hheaders => hheaders

theorem sameHeaders_withBlob (msg : ProtoMessage) (blob : List UInt8) :
    (msg.withBlob blob).SameHeaders msg := by
  intro header session hheaders
  obtain ⟨content, htype⟩ := hheaders.exists_publish
  simp only [ProtoMessage.withBlob, htype]
  exact ⟨rfl, rfl⟩

/-- A change of the metadata. -/
theorem sameHeaders_metadata {changed msg : ProtoMessage} (hsame : changed.SameHeaders msg)
    (metadata : HashMap String String) :
    ({ changed with metadata := metadata } : ProtoMessage).SameHeaders msg := by
  intro header session hheaders
  obtain ⟨hslim, hsession⟩ := hsame header session hheaders
  exact ⟨hslim, hsession⟩

/-- The interceptors of the repository do. -/
theorem IsBuiltIn.keepsHeaders {interceptor : SessionInterceptor} (hbuilt : interceptor.IsBuiltIn) :
    interceptor.KeepsHeaders := by
  rcases hbuilt with ⟨identity, rfl⟩ | ⟨mls, rfl⟩
  · constructor
    · intro msg changed hchanged
      cases identity with
      | none =>
          cases hchanged
          exact sameHeaders_rfl msg
      | some name =>
          cases hchanged
          exact sameHeaders_metadata (sameHeaders_rfl msg) _
    · intro msg changed hchanged
      cases hchanged
      exact sameHeaders_rfl msg
  · constructor
    · intro msg changed hchanged
      simp only [MlsInterceptor.toSessionInterceptor, MlsInterceptor.onMsgFromApp] at hchanged
      split at hchanged
      next =>
        split at hchanged
        next =>
          cases hchanged
          exact sameHeaders_metadata (sameHeaders_rfl msg) _
        next =>
          split at hchanged
          next =>
            split at hchanged
            next => cases hchanged
            next encrypted hencrypted =>
              cases hchanged
              refine sameHeaders_metadata ?_ _
              intro header session hheaders
              exact sameHeaders_withBlob _ _ header session
                (sameHeaders_metadata (sameHeaders_rfl msg) _ header session hheaders)
          next => cases hchanged
      next =>
        cases hchanged
        exact sameHeaders_rfl msg
    · intro msg changed hchanged
      rcases MlsInterceptor.onMsgFromSlim_eq_ok hchanged with rfl | ⟨-, decrypted, rfl⟩
      · exact sameHeaders_rfl _
      · exact sameHeaders_metadata (sameHeaders_withBlob msg decrypted) _

/-- What each interceptor leaves alone, the walk over them does. -/
theorem sameHeaders_walk
    {handler : SessionInterceptor → ProtoMessage → Except SessionError ProtoMessage}
    {interceptors : List SessionInterceptor}
    (hkeeps : ∀ interceptor ∈ interceptors, ∀ msg changed, handler interceptor msg = .ok changed →
      changed.SameHeaders msg) :
    ∀ {msg received : ProtoMessage}, walk handler interceptors msg = .ok received →
      received.SameHeaders msg := by
  induction interceptors with
  | nil =>
      intro msg received hreceived
      cases hreceived
      exact sameHeaders_rfl msg
  | cons interceptor rest ih =>
      intro msg received hreceived header session hheaders
      obtain ⟨middle, hmiddle, hreceived⟩ := bind_eq_ok hreceived
      have hfirst := hkeeps interceptor List.mem_cons_self msg middle hmiddle
      exact ih (fun other hother => hkeeps other (List.mem_cons_of_mem _ hother)) hreceived header
        session (hfirst header session hheaders)

end SessionInterceptor

/-- The interceptors of the session leave the headers alone. -/
def Common.KeepsHeaders (session : Common) : Prop :=
  ∀ interceptor ∈ session.interceptors, interceptor.KeepsHeaders

theorem Common.keepsHeaders_new (id : UInt32) (direction : SessionDirection)
    (config : SessionConfig) (source : Agent) (identity : Option String) :
    (Common.new id direction config source identity).KeepsHeaders := by
  intro interceptor hinterceptor
  rw [List.mem_singleton.1 hinterceptor]
  exact IsBuiltIn.keepsHeaders (.inl ⟨identity, rfl⟩)

/-! ## What is handed to a session -/

/-- The interceptors of all sessions leave the headers alone. -/
def SessionLayer.KeepsHeaders (layer : SessionLayer) : Prop :=
  ∀ id session, layer.pool.get? id = some session → session.KeepsHeaders

section Create

variable [NameHash] {layer : SessionLayer}

theorem SessionLayer.keepsHeaders_buildSession (layer : SessionLayer) (config : SessionConfig)
    (id : UInt32) : (layer.buildSession config id).KeepsHeaders := by
  cases config with
  | fireAndForget conf => exact Common.keepsHeaders_new _ _ _ _ _
  | requestResponse conf => exact Common.keepsHeaders_new _ _ _ _ _
  | streaming conf => exact Common.keepsHeaders_new _ _ _ _ _

theorem SessionLayer.KeepsHeaders.createSession (hlayer : layer.KeepsHeaders)
    (config : SessionConfig) (id : Option UInt32) (draws : List UInt32) :
    (layer.createSession config id draws).2.KeepsHeaders := by
  rcases hchosen : layer.chooseId id draws with result | chosen
  · rw [createSession_of_refused hchosen]
    exact hlayer
  · rw [createSession_of_chosen hchosen]
    intro other session hsession
    rw [HashMap.get?_insert] at hsession
    split at hsession
    next =>
      cases hsession
      exact keepsHeaders_buildSession layer config chosen
    next => exact hlayer other session hsession

end Create

namespace InboundState

variable {message : ProtoMessage}

/-- A task has its message, and hands over what the interceptors have left of it. -/
def Carries (message : ProtoMessage) : InboundState → Prop
  | lookup found _ _ => found = message
  | configure found _ _ => found = message
  | create found _ _ _ => found = message
  | retry found _ => found = message
  | handed _ session received => session.KeepsHeaders ∧
      session.onMessageFromSlimInterceptors message = .ok received
  | _ => True

theorem carries_hand {session : Common} (hsession : session.KeepsHeaders) :
    (hand message session).Carries message := by
  unfold hand
  split
  next => trivial
  next received hreceived => exact ⟨hsession, hreceived⟩

/-- A task that looks for a session has a publication with its headers. -/
theorem headers_of_start {id : UInt32} {headerType : SessionHeaderType}
    (hstart : start message = lookup message id headerType) :
    ∃ header session, message.Headers header session := by
  unfold start at hstart
  split at hstart
  next => cases hstart
  next hvalid =>
    split at hstart
    next => cases hstart
    next => cases hstart
    next hpublish =>
      obtain ⟨header, session, -, hheaders, -⟩ := ProtoMessage.headers_of_validate hvalid hpublish
      exact ⟨header, session, hheaders⟩

variable [NameHash]

theorem carries_resume (build : Build) {layer : SessionLayer} (hlayer : layer.KeepsHeaders)
    {state : InboundState} (hstate : state.Carries message) :
    (state.resume build layer).1.Carries message ∧
      (state.resume build layer).2.KeepsHeaders := by
  cases state with
  | idle => exact ⟨hstate, hlayer⟩
  | lookup found id headerType =>
      cases hstate
      simp only [resume]
      split
      next session hsession => exact ⟨carries_hand (hlayer id session hsession), hlayer⟩
      next => exact ⟨rfl, hlayer⟩
  | configure found id headerType =>
      cases hstate
      simp only [resume]
      split
      next => exact ⟨trivial, hlayer⟩
      next => exact ⟨rfl, hlayer⟩
  | create found id headerType config =>
      cases hstate
      have hleft := hlayer.createSession config (some id) []
      simp only [resume]
      split
      next info left hcreated =>
        rw [hcreated] at hleft
        split
        next => exact ⟨trivial, hleft⟩
        next => exact ⟨rfl, hleft⟩
      next error left hcreated =>
        rw [hcreated] at hleft
        exact ⟨trivial, hleft⟩
      next left hcreated =>
        rw [hcreated] at hleft
        exact ⟨trivial, hleft⟩
      next left hcreated =>
        rw [hcreated] at hleft
        exact ⟨rfl, hleft⟩
  | retry found id =>
      cases hstate
      simp only [resume]
      split
      next session hsession => exact ⟨carries_hand (hlayer id session hsession), hlayer⟩
      next => exact ⟨trivial, hlayer⟩
  | handed found session received => exact ⟨hstate, hlayer⟩
  | answered error => exact ⟨hstate, hlayer⟩
  | panicked panic => exact ⟨hstate, hlayer⟩

theorem carries_drive (build : Build) (n : Nat) : ∀ {layer : SessionLayer} (state : InboundState),
    layer.KeepsHeaders → state.Carries message → (drive build n state layer).1.Carries message := by
  induction n with
  | zero =>
      intro layer state _ hstate
      exact hstate
  | succ n ih =>
      intro layer state hlayer hstate
      obtain ⟨hnext, hleft⟩ := carries_resume build hlayer hstate
      exact ih _ hleft hnext

theorem drive_answered (build : Build) (n : Nat) (error : SessionError) (layer : SessionLayer) :
    drive build n (answered error) layer = (answered error, layer) := by
  induction n with
  | zero => rfl
  | succ n ih => exact ih

end InboundState

namespace SessionLayer

variable [NameHash] {build : Build} {layer : SessionLayer} {original received : ProtoMessage}
  {session : Common}

/-- A message of the network that is handed to a session has its headers, and they are handed
    over with it. -/
theorem headers_of_north {message : SessionMessage} (hlayer : layer.KeepsHeaders)
    (hhanded : (layer.handleMessage build message .North).1 =
      .handed original session received) :
    ∃ header sessionHeader, message.message.Headers header sessionHeader ∧
      received.Headers header sessionHeader := by
  simp only [handleMessage] at hhanded
  rcases InboundState.start_cases message.message with ⟨error, hstart⟩ | ⟨id, headerType, hstart, -⟩
  · rw [hstart, InboundState.drive_answered] at hhanded
    cases hhanded
  · obtain ⟨header, sessionHeader, hheaders⟩ := InboundState.headers_of_start hstart
    have hcarries := InboundState.carries_drive build 4 (.lookup message.message id headerType)
      hlayer rfl
    rw [← hstart, hhanded] at hcarries
    obtain ⟨hsession, hreceived⟩ := hcarries
    have hsame := sameHeaders_walk (fun interceptor hmem => (hsession interceptor hmem).fromSlim)
      hreceived
    exact ⟨header, sessionHeader, hheaders, hsame header sessionHeader hheaders⟩

/-- The headers of a publication that is handed to a session. -/
theorem headers_of_south {publication : Publication} (hlayer : layer.KeepsHeaders)
    (hhanded : (layer.handleMessage build publication.message .South).1 =
      .handed original session received) :
    received.Headers
      (ProtoSlimHeader.new publication.source publication.agentType publication.agentId
        (some publication.flags)) ⟨0, publication.info.id, 0⟩ := by
  have hvalid : publication.message.message.validate = .ok () := rfl
  have hpublish : publication.message.message.isPublish = .ok true := rfl
  simp only [handleMessage, hvalid, hpublish, handleMessageFromApp] at hhanded
  split at hhanded
  next => cases hhanded
  next holder hholder =>
    split at hhanded
    next => cases hhanded
    next changed hchanged =>
      split at hhanded
      next => cases hhanded
      next hreceived =>
        cases hhanded
        cases hchanged
        have hsession := hlayer _ _ hholder
        have hsame := sameHeaders_walk (fun interceptor hmem => (hsession interceptor hmem).fromApp)
          hreceived
        exact hsame _ _ ⟨rfl, rfl⟩

end SessionLayer

end Slim
