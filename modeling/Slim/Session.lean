import Slim.Messages

/-!
# Sessions: `session.rs`, `errors.rs` and the configurations

What the three kinds of sessions have in common: their configuration, and the list of
interceptors that a message goes through on its way from the application to the network
and back.
-/

namespace Slim

open Machine

/-! ## Messages of a session -/

structure Info where
  id : UInt32
  messageId : Option UInt32
  sessionHeaderType : SessionHeaderType
  messageSource : Option Agent
  inputConnection : Option Nat
deriving DecidableEq, Repr

def Info.new (id : UInt32) : Info := ⟨id, none, .unspecified, none, none⟩

/-- The conversion from a message, with the panics of the accessors. -/
def Info.ofMessage (message : ProtoMessage) : Except AccessPanic Info := do
  let sessionHeader ← message.getSessionHeader
  let slimHeader ← message.getSlimHeader
  let messageSource ← message.getSource
  return {
    id := sessionHeader.sessionId
    messageId := some sessionHeader.messageId
    sessionHeaderType := (SessionHeaderType.tryFrom sessionHeader.headerType).getD .unspecified
    messageSource := some messageSource
    inputConnection := slimHeader.incomingConn }

structure SessionMessage where
  message : ProtoMessage
  info : Info

/-! ## Configurations -/

/-- A duration, in nanoseconds. -/
abbrev Duration := Nat

def Duration.fromMillis (millis : Nat) : Duration := millis * 1000000

inductive SessionDirection where
  | Sender
  | Receiver
  | Bidirectional
deriving DecidableEq, Repr

/-- From the network to the application, or the other way. -/
inductive MessageDirection where
  | North
  | South
deriving DecidableEq, Repr

inductive SessionType where
  | FireAndForget
  | RequestResponse
  | Streaming
deriving DecidableEq, Repr

structure FireAndForgetConfiguration where
  timeout : Option Duration
  maxRetries : Option UInt32
  sticky : Bool
deriving DecidableEq, Repr

structure RequestResponseConfiguration where
  timeout : Duration
deriving DecidableEq, Repr

structure StreamingConfiguration where
  direction : SessionDirection
  topic : AgentType
  maxRetries : UInt32
  timeout : Duration
deriving DecidableEq, Repr

inductive SessionConfig where
  | fireAndForget (config : FireAndForgetConfiguration)
  | requestResponse (config : RequestResponseConfiguration)
  | streaming (config : StreamingConfiguration)
deriving DecidableEq, Repr

/-- The kind of session that a configuration is for. -/
def SessionConfig.sessionType : SessionConfig → SessionType
  | fireAndForget _ => .FireAndForget
  | requestResponse _ => .RequestResponse
  | streaming _ => .Streaming

def FireAndForgetConfiguration.default : FireAndForgetConfiguration := ⟨none, none, false⟩

def RequestResponseConfiguration.default : RequestResponseConfiguration :=
  ⟨Duration.fromMillis 1000⟩

def StreamingConfiguration.default : StreamingConfiguration where
  direction := .Receiver
  topic := ⟨0, 0, 0, none⟩
  maxRetries := 10
  timeout := Duration.fromMillis 1000

/-! ## Errors -/

/-- What a configuration error reports: "cannot change session direction from .. to ..",
    "invalid session config type: expected .., got ..", or only "invalid session config type". -/
inductive ConfigurationError where
  | directionChange (current proposed : SessionDirection)
  | wrongType (expected : SessionType) (got : SessionConfig)
  | invalidType
deriving DecidableEq, Repr

/-- The errors of `SessionError` that the modelled functions return. -/
inductive SessionError where
  | slimTransmission (text : String)
  | appTransmission (text : String)
  | processing (text : String)
  | sessionIdAlreadyUsed (text : String)
  | invalidSessionId (text : String)
  | sessionUnknown (text : String)
  | sessionNotFound (text : String)
  | validationError (text : String)
  | timeout (sessionId messageId : UInt32) (message : SessionMessage)
  | configurationError (error : ConfigurationError)
  | messageLost (text : String)
  | interceptorError (text : String)

/-! ## `replace` -/

def FireAndForgetConfiguration.replace (_ : FireAndForgetConfiguration) :
    SessionConfig → Except SessionError FireAndForgetConfiguration
  | .fireAndForget config => .ok config
  | other => .error (.configurationError (.wrongType .FireAndForget other))

def RequestResponseConfiguration.replace (_ : RequestResponseConfiguration) :
    SessionConfig → Except SessionError RequestResponseConfiguration
  | .requestResponse config => .ok config
  | other => .error (.configurationError (.wrongType .RequestResponse other))

/-- The direction of a streaming session cannot be changed. -/
def StreamingConfiguration.replace (current : StreamingConfiguration) :
    SessionConfig → Except SessionError StreamingConfiguration
  | .streaming config =>
      if current.direction ≠ config.direction then
        .error (.configurationError (.directionChange current.direction config.direction))
      else .ok config
  | other => .error (.configurationError (.wrongType .Streaming other))

/-- `set_session_config` of a session, by the kind of its configuration. -/
def SessionConfig.replace (current proposed : SessionConfig) :
    Except SessionError SessionConfig :=
  match current with
  | fireAndForget config => do return fireAndForget (← config.replace proposed)
  | requestResponse config => do return requestResponse (← config.replace proposed)
  | streaming config => do return streaming (← config.replace proposed)

/-- A configuration that replaces another one is for the same kind of session. -/
theorem SessionConfig.sessionType_of_replace {current proposed config : SessionConfig}
    (hreplace : current.replace proposed = .ok config) :
    config.sessionType = current.sessionType := by
  cases current with
  | fireAndForget current =>
      obtain ⟨inner, -, hinner⟩ := bind_eq_ok hreplace
      cases hinner
      rfl
  | requestResponse current =>
      obtain ⟨inner, -, hinner⟩ := bind_eq_ok hreplace
      cases hinner
      rfl
  | streaming current =>
      obtain ⟨inner, -, hinner⟩ := bind_eq_ok hreplace
      cases hinner
      rfl

theorem FireAndForgetConfiguration.eq_of_replace {current config : FireAndForgetConfiguration}
    {proposed : SessionConfig} (hreplace : current.replace proposed = .ok config) :
    proposed = .fireAndForget config := by
  cases proposed <;> simp_all [replace]

theorem RequestResponseConfiguration.eq_of_replace {current config : RequestResponseConfiguration}
    {proposed : SessionConfig} (hreplace : current.replace proposed = .ok config) :
    proposed = .requestResponse config := by
  cases proposed <;> simp_all [replace]

/-- A streaming configuration is replaced by one of the same direction. -/
theorem StreamingConfiguration.replace_eq_ok {current config : StreamingConfiguration}
    {proposed : SessionConfig} (hreplace : current.replace proposed = .ok config) :
    proposed = .streaming config ∧ config.direction = current.direction := by
  cases proposed with
  | fireAndForget proposed => cases hreplace
  | requestResponse proposed => cases hreplace
  | streaming proposed =>
      simp only [replace] at hreplace
      by_cases hsame : current.direction = proposed.direction
      · rw [if_neg (not_not_intro hsame)] at hreplace
        cases hreplace
        exact ⟨rfl, hsame.symm⟩
      · rw [if_pos hsame] at hreplace
        cases hreplace

/-- What replaces a configuration is what was proposed. -/
theorem SessionConfig.eq_of_replace {current proposed config : SessionConfig}
    (hreplace : current.replace proposed = .ok config) : config = proposed := by
  cases current with
  | fireAndForget current =>
      obtain ⟨inner, hinner, hconfig⟩ := bind_eq_ok hreplace
      cases hconfig
      exact (FireAndForgetConfiguration.eq_of_replace hinner).symm
  | requestResponse current =>
      obtain ⟨inner, hinner, hconfig⟩ := bind_eq_ok hreplace
      cases hconfig
      exact (RequestResponseConfiguration.eq_of_replace hinner).symm
  | streaming current =>
      obtain ⟨inner, hinner, hconfig⟩ := bind_eq_ok hreplace
      cases hconfig
      exact (StreamingConfiguration.replace_eq_ok hinner).1.symm

/-! ## Interceptors -/

/-- What a handler leaves in a message that it rejects is not kept: the callers drop the
    message. -/
structure SessionInterceptor where
  onMsgFromApp : ProtoMessage → Except SessionError ProtoMessage
  onMsgFromSlim : ProtoMessage → Except SessionError ProtoMessage

def SLIM_IDENTITY : String := "SLIM_IDENTITY"

def identitySessionInterceptor (identity : Option String) : SessionInterceptor where
  onMsgFromApp msg :=
    match identity with
    | some name => .ok (msg.insertMetadata SLIM_IDENTITY name)
    | none => .ok msg
  onMsgFromSlim msg := .ok msg

/-- The data that every session has. -/
structure Common where
  id : UInt32
  sessionDirection : SessionDirection
  sessionConfig : SessionConfig
  source : Agent
  identity : Option String
  interceptors : List SessionInterceptor

namespace SessionInterceptor

/-- The loop of both walks over the interceptors: the first error ends it. -/
def walk (handler : SessionInterceptor → ProtoMessage → Except SessionError ProtoMessage) :
    List SessionInterceptor → ProtoMessage → Except SessionError ProtoMessage
  | [], msg => .ok msg
  | interceptor :: rest, msg => do
      let msg ← handler interceptor msg
      walk handler rest msg

end SessionInterceptor

namespace Common

def new (id : UInt32) (sessionDirection : SessionDirection) (sessionConfig : SessionConfig)
    (source : Agent) (identity : Option String) : Common where
  id := id
  sessionDirection := sessionDirection
  sessionConfig := sessionConfig
  source := source
  identity := identity
  interceptors := [identitySessionInterceptor identity]

def setSessionConfig (common : Common) (proposed : SessionConfig) :
    Except SessionError Common := do
  return { common with sessionConfig := ← common.sessionConfig.replace proposed }

def addInterceptor (common : Common) (interceptor : SessionInterceptor) : Common :=
  { common with interceptors := common.interceptors ++ [interceptor] }

def onMessageFromAppInterceptors (common : Common) (msg : ProtoMessage) :
    Except SessionError ProtoMessage :=
  SessionInterceptor.walk SessionInterceptor.onMsgFromApp common.interceptors msg

/-- The list is walked from the front here too. -/
def onMessageFromSlimInterceptors (common : Common) (msg : ProtoMessage) :
    Except SessionError ProtoMessage :=
  SessionInterceptor.walk SessionInterceptor.onMsgFromSlim common.interceptors msg

end Common

/-! ## Round trips -/

namespace SessionInterceptor

/-- What the handler for the application did is undone by the handler for the network. -/
def Undoes (interceptor : SessionInterceptor) : Prop :=
  ∀ msg sent, interceptor.onMsgFromApp msg = .ok sent → interceptor.onMsgFromSlim sent = .ok msg

/-- What the handler for the network did is undone by the handler for the application. -/
def Redoes (interceptor : SessionInterceptor) : Prop :=
  ∀ sent msg, interceptor.onMsgFromSlim sent = .ok msg → interceptor.onMsgFromApp msg = .ok sent

/-- The handlers for the application, the one of the last interceptor first. -/
def appFromLast (interceptors : List SessionInterceptor) (msg : ProtoMessage) :
    Except SessionError ProtoMessage :=
  walk onMsgFromApp interceptors.reverse msg

theorem walk_append
    (handler : SessionInterceptor → ProtoMessage → Except SessionError ProtoMessage)
    (first second : List SessionInterceptor) : ∀ msg,
    walk handler (first ++ second) msg = walk handler first msg >>= walk handler second := by
  induction first with
  | nil =>
      intro msg
      rfl
  | cons interceptor rest ih =>
      intro msg
      simp only [List.cons_append, walk]
      rcases handler interceptor msg with e | changed
      · rfl
      · exact ih changed

/-- Handlers that undo each other do so for a list when it is walked from the end. -/
theorem walk_reverse
    (handler back : SessionInterceptor → ProtoMessage → Except SessionError ProtoMessage)
    (interceptors : List SessionInterceptor)
    (hback : ∀ interceptor ∈ interceptors, ∀ msg sent, handler interceptor msg = .ok sent →
      back interceptor sent = .ok msg) :
    ∀ msg sent, walk handler interceptors msg = .ok sent →
      walk back interceptors.reverse sent = .ok msg := by
  induction interceptors with
  | nil =>
      intro msg sent hwalk
      cases hwalk
      rfl
  | cons interceptor rest ih =>
      intro msg sent hwalk
      obtain ⟨changed, hchanged, hrest⟩ := bind_eq_ok hwalk
      have hlater := ih (fun other hother => hback other (List.mem_cons_of_mem _ hother)) changed
        sent hrest
      rw [List.reverse_cons, walk_append, hlater, bind_ok, walk,
        hback interceptor List.mem_cons_self msg changed hchanged]
      rfl

end SessionInterceptor

namespace Common

open SessionInterceptor

/-- What the sender's interceptors make of the message is turned back into the message by
    the receiver's. -/
def RoundTrips (sender receiver : Common) (msg : ProtoMessage) : Prop :=
  ∀ sent, sender.onMessageFromAppInterceptors msg = .ok sent →
    receiver.onMessageFromSlimInterceptors sent = .ok msg

/-- Two sessions with the same list of interceptors, each of which undoes what it did,
    turn a message back if the sender's handlers give the same message when the last one
    comes first; and only then, if each interceptor also redoes what it undid. -/
theorem round_trips_of_appFromLast (sender receiver : Common)
    (hsame : receiver.interceptors = sender.interceptors)
    (hundoes : ∀ interceptor ∈ sender.interceptors, interceptor.Undoes) (msg : ProtoMessage) :
    ((∀ sent, sender.onMessageFromAppInterceptors msg = .ok sent →
        appFromLast sender.interceptors msg = .ok sent) → RoundTrips sender receiver msg) ∧
      ((∀ interceptor ∈ sender.interceptors, interceptor.Redoes) →
        RoundTrips sender receiver msg →
        ∀ sent, sender.onMessageFromAppInterceptors msg = .ok sent →
          appFromLast sender.interceptors msg = .ok sent) := by
  constructor
  · intro hlast sent happ
    have hundone := walk_reverse onMsgFromApp onMsgFromSlim sender.interceptors.reverse
      (fun interceptor hmem => hundoes interceptor (List.mem_reverse.mp hmem)) msg sent
      (hlast sent happ)
    rw [List.reverse_reverse] at hundone
    rw [onMessageFromSlimInterceptors, hsame]
    exact hundone
  · intro hredoes htrips sent happ
    have hundone := htrips sent happ
    rw [onMessageFromSlimInterceptors, hsame] at hundone
    exact walk_reverse onMsgFromSlim onMsgFromApp sender.interceptors hredoes sent msg hundone

/-- The interceptors stand in the order in which they were added. -/
theorem interceptors_foldl (added : List SessionInterceptor) : ∀ common,
    (added.foldl addInterceptor common).interceptors = common.interceptors ++ added := by
  induction added with
  | nil =>
      intro common
      exact (List.append_nil _).symm
  | cons interceptor rest ih =>
      intro common
      rw [List.foldl_cons, ih, addInterceptor, List.append_assoc]
      rfl

/-- An interceptor that puts a byte behind the payload, and takes it off again. -/
def tagging (tag : UInt8) : SessionInterceptor where
  onMsgFromApp msg :=
    match msg.content with
    | none => .ok msg
    | some content => .ok (msg.withBlob (content.blob ++ [tag]))
  onMsgFromSlim msg :=
    match msg.content with
    | none => .ok msg
    | some content =>
        if content.blob.getLast? = some tag then .ok (msg.withBlob content.blob.dropLast)
        else .error (.interceptorError "tag not found")

theorem tagging_undoes (tag : UInt8) : (tagging tag).Undoes := by
  intro msg sent hsent
  simp only [tagging] at hsent ⊢
  rcases hcontent : msg.content with _ | content
  · rw [hcontent] at hsent
    cases hsent
    rw [hcontent]
  · rw [hcontent] at hsent
    cases hsent
    simp only [ProtoMessage.content_withBlob, hcontent, Option.map_some, List.getLast?_concat,
      if_true, List.dropLast_concat, ProtoMessage.withBlob_withBlob]
    rw [ProtoMessage.withBlob_of_content hcontent]

theorem identity_undoes : (identitySessionInterceptor none).Undoes := by
  intro msg sent hsent
  cases hsent
  rfl

/-- A session of an agent without identity, with interceptors that tag the payload. -/
def taggedSession (tags : List UInt8) : Common :=
  (tags.map tagging).foldl addInterceptor
    (new 1 .Bidirectional (.fireAndForget .default) ⟨⟨1, 1, 1, none⟩, 7⟩ none)

theorem undoes_taggedSession (tags : List UInt8) :
    ∀ interceptor ∈ (taggedSession tags).interceptors, interceptor.Undoes := by
  intro interceptor hmem
  rw [taggedSession, interceptors_foldl] at hmem
  rcases List.mem_append.mp hmem with hfirst | hadded
  · rw [List.mem_singleton.mp hfirst]
    exact identity_undoes
  · obtain ⟨tag, -, rfl⟩ := List.mem_map.mp hadded
    exact tagging_undoes tag

/-- A publication with an empty payload. -/
def samplePublish : ProtoMessage := ProtoMessage.newPublish ⟨⟨1, 1, 1, none⟩, 7⟩ ⟨1, 1, 2, none⟩
  none none "" []

/-- Each interceptor undoes what it did, but the first one meets the tag of the second. -/
theorem tags_do_not_round_trip :
    (∀ interceptor ∈ (taggedSession [1, 2]).interceptors, interceptor.Undoes) ∧
      ∃ sent, (taggedSession [1, 2]).onMessageFromAppInterceptors samplePublish = .ok sent ∧
        (taggedSession [1, 2]).onMessageFromSlimInterceptors sent =
          .error (.interceptorError "tag not found") := by
  exact ⟨undoes_taggedSession [1, 2], _, rfl, rfl⟩

/-- Two interceptors with the same tag can change places. -/
theorem round_trips_of_appFromLast_sample :
    RoundTrips (taggedSession [3, 3]) (taggedSession [3, 3]) samplePublish := by
  apply (round_trips_of_appFromLast (taggedSession [3, 3]) (taggedSession [3, 3]) rfl
    (undoes_taggedSession [3, 3]) samplePublish).1
  intro sent happ
  cases happ
  rfl

end Common

end Slim
