import Slim.StreamingOrder
import Slim.MlsInterceptor

/-!
# A retransmitted message beside the one sent first

A reply to a retransmission request is not the message that the producer keeps.  It is
built anew with the id and the bytes of that message; its content type is the empty text
and it has no metadata.  The interceptors of the receiver then see the reply in place of
the message.
-/

namespace Slim

open Machine SessionInterceptor

/-- What an application gets of a message. -/
structure Received where
  content : Option Content
  metadata : String → Option String

/-- A message from the network passes the interceptors of the session, and its buffer hands
    it over as it is.  There is nothing for the application if an interceptor refuses it. -/
def Common.receives (receiver : Common) (msg : ProtoMessage) : Option Received :=
  match receiver.onMessageFromSlimInterceptors msg with
  | .ok opened => some ⟨opened.content, fun key => opened.metadata.get? key⟩
  | .error _ => none

/-- The answer of the producer to a request, as the application behind the request gets it. -/
def ProducerState.retransmits (ctx : StreamContext) (producer : ProducerState)
    (request : ProtoMessage) (connections : SlimHeader) (receiver : Common) : Option Received :=
  match producer.processIncomingRtxRequest ctx request with
  | .ok (some reply) => receiver.receives (reply.carried connections)
  | _ => none

/-! ## The interceptors of the repository -/

namespace SessionInterceptor

/-- The interceptor that adds the identity, or one that encrypts. -/
def IsBuiltIn (interceptor : SessionInterceptor) : Prop :=
  (∃ identity, interceptor = identitySessionInterceptor identity) ∨
    ∃ mls : MlsInterceptor, interceptor = mls.toSessionInterceptor

/-- An interceptor of the list encrypts. -/
def Encrypts (interceptors : List SessionInterceptor) : Prop :=
  ∃ mls : MlsInterceptor, mls.toSessionInterceptor ∈ interceptors

section Walk

variable {interceptors : List SessionInterceptor}

/-- A message without mark passes unchanged. -/
theorem walk_of_not_encrypted (hbuilt : ∀ interceptor ∈ interceptors, interceptor.IsBuiltIn)
    {msg : ProtoMessage} (hmark : msg.isEncrypted = false) :
    walk onMsgFromSlim interceptors msg = .ok msg := by
  induction interceptors with
  | nil => rfl
  | cons interceptor rest ih =>
      have hrest := ih fun other hother => hbuilt other (List.mem_cons_of_mem _ hother)
      rcases hbuilt interceptor List.mem_cons_self with ⟨identity, rfl⟩ | ⟨mls, rfl⟩
      · exact hrest
      · have hpass : mls.toSessionInterceptor.onMsgFromSlim msg = .ok msg :=
          MlsInterceptor.onMsgFromSlim_of_not_encrypted hmark
        rw [walk, hpass, bind_ok, hrest]

/-- The content type stays, and metadata does not vanish: a message that is decrypted
    loses its mark but keeps the id of its group. -/
theorem walk_keeps (hbuilt : ∀ interceptor ∈ interceptors, interceptor.IsBuiltIn) :
    ∀ {msg opened : ProtoMessage}, walk onMsgFromSlim interceptors msg = .ok opened →
      opened.content.map Content.contentType = msg.content.map Content.contentType ∧
        (opened.metadata.isEmpty = true → msg.metadata.isEmpty = true) := by
  induction interceptors with
  | nil =>
      intro msg opened hopened
      cases hopened
      exact ⟨rfl, id⟩
  | cons interceptor rest ih =>
      intro msg opened hopened
      obtain ⟨middle, hmiddle, hopened⟩ := bind_eq_ok hopened
      obtain ⟨htype, hempty⟩ :=
        ih (fun other hother => hbuilt other (List.mem_cons_of_mem _ hother)) hopened
      rcases hbuilt interceptor List.mem_cons_self with ⟨identity, rfl⟩ | ⟨mls, rfl⟩
      · cases hmiddle
        exact ⟨htype, hempty⟩
      rcases MlsInterceptor.onMsgFromSlim_eq_ok hmiddle with rfl | ⟨hgroup, decrypted, rfl⟩
      · exact ⟨htype, hempty⟩
      · constructor
        · rw [htype, ProtoMessage.content_removeMetadata, ProtoMessage.content_withBlob,
            Option.map_map]
          rfl
        · intro hnone
          have hkept := (HashMap.isEmpty_iff _).1 (hempty hnone) METADATA_MLS_GROUP_ID
          rw [ProtoMessage.removeMetadata, HashMap.get?_remove_of_ne _ (by decide),
            ProtoMessage.metadata_withBlob, hgroup] at hkept
          cases hkept

/-- Without an interceptor that decrypts every message passes unchanged. -/
theorem walk_of_not_encrypts (hbuilt : ∀ interceptor ∈ interceptors, interceptor.IsBuiltIn)
    (hplain : ¬ Encrypts interceptors) (msg : ProtoMessage) :
    walk onMsgFromSlim interceptors msg = .ok msg := by
  induction interceptors with
  | nil => rfl
  | cons interceptor rest ih =>
      have hrest := ih (fun other hother => hbuilt other (List.mem_cons_of_mem _ hother))
        fun ⟨mls, hmls⟩ => hplain ⟨mls, List.mem_cons_of_mem _ hmls⟩
      rcases hbuilt interceptor List.mem_cons_self with ⟨identity, rfl⟩ | ⟨mls, rfl⟩
      · exact hrest
      · exact absurd ⟨mls, List.mem_cons_self⟩ hplain

/-- A marked message without payload does not pass an interceptor that decrypts. -/
theorem walk_ne_ok (hbuilt : ∀ interceptor ∈ interceptors, interceptor.IsBuiltIn)
    (hencrypts : Encrypts interceptors) {msg : ProtoMessage} {publish : ProtoPublish}
    (hpublish : msg.messageType = some (.publish publish)) (hmark : msg.isEncrypted = true)
    (hcontent : msg.content = none) (opened : ProtoMessage) :
    walk onMsgFromSlim interceptors msg ≠ .ok opened := by
  obtain ⟨mls, hmls⟩ := hencrypts
  induction interceptors with
  | nil => cases hmls
  | cons interceptor rest ih =>
      intro hopened
      obtain ⟨middle, hmiddle, hopened⟩ := bind_eq_ok hopened
      rcases List.mem_cons.1 hmls with rfl | hrest
      · exact MlsInterceptor.onMsgFromSlim_ne_ok hpublish hmark hcontent middle hmiddle
      rcases hbuilt interceptor List.mem_cons_self with ⟨identity, rfl⟩ | ⟨first, rfl⟩
      · cases hmiddle
        exact ih (fun other hother => hbuilt other (List.mem_cons_of_mem _ hother)) hrest hopened
      · exact MlsInterceptor.onMsgFromSlim_ne_ok hpublish hmark hcontent middle hmiddle

end Walk

end SessionInterceptor

/-! ## Both ways -/

/-- The application gets of the message that the producer keeps the same both ways. -/
def ProducerState.Transparent (ctx : StreamContext) (producer : ProducerState)
    (msg request : ProtoMessage) (direct again : SlimHeader) (receiver : Common) : Prop :=
  receiver.receives (msg.carried direct) = producer.retransmits ctx request again receiver

/-- What a message must be for that.  A message without payload is never sent again; that
    makes no difference only where the receiver refuses it anyway. -/
def ProtoMessage.Plain (msg : ProtoMessage) (receiver : Common) : Prop :=
  (∃ blob, msg.content = some ⟨"", blob⟩) ∧ msg.metadata.isEmpty = true ∨
    msg.content = none ∧ msg.isEncrypted = true ∧ Encrypts receiver.interceptors

section Paths

variable {producer : ProducerState} {msg request : ProtoMessage} {id : UInt32}
  {requester : Agent} {conn : Nat}

/-- The answer to a request for a message that the producer keeps. -/
theorem ProducerState.answer_of_held (ctx : StreamContext)
    (hheld : producer.buffer.get id.toNat = some msg) (hid : request.getMessageId = .ok id)
    (hsource : request.getSource = .ok requester) (hconn : request.getIncomingConn = .ok conn) :
    producer.processIncomingRtxRequest ctx request =
      .ok (msg.content.map (rtxReply ctx requester conn id)) := by
  obtain ⟨hmsgId, -⟩ := ProducerBuffer.get_eq_some hheld
  have hpayload : msg.getPayload = .ok msg.content := msg.getPayload_of_getMessageId hmsgId
  simp only [processIncomingRtxRequest, hid, hsource, hconn, bind_ok, hheld, hpayload]
  rfl

variable {receiver : Common} {direct again : SlimHeader} {found : ProtoMessage}

theorem isEncrypted_of_isEmpty (hempty : found.metadata.isEmpty = true) :
    found.isEncrypted = false := by
  rw [ProtoMessage.isEncrypted, (HashMap.isEmpty_iff _).1 hempty]
  rfl

/-- A message without metadata is handed over as it is. -/
theorem receives_of_isEmpty (hbuilt : ∀ interceptor ∈ receiver.interceptors, interceptor.IsBuiltIn)
    (hempty : found.metadata.isEmpty = true) :
    receiver.receives found = some ⟨found.content, fun _ => none⟩ := by
  unfold Common.receives Common.onMessageFromSlimInterceptors
  rw [walk_of_not_encrypted hbuilt (isEncrypted_of_isEmpty hempty)]
  simp only [(HashMap.isEmpty_iff _).1 hempty]

theorem receives_eq_none_iff :
    receiver.receives found = none ↔
      ∀ opened, receiver.onMessageFromSlimInterceptors found ≠ .ok opened := by
  unfold Common.receives
  rcases receiver.onMessageFromSlimInterceptors found with error | opened
  · simp
  · simp

theorem receives_eq_some {received : Received}
    (hreceived : receiver.receives found = some received) :
    ∃ opened, receiver.onMessageFromSlimInterceptors found = .ok opened ∧
      opened.content = received.content ∧
        ∀ key, opened.metadata.get? key = received.metadata key := by
  unfold Common.receives at hreceived
  split at hreceived
  next opened hopened =>
    cases hreceived
    exact ⟨opened, hopened, rfl, fun _ => rfl⟩
  next => cases hreceived

/-- A message without payload arrives unless it is marked and the receiver decrypts. -/
theorem receives_without_payload
    (hbuilt : ∀ interceptor ∈ receiver.interceptors, interceptor.IsBuiltIn)
    (hid : found.getMessageId = .ok id) (hcontent : found.content = none) :
    receiver.receives found = none ↔
      found.isEncrypted = true ∧ Encrypts receiver.interceptors := by
  rw [receives_eq_none_iff]
  obtain ⟨publish, hpublish⟩ := ProtoMessage.exists_publish_of_getMessageId hid
  constructor
  · intro hrefused
    constructor
    · by_contra hmark
      exact hrefused found (walk_of_not_encrypted hbuilt (Bool.eq_false_iff.2 hmark))
    · by_contra hplain
      exact hrefused found (walk_of_not_encrypts hbuilt hplain found)
  · rintro ⟨hmark, hencrypts⟩ opened
    exact walk_ne_ok hbuilt hencrypts hpublish hmark hcontent opened

/-- A message arrives with an empty content type and no metadata only if it has been sent so. -/
theorem plain_of_receives (hbuilt : ∀ interceptor ∈ receiver.interceptors, interceptor.IsBuiltIn)
    {payload : Content} {blob : List UInt8} (hcontent : found.content = some payload)
    (hreceived : receiver.receives found = some ⟨some ⟨"", blob⟩, fun _ => none⟩) :
    payload.contentType = "" ∧ found.metadata.isEmpty = true := by
  obtain ⟨opened, hopened, hopenedContent, hmetadata⟩ := receives_eq_some hreceived
  obtain ⟨htype, hempty⟩ := walk_keeps hbuilt hopened
  rw [hopenedContent, hcontent] at htype
  exact ⟨(Option.some.inj htype).symm, hempty ((HashMap.isEmpty_iff _).2 hmetadata)⟩

end Paths

/-- For a message that the producer keeps, a request for it and a receiver with the
    interceptors of the repository: the retransmission makes no difference to the
    application exactly if the message is plain. -/
theorem ProducerState.retransmission_transparent_iff (ctx : StreamContext)
    (producer : ProducerState) (msg request : ProtoMessage) (id : UInt32) (requester : Agent)
    (conn : Nat) (hheld : producer.buffer.get id.toNat = some msg)
    (hid : request.getMessageId = .ok id) (hsource : request.getSource = .ok requester)
    (hconn : request.getIncomingConn = .ok conn) (receiver : Common)
    (hbuilt : ∀ interceptor ∈ receiver.interceptors, interceptor.IsBuiltIn)
    (direct again : SlimHeader) :
    producer.Transparent ctx msg request direct again receiver ↔ msg.Plain receiver := by
  have hanswer := answer_of_held ctx hheld hid hsource hconn
  have hcarriedId : (msg.carried direct).getMessageId = .ok id := by
    rw [ProtoMessage.getMessageId, ProtoMessage.getSessionHeader_carried]
    exact (ProducerBuffer.get_eq_some hheld).1
  have hmark : (msg.carried direct).isEncrypted = msg.isEncrypted := by
    rw [ProtoMessage.isEncrypted, ProtoMessage.metadata_carried, ProtoMessage.isEncrypted]
  unfold Transparent retransmits
  rw [hanswer]
  rcases hcontent : msg.content with _ | payload
  · have hcarried : (msg.carried direct).content = none := by
      rw [ProtoMessage.content_carried, hcontent]
    simp only [Option.map_none]
    rw [receives_without_payload hbuilt hcarriedId hcarried, hmark, ProtoMessage.Plain, hcontent]
    simp
  · have hcarried : (msg.carried direct).content = some payload := by
      rw [ProtoMessage.content_carried, hcontent]
    have hagain : receiver.receives ((rtxReply ctx requester conn id payload).carried again) =
        some ⟨some ⟨"", payload.blob⟩, fun _ => none⟩ := by
      rw [receives_of_isEmpty hbuilt (by rw [ProtoMessage.metadata_carried]; rfl),
        ProtoMessage.content_carried]
      rfl
    simp only [Option.map_some, hagain]
    constructor
    · intro hsame
      obtain ⟨htype, hempty⟩ := plain_of_receives hbuilt hcarried hsame
      rw [ProtoMessage.metadata_carried] at hempty
      refine .inl ⟨⟨payload.blob, ?_⟩, hempty⟩
      rw [hcontent, ← htype]
    · rintro (⟨⟨blob, hblob⟩, hempty⟩ | ⟨hnone, -⟩)
      · rw [hcontent, Option.some.injEq] at hblob
        subst hblob
        rw [receives_of_isEmpty hbuilt (by rw [ProtoMessage.metadata_carried]; exact hempty),
          hcarried]
      · rw [hcontent] at hnone
        cases hnone

/-- For two sessions that encrypt for one group, with a cipher that decryption inverts: the
    message itself gives the application the payload that was sent, but it is never plain. -/
theorem ProducerState.encrypted_only_direct {sender receiver : MlsInterceptor}
    (hgroup : receiver.groupIdB64 = sender.groupIdB64)
    (hmember : receiver.mls.isGroupMember receiver.groupId = true)
    (hinverts : ∀ plain encrypted, sender.mls.encryptMessage sender.groupId plain = .ok encrypted →
      receiver.mls.decryptMessage receiver.groupId encrypted = .ok plain)
    {msg encrypted sent : ProtoMessage} {payload : Content} (hpayload : msg.content = some payload)
    (hencrypted : sender.onMsgFromApp msg = .ok encrypted) {stamper : ProducerState}
    {isBidirectional : Bool} (hsent : stamper.stamp isBidirectional encrypted = .ok sent)
    {session : Common}
    (hsession : session.interceptors = [identitySessionInterceptor session.identity,
      receiver.toSessionInterceptor]) (direct : SlimHeader) :
    (session.receives (sent.carried direct)).map Received.content = some (some payload) ∧
      ¬ sent.Plain session := by
  obtain ⟨-, hcontent, hmetadata⟩ := stamp_eq_ok hsent
  constructor
  · have hcarried : (sent.carried direct).content = encrypted.content := by
      rw [ProtoMessage.content_carried, hcontent]
    obtain ⟨opened, hopened, hplain⟩ := MlsInterceptor.onMsgFromSlim_of_sent hgroup hmember
      hinverts hpayload hencrypted hcarried (by rw [ProtoMessage.metadata_carried, hmetadata])
    have hwalk : session.onMessageFromSlimInterceptors (sent.carried direct) = .ok opened := by
      rw [Common.onMessageFromSlimInterceptors, hsession]
      change (receiver.onMsgFromSlim (sent.carried direct) >>= fun msg => .ok msg) = .ok opened
      rw [hopened, bind_ok]
    rw [Common.receives, hwalk]
    exact congrArg some hplain
  · rintro (⟨-, hempty⟩ | ⟨hnone, -⟩)
    · have hmark := MlsInterceptor.isEncrypted_onMsgFromApp hpayload hencrypted
      rw [ProtoMessage.isEncrypted, ← hmetadata] at hmark
      rw [← ProtoMessage.isEncrypted, isEncrypted_of_isEmpty hempty] at hmark
      cases hmark
    · obtain ⟨bytes, -, rfl⟩ := MlsInterceptor.onMsgFromApp_eq_ok hpayload hencrypted
      rw [hcontent] at hnone
      simp [hpayload] at hnone

/-! ## Examples -/

namespace Retransmission

def sampleSource : Agent := ⟨⟨1, 1, 1, none⟩, 7⟩

def sampleContext : StreamContext := ⟨.debug, 5, sampleSource, 10, Duration.fromMillis 1000⟩

def sampleMessage : ProtoMessage :=
  ProtoMessage.newPublish sampleSource ⟨1, 1, 2, none⟩ none none "" [1, 2, 3]

/-- A group with the one id `[7]`, and a cipher that turns the bytes around. -/
def sampleMls : Mls where
  isGroupMember groupId := decide (groupId = [7])
  encryptMessage groupId plain :=
    if groupId = [7] then .ok plain.reverse else .error "Group not found"
  decryptMessage groupId encrypted :=
    if groupId = [7] then .ok encrypted.reverse else .error "Group not found"

/-- A session without identity, and the same session with encryption. -/
def sampleSession : Common :=
  Common.new 5 .Receiver (.streaming StreamingConfiguration.default) ⟨⟨1, 1, 3, none⟩, 8⟩ none

def sampleMlsSession : Common :=
  sampleSession.addInterceptor (MlsInterceptor.toSessionInterceptor ⟨sampleMls, [7], "Bw=="⟩)

/-- The request for the first message, as it arrives. -/
def sampleRequest : ProtoMessage :=
  (Receiver.rtxRequest { sampleContext with source := ⟨⟨1, 1, 3, none⟩, 8⟩ } sampleSource 3
    0).carried ⟨none, none, some 4⟩

/-- What is sent for a message of the application, and the producer that keeps it. -/
def accept (msg : ProtoMessage) : Except StreamPanic (Effects × ProducerState) :=
  @ProducerState.processMessageFromApp sampleHash sampleContext ProducerState.new false msg false

end Retransmission

open Retransmission

theorem ProducerState.retransmission_transparent_iff_sample :
    ∃ sent producer, accept sampleMessage = .ok (⟨[sent], []⟩, producer) ∧
      producer.buffer.get 0 = some sent ∧
      producer.Transparent sampleContext sent sampleRequest ⟨none, none, some 3⟩
        ⟨none, none, some 3⟩ sampleMlsSession := by
  refine ⟨_, _, rfl, rfl, ?_⟩
  refine (retransmission_transparent_iff sampleContext _ _ sampleRequest 0
    ⟨⟨1, 1, 3, none⟩, 8⟩ 4 rfl rfl rfl rfl sampleMlsSession ?_ _ _).2 ?_
  · intro interceptor hinterceptor
    rcases List.mem_cons.1 hinterceptor with rfl | hinterceptor
    · exact .inl ⟨none, rfl⟩
    · exact .inr ⟨_, List.mem_singleton.1 hinterceptor⟩
  · exact .inl ⟨⟨[1, 2, 3], rfl⟩, rfl⟩

/-- Two sessions that encrypt, with a cipher that decryption inverts: the message itself is
    decrypted, but the reply has lost the mark, and the application gets the ciphertext. -/
theorem ProducerState.encrypted_retransmission_differs :
    (∀ plain, (sampleMls.encryptMessage [7] plain >>= sampleMls.decryptMessage [7]) = .ok plain) ∧
      ∃ encrypted sent producer,
        sampleMlsSession.onMessageFromAppInterceptors sampleMessage = .ok encrypted ∧
        accept encrypted = .ok (⟨[sent], []⟩, producer) ∧ producer.buffer.get 0 = some sent ∧
        (sampleMlsSession.receives (sent.carried ⟨none, none, some 3⟩)).map Received.content =
          some (some ⟨"", [1, 2, 3]⟩) ∧
        (producer.retransmits sampleContext sampleRequest ⟨none, none, some 3⟩
          sampleMlsSession).map Received.content = some (some ⟨"", [3, 2, 1]⟩) ∧
        ¬ producer.Transparent sampleContext sent sampleRequest ⟨none, none, some 3⟩
          ⟨none, none, some 3⟩ sampleMlsSession := by
  constructor
  · intro plain
    exact congrArg Except.ok (List.reverse_reverse plain)
  · refine ⟨_, _, _, rfl, rfl, rfl, rfl, rfl, ?_⟩
    intro hsame
    have hcontent := congrArg (Option.map Received.content) hsame
    revert hcontent
    decide

end Slim
