import Slim.Session

/-!
# Encryption of payloads: `mls/src/interceptor.rs`

The interceptor encrypts the payload of a message of the application and marks the
message by metadata; a message from the network is decrypted if it carries the mark.
`Mls`, which holds the groups of a third-party library, is a parameter, and so is the
base64 text of the group id.
-/

namespace Slim

open Machine

def METADATA_MLS_ENCRYPTED : String := "MLS_ENCRYPTED"

def METADATA_MLS_GROUP_ID : String := "MLS_GROUP_ID"

/-- The group id, and then the message, are the arguments.  An error is its text. -/
structure Mls where
  isGroupMember : List UInt8 → Bool
  encryptMessage : List UInt8 → List UInt8 → Except String (List UInt8)
  decryptMessage : List UInt8 → List UInt8 → Except String (List UInt8)

structure MlsInterceptor where
  mls : Mls
  groupId : List UInt8
  groupIdB64 : String

/-- The message is marked as encrypted. -/
def ProtoMessage.isEncrypted (msg : ProtoMessage) : Bool :=
  decide (msg.metadata.get? METADATA_MLS_ENCRYPTED = some "true")

namespace MlsInterceptor

/-- A message without payload gets the group id only. -/
def onMsgFromApp (interceptor : MlsInterceptor) (msg : ProtoMessage) :
    Except SessionError ProtoMessage :=
  match msg.messageType with
  | some (.publish _) =>
      let msg := msg.insertMetadata METADATA_MLS_GROUP_ID interceptor.groupIdB64
      match msg.content with
      | none => .ok msg
      | some payload =>
          if interceptor.mls.isGroupMember interceptor.groupId then
            match interceptor.mls.encryptMessage interceptor.groupId payload.blob with
            | .error e => .error (.interceptorError ("MLS encryption failed: " ++ e))
            | .ok encrypted =>
                .ok ((msg.withBlob encrypted).insertMetadata METADATA_MLS_ENCRYPTED "true")
          else .error (.interceptorError "Not a group member")
  | _ => .ok msg

/-- The group that the message names is the one of the interceptor. -/
def checkGroup (interceptor : MlsInterceptor) (msg : ProtoMessage) : Except SessionError Unit :=
  match msg.metadata.get? METADATA_MLS_GROUP_ID with
  | some msgGroupId =>
      if msgGroupId = interceptor.groupIdB64 then .ok ()
      else .error (.interceptorError ("Group ID mismatch: expected '" ++ interceptor.groupIdB64 ++
        "', got '" ++ msgGroupId ++ "'"))
  | none => .error (.interceptorError "Message missing MLS_GROUP_ID metadata")

def decrypt (interceptor : MlsInterceptor) (msg : ProtoMessage) :
    Except SessionError ProtoMessage :=
  match msg.content with
  | none => .error (.interceptorError "Encrypted message has no payload")
  | some payload =>
      if interceptor.mls.isGroupMember interceptor.groupId then
        match interceptor.mls.decryptMessage interceptor.groupId payload.blob with
        | .error e => .error (.interceptorError ("MLS decryption failed: " ++ e))
        | .ok decrypted => .ok ((msg.withBlob decrypted).removeMetadata METADATA_MLS_ENCRYPTED)
      else .error (.interceptorError "Not a group member")

def onMsgFromSlim (interceptor : MlsInterceptor) (msg : ProtoMessage) :
    Except SessionError ProtoMessage :=
  match msg.messageType with
  | some (.publish _) =>
      if msg.isEncrypted then do
        interceptor.checkGroup msg
        interceptor.decrypt msg
      else .ok msg
  | _ => .ok msg

def toSessionInterceptor (interceptor : MlsInterceptor) : SessionInterceptor :=
  ⟨interceptor.onMsgFromApp, interceptor.onMsgFromSlim⟩

section FromSlim

variable {interceptor : MlsInterceptor} {msg : ProtoMessage}

theorem onMsgFromSlim_of_not_encrypted (hmark : msg.isEncrypted = false) :
    interceptor.onMsgFromSlim msg = .ok msg := by
  unfold onMsgFromSlim
  rw [hmark]
  rcases msg.messageType with _ | ⟨publish⟩ | ⟨subscribe⟩ | ⟨unsubscribe⟩
  all_goals rfl

theorem onMsgFromSlim_of_encrypted {publish : ProtoPublish}
    (hpublish : msg.messageType = some (.publish publish)) (hmark : msg.isEncrypted = true) :
    interceptor.onMsgFromSlim msg = (interceptor.checkGroup msg >>= fun _ =>
      interceptor.decrypt msg) := by
  simp only [onMsgFromSlim, hpublish, hmark, if_true]

theorem checkGroup_eq_ok (hcheck : interceptor.checkGroup msg = .ok ()) :
    msg.metadata.get? METADATA_MLS_GROUP_ID = some interceptor.groupIdB64 := by
  unfold checkGroup at hcheck
  split at hcheck
  next msgGroupId hgroup =>
    split at hcheck
    next hsame => rw [hgroup, hsame]
    next => cases hcheck
  next => cases hcheck

theorem decrypt_eq_ok {opened : ProtoMessage} (hopened : interceptor.decrypt msg = .ok opened) :
    ∃ payload decrypted, msg.content = some payload ∧
      interceptor.mls.decryptMessage interceptor.groupId payload.blob = .ok decrypted ∧
      opened = (msg.withBlob decrypted).removeMetadata METADATA_MLS_ENCRYPTED := by
  unfold decrypt at hopened
  split at hopened
  next => cases hopened
  next payload hpayload =>
    split at hopened
    next =>
      split at hopened
      next => cases hopened
      next decrypted hdecrypted =>
        cases hopened
        exact ⟨payload, decrypted, hpayload, hdecrypted, rfl⟩
    next => cases hopened

/-- A message that is taken is passed on as it is, or has been decrypted. -/
theorem onMsgFromSlim_eq_ok {opened : ProtoMessage}
    (hopened : interceptor.onMsgFromSlim msg = .ok opened) :
    opened = msg ∨ msg.metadata.get? METADATA_MLS_GROUP_ID = some interceptor.groupIdB64 ∧
      ∃ decrypted, opened = (msg.withBlob decrypted).removeMetadata METADATA_MLS_ENCRYPTED := by
  rcases hmark : msg.isEncrypted with _ | _
  · rw [onMsgFromSlim_of_not_encrypted hmark] at hopened
    exact .inl (Except.ok.inj hopened).symm
  · rcases htype : msg.messageType with _ | ⟨publish⟩ | ⟨subscribe⟩ | ⟨unsubscribe⟩
    all_goals simp only [onMsgFromSlim, htype] at hopened
    case some.publish =>
      rw [hmark, if_pos rfl] at hopened
      obtain ⟨_, hcheck, hdecrypt⟩ := bind_eq_ok hopened
      obtain ⟨payload, decrypted, -, -, heq⟩ := decrypt_eq_ok hdecrypt
      exact .inr ⟨checkGroup_eq_ok hcheck, decrypted, heq⟩
    all_goals exact .inl (Except.ok.inj hopened).symm

/-- A marked message without payload is refused, whatever group it names. -/
theorem onMsgFromSlim_ne_ok {publish : ProtoPublish}
    (hpublish : msg.messageType = some (.publish publish)) (hmark : msg.isEncrypted = true)
    (hcontent : msg.content = none) (opened : ProtoMessage) :
    interceptor.onMsgFromSlim msg ≠ .ok opened := by
  rw [onMsgFromSlim_of_encrypted hpublish hmark]
  intro hopened
  obtain ⟨_, -, hdecrypt⟩ := bind_eq_ok hopened
  obtain ⟨payload, decrypted, hpayload, -⟩ := decrypt_eq_ok hdecrypt
  rw [hcontent] at hpayload
  cases hpayload

end FromSlim

/-! ## Two members of a group -/

theorem onMsgFromApp_eq_ok {interceptor : MlsInterceptor} {msg sent : ProtoMessage}
    {payload : Content} (hpayload : msg.content = some payload)
    (hsent : interceptor.onMsgFromApp msg = .ok sent) :
    ∃ encrypted, interceptor.mls.encryptMessage interceptor.groupId payload.blob = .ok encrypted ∧
      sent = ((msg.insertMetadata METADATA_MLS_GROUP_ID interceptor.groupIdB64).withBlob
        encrypted).insertMetadata METADATA_MLS_ENCRYPTED "true" := by
  obtain ⟨publish, hpublish⟩ := ProtoMessage.exists_publish_of_content hpayload
  have hsame : (msg.insertMetadata METADATA_MLS_GROUP_ID interceptor.groupIdB64).content =
      some payload := hpayload
  simp only [onMsgFromApp, hpublish, hsame] at hsent
  split at hsent
  next =>
    split at hsent
    next => cases hsent
    next encrypted hencrypted =>
      cases hsent
      exact ⟨encrypted, hencrypted, rfl⟩
  next => cases hsent

theorem isEncrypted_onMsgFromApp {interceptor : MlsInterceptor} {msg sent : ProtoMessage}
    {payload : Content} (hpayload : msg.content = some payload)
    (hsent : interceptor.onMsgFromApp msg = .ok sent) : sent.isEncrypted = true := by
  obtain ⟨encrypted, -, rfl⟩ := onMsgFromApp_eq_ok hpayload hsent
  simp [ProtoMessage.isEncrypted, ProtoMessage.insertMetadata]

/-- What one member has encrypted another one gets back, if decryption inverts encryption.
    On the way only the headers may change. -/
theorem onMsgFromSlim_of_sent {sender receiver : MlsInterceptor}
    (hgroup : receiver.groupIdB64 = sender.groupIdB64)
    (hmember : receiver.mls.isGroupMember receiver.groupId = true)
    (hinverts : ∀ plain encrypted, sender.mls.encryptMessage sender.groupId plain = .ok encrypted →
      receiver.mls.decryptMessage receiver.groupId encrypted = .ok plain)
    {msg sent found : ProtoMessage} {payload : Content} (hpayload : msg.content = some payload)
    (hsent : sender.onMsgFromApp msg = .ok sent) (hcontent : found.content = sent.content)
    (hmetadata : found.metadata = sent.metadata) :
    ∃ opened, receiver.onMsgFromSlim found = .ok opened ∧ opened.content = some payload := by
  obtain ⟨encrypted, hencrypted, rfl⟩ := onMsgFromApp_eq_ok hpayload hsent
  have hencryptedContent : found.content = some { payload with blob := encrypted } := by
    simp [hcontent, hpayload]
  have hmark : found.isEncrypted = true := by
    rw [ProtoMessage.isEncrypted, hmetadata]
    exact isEncrypted_onMsgFromApp hpayload hsent
  have hcheck : receiver.checkGroup found = .ok () := by
    have hnamed : found.metadata.get? METADATA_MLS_GROUP_ID = some receiver.groupIdB64 := by
      rw [hmetadata, ProtoMessage.insertMetadata, HashMap.get?_insert_of_ne _ _ (by decide),
        ProtoMessage.metadata_withBlob, ProtoMessage.insertMetadata, HashMap.get?_insert_self,
        hgroup]
    simp only [checkGroup, hnamed, if_true]
  obtain ⟨publish, hpublish⟩ := ProtoMessage.exists_publish_of_content hencryptedContent
  refine ⟨(found.withBlob payload.blob).removeMetadata METADATA_MLS_ENCRYPTED, ?_, ?_⟩
  · rw [onMsgFromSlim_of_encrypted hpublish hmark, hcheck, bind_ok]
    simp only [decrypt, hencryptedContent, hmember, if_true, hinverts _ _ hencrypted]
  · simp [hencryptedContent]

end MlsInterceptor

end Slim
