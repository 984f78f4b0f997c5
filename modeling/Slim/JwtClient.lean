import Slim.JwtBuilder
import Slim.JwtMiddleware
import Slim.Yaml

/-!
# Tokens of a client configuration

The signing side of `slim_auth` and `get_client_layer`, with the requests that go through the
layer.  The configured duration becomes the lifetime that the middleware reckons with.  It does
not reach the builder: `token_duration` is not called, so that every token is signed for the
builder's default of an hour.

How a token is written is a parameter, `TokenWriter`: from a token that was signed its members
can be read back.
-/

namespace Slim.Auth

open Machine Jsonwebtoken

/-! ## Signing -/

structure EncodingKey where
  family : AlgorithmFamily
  material : String
deriving DecidableEq, Repr

def EncodingKey.fromSecret (secret : String) : EncodingKey := ⟨.Hmac, secret⟩

/-- How keys and headers are parsed and tokens are written, and the members that a token
    carries. -/
structure TokenWriter where
  headers : HeaderParser
  fromPem : AlgorithmFamily → String → Option EncodingKey
  encode : Header → List (String × ClaimValue) → EncodingKey → Except String String
  members : String → Option (List (String × ClaimValue))
  members_encode : ∀ header claims key token,
    encode header claims key = .ok token → members token = some claims

/-- The claims that are signed, with the custom ones that are flattened into them. -/
structure SignedClaims extends StandardClaims where
  customClaims : List (String × ClaimValue)

/-- A member that is left out if there is nothing. -/
def optionalMember (name : String) (value : Option ClaimValue) : List (String × ClaimValue) :=
  match value with
  | none => []
  | some value => [(name, value)]

/-- The members in the order in which they are serialised. -/
def SignedClaims.members (claims : SignedClaims) : List (String × ClaimValue) :=
  optionalMember "iss" (claims.iss.map .text) ++ optionalMember "sub" (claims.sub.map .text) ++
    optionalMember "aud" (claims.aud.map .text) ++ [("exp", .number claims.exp)] ++
    optionalMember "iat" (claims.iat.map .number) ++ optionalMember "jti" (claims.jti.map .text) ++
    optionalMember "nbf" (claims.nbf.map .number) ++ claims.customClaims

structure SignerJwt where
  claims : SignedClaims
  tokenDuration : Duration
  validation : Validation
  encodingKey : Option EncodingKey

/-- The seconds that are signed: a clock before the epoch counts as the epoch. -/
def SystemTime.secs (time : SystemTime) : Nat := time.seconds?.getD 0

namespace SignerJwt

def createClaims (build : Build) (signer : SignerJwt) (time : SystemTime) :
    Except Panic SignedClaims := do
  let now := time.secs
  let expiration ← build.add now signer.tokenDuration.asSecs
  .ok { signer.claims with exp := expiration, iat := some now, nbf := some now }

def signClaims (writer : TokenWriter) (signer : SignerJwt) (claims : SignedClaims) :
    Except AuthError String :=
  match signer.encodingKey with
  | none => .error (.configError "Private key not configured for signing")
  | some encodingKey =>
      match writer.encode ⟨signer.validation.algorithm, none⟩ claims.members encodingKey with
      | .error error => .error (.signingError error)
      | .ok token => .ok token

/-- `sign_internal_claims`, which `try_get_token` is for a signer. -/
def tryGetToken (build : Build) (writer : TokenWriter) (signer : SignerJwt) (time : SystemTime) :
    Except Panic (Except AuthError String) := do
  let claims ← signer.createClaims build time
  .ok (signer.signClaims writer claims)

end SignerJwt

/-! ## Building a signer -/

/-- `JwtBuilder<WithPrivateKey>`. -/
structure JwtBuilder.WithPrivateKey extends JwtBuilder where
  privateKey : Option Key
  tokenDuration : Duration
  customClaims : List (String × ClaimValue)

/-- A signer, and the key whose file is watched for it. -/
structure BuiltSigner where
  signer : SignerJwt
  watched : Option Key

namespace JwtBuilder

/-- An hour. -/
def DEFAULT_TOKEN_DURATION : Duration := 3600 * 1000000000

/-- No method of the initial builder sets the duration or the custom claims. -/
def privateKey (builder : JwtBuilder) (key : Key) : WithPrivateKey :=
  { builder with
    algorithm := key.algorithm
    privateKey := some key
    tokenDuration := DEFAULT_TOKEN_DURATION
    customClaims := [] }

namespace WithPrivateKey

def withCustomClaims (builder : WithPrivateKey) (claims : List (String × ClaimValue)) :
    WithPrivateKey :=
  { builder with customClaims := claims }

/-- How each family of algorithms reads a private key. -/
def buildInternal (writer : TokenWriter) (files : Files) (key : Key) :
    Except BuildFailure EncodingKey := do
  let text ← resolveKey files key
  let parsed (family : AlgorithmFamily) (error : String) :=
    match writer.fromPem family text with
    | some encodingKey => .ok encodingKey
    | none => .error (BuildFailure.failed (.configError error))
  match key.algorithm with
  | .HS256 | .HS384 | .HS512 => .ok (.fromSecret text)
  | .RS256 | .RS384 | .RS512 | .PS256 | .PS384 | .PS512 => parsed .Rsa "Invalid RSA private key: "
  | .ES256 | .ES384 => parsed .Ec "Invalid EC private key: "
  | .EdDSA => parsed .Ed "Invalid EdDSA private key: "

/-- The times are set when a token is signed. -/
def buildClaims (builder : WithPrivateKey) : SignedClaims where
  iss := builder.issuer
  sub := builder.subject
  aud := builder.audience
  exp := 0
  iat := none
  jti := none
  nbf := none
  customClaims := builder.customClaims

def build (builder : WithPrivateKey) (writer : TokenWriter) (files : Files) :
    Except BuildFailure BuiltSigner :=
  match builder.privateKey with
  | none => .error .panicked
  | some key => do
      let encodingKey ← buildInternal writer files key
      let watched := match key.key with
        | .pem _ => none
        | .file _ => some key
      .ok ⟨⟨builder.buildClaims, builder.tokenDuration, builder.buildValidation,
        some encodingKey⟩, watched⟩

end WithPrivateKey

end JwtBuilder

/-! ## The client's configuration -/

structure ClientConfig extends Config where
  duration : Duration
  customClaims : Option (HashMap String Yaml.Value)

/-- What a client depends on: the writer of tokens, the files, the order of a hash map, and the
    conversion of YAML into JSON, whose failure is unwrapped. -/
structure ClientEnvironment where
  writer : TokenWriter
  files : Files
  order : IterOrder (String × Yaml.Value)
  toJson : Yaml.Value → Option ClaimValue

namespace ClientConfig

def convertClaims (config : ClientConfig) (env : ClientEnvironment) :
    Except BuildFailure (List (String × ClaimValue)) :=
  match config.customClaims with
  | none => .ok []
  | some claims =>
      match (claims.iter env.order).mapM fun (name, value) => (env.toJson value).map (name, ·) with
      | some converted => .ok converted
      | none => .error .panicked

def getClientLayer (config : ClientConfig) (env : ClientEnvironment) :
    Except BuildFailure (AddJwtLayer BuiltSigner) :=
  match config.key with
  | .encoding key => do
      let customClaims ← config.convertClaims env
      let signer ← (((config.builder.privateKey key).withCustomClaims customClaims).build
        env.writer env.files).mapError BuildFailure.reported
      .ok ⟨signer, config.duration.asSecs⟩
  | _ => .error (.failed (.configError "Encoding key is required for client authentication"))

/-- The signer of the layer: its tokens are for an hour, whatever the configuration says. -/
theorem getClientLayer_eq_ok {config : ClientConfig} {env : ClientEnvironment}
    {layer : AddJwtLayer BuiltSigner} (hlayer : config.getClientLayer env = .ok layer) :
    layer.duration = config.duration.asSecs ∧
      layer.provider.signer.tokenDuration = JwtBuilder.DEFAULT_TOKEN_DURATION ∧
      config.convertClaims env = .ok layer.provider.signer.claims.customClaims := by
  unfold getClientLayer at hlayer
  split at hlayer
  · obtain ⟨customClaims, hconvert, hlayer⟩ := bind_eq_ok hlayer
    obtain ⟨signer, hbuild, hlayer⟩ := mapError_bind_eq_ok hlayer
    cases hlayer
    obtain ⟨encodingKey, -, hbuilt⟩ := bind_eq_ok hbuild
    cases hbuilt
    exact ⟨rfl, rfl, hconvert⟩
  · cases hlayer

end ClientConfig

/-! ## Requests -/

/-- The middleware with its signer.  `signedAt` is when the cached token was signed. -/
structure Client where
  middleware : AddJwtToken
  signer : SignerJwt
  watched : Option Key
  signedAt : Option SystemTime

inductive ClientEvent where
  | request (time signing : SystemTime)
  | keyFile (files : Files)

namespace Client

def ofLayer (layer : AddJwtLayer BuiltSigner) : Client :=
  ⟨layer.layer, layer.provider.signer, layer.provider.watched, none⟩

variable (build : Build) (writer : TokenWriter)

/-- The clock is read again for the claims, if the token is signed. -/
def tokenCall (client : Client) (time signing : SystemTime) : TokenCall :=
  ⟨time, client.signer.tryGetToken build writer signing, writer.headers⟩

/-- A request without a header of its own. -/
def request (client : Client) (time signing : SystemTime) : Except Panic Request × Client :=
  let tokenCall := client.tokenCall build writer time signing
  let called := client.middleware.call build ⟨none⟩ tokenCall
  (called.1,
    { client with
      middleware := called.2
      signedAt :=
        if client.middleware.renews build tokenCall then some signing else client.signedAt })

/-- The watcher's thread panics if the new key cannot be used. -/
def keyFile (client : Client) (files : Files) : Client :=
  match client.watched with
  | none => client
  | some key =>
      match JwtBuilder.WithPrivateKey.buildInternal writer files key with
      | .error _ => client
      | .ok encodingKey =>
          { client with signer := { client.signer with encodingKey := some encodingKey } }

def step (client : Client) : ClientEvent → Client
  | .request time signing => (client.request build writer time signing).2
  | .keyFile files => client.keyFile writer files

variable {build writer}

/-! ### What the cached token says -/

/-- The header carries a token with the claims that the signer makes at the time. -/
def SignedBy (build : Build) (writer : TokenWriter) (signer : SignerJwt) (time : SystemTime)
    (header : HeaderValue) : Prop :=
  ∃ token claims, header.text = "Bearer " ++ token ∧ signer.createClaims build time = .ok claims ∧
    writer.members token = some claims.members

/-- The claims of the signer stay, and the cached token was signed by it. -/
structure Consistent (build : Build) (writer : TokenWriter) (signer : SignerJwt) (client : Client) :
    Prop where
  claims_eq : client.signer.claims = signer.claims
  tokenDuration_eq : client.signer.tokenDuration = signer.tokenDuration
  cached : ∀ header, client.middleware.cachedToken = some header →
    ∃ time, client.signedAt = some time ∧ SignedBy build writer signer time header

theorem createClaims_congr {signer other : SignerJwt} (hclaims : signer.claims = other.claims)
    (hduration : signer.tokenDuration = other.tokenDuration) (time : SystemTime) :
    signer.createClaims build time = other.createClaims build time := by
  simp only [SignerJwt.createClaims, hclaims, hduration]

theorem signedBy_of_header {client : Client} {time signing : SystemTime} {header : HeaderValue}
    (hheader : (client.tokenCall build writer time signing).header? = some header) :
    SignedBy build writer client.signer signing header := by
  obtain ⟨token, hanswer, htry⟩ := TokenCall.answer_of_header hheader
  obtain ⟨claims, hclaims, hsigned⟩ := bind_eq_ok hanswer
  have hsigned : client.signer.signClaims writer claims = .ok token := Except.ok.inj hsigned
  refine ⟨token, claims, writer.headers.text_of_tryFrom htry, hclaims, ?_⟩
  unfold SignerJwt.signClaims at hsigned
  split at hsigned
  · cases hsigned
  · split at hsigned
    · cases hsigned
    · rename_i hencode
      cases hsigned
      exact writer.members_encode _ _ _ _ hencode

theorem consistent_ofLayer (layer : AddJwtLayer BuiltSigner) :
    (ofLayer layer).Consistent build writer layer.provider.signer :=
  ⟨rfl, rfl, fun header hcached => by cases hcached⟩

theorem Consistent.request {signer : SignerJwt} {client : Client}
    (hconsistent : client.Consistent build writer signer) (time signing : SystemTime) :
    (client.request build writer time signing).2.Consistent build writer signer := by
  refine ⟨hconsistent.claims_eq, hconsistent.tokenDuration_eq, fun header hcached => ?_⟩
  simp only [Client.request, AddJwtToken.call_left] at hcached ⊢
  rcases client.middleware.getToken_cases build (client.tokenCall build writer time signing) with
    ⟨hkeeps, hleft, -⟩ | ⟨hrenews, headerValue, hheader, hleft, -⟩
  · rw [hleft] at hcached
    simpa [hkeeps] using hconsistent.cached header hcached
  · rw [hleft] at hcached
    cases hcached
    obtain ⟨token, claims, htext, hclaims, hmembers⟩ := signedBy_of_header hheader
    refine ⟨signing, by simp [hrenews], token, claims, htext, ?_, hmembers⟩
    rw [← hclaims]
    exact (createClaims_congr hconsistent.claims_eq hconsistent.tokenDuration_eq signing).symm

theorem Consistent.keyFile {signer : SignerJwt} {client : Client}
    (hconsistent : client.Consistent build writer signer) (files : Files) :
    (client.keyFile writer files).Consistent build writer signer := by
  unfold Client.keyFile
  split
  · exact hconsistent
  · split
    · exact hconsistent
    · exact ⟨hconsistent.claims_eq, hconsistent.tokenDuration_eq, hconsistent.cached⟩

theorem consistent_run (layer : AddJwtLayer BuiltSigner) (events : List ClientEvent) :
    (Runs.run (step build writer) (ofLayer layer) events).Consistent build writer
      layer.provider.signer := by
  refine Runs.run_invariant (P := fun _ _ => True) (fun client event hconsistent _ => ?_) events _
    (Runs.along_of_forall events _ fun _ _ => trivial) (consistent_ofLayer layer)
  cases event with
  | request time signing => exact hconsistent.request time signing
  | keyFile files => exact hconsistent.keyFile files

/-- The token of a request was signed by the layer's signer, at the time that is kept with it. -/
theorem signedBy_of_request {layer : AddJwtLayer BuiltSigner} {events : List ClientEvent}
    {client after : Client} {time signing : SystemTime} {header : HeaderValue}
    (hrun : client = Runs.run (step build writer) (ofLayer layer) events)
    (hrequest : client.request build writer time signing = (.ok ⟨some header⟩, after)) :
    ∃ signed, after.signedAt = some signed ∧
      SignedBy build writer layer.provider.signer signed header := by
  have hconsistent : client.Consistent build writer layer.provider.signer := by
    rw [hrun]
    exact consistent_run layer events
  have hafter := hconsistent.request time signing
  have htoken := AddJwtToken.getToken_of_call (congrArg Prod.fst hrequest)
  rw [hrequest] at hafter
  apply hafter.cached header
  have hcached := AddJwtToken.cachedToken_of_getToken htoken
  rw [← AddJwtToken.call_left _ _ ⟨none⟩] at hcached
  exact (congrArg (·.2.middleware.cachedToken) hrequest).symm.trans hcached

end Client

/-! ## The lifetime of a token -/

theorem SystemTime.secs_eq (time : SystemTime) : time.secs = time.nanos.toNat / 1000000000 := by
  unfold secs seconds? sinceEpoch Duration.asSecs
  by_cases hepoch : 0 ≤ time.nanos
  · rw [if_pos hepoch, Option.map_some, Option.getD_some]
  · rw [if_neg hepoch, Option.map_none, Option.getD_none]
    omega

theorem SystemTime.secs_lt (time : SystemTime) : time.secs < 9223372036854775808 := by
  have hrange := time.inRange
  have hsecs := time.secs_eq
  omega

theorem SystemTime.nanos_lt (time : SystemTime) : time.nanos < (time.secs + 1) * 1000000000 := by
  have hsecs := time.secs_eq
  omega

/-- A signer with the builder's default signs for an hour. -/
theorem SignerJwt.createClaims_of_default {signer : SignerJwt} (build : Build)
    (hdefault : signer.tokenDuration = JwtBuilder.DEFAULT_TOKEN_DURATION) (time : SystemTime) :
    signer.createClaims build time =
      .ok { signer.claims with
        exp := time.secs + 3600, iat := some time.secs, nbf := some time.secs } := by
  have hsecs : signer.tokenDuration.asSecs = 3600 := by
    rw [hdefault]
    rfl
  have hfits : time.secs + 3600 ≤ USIZE_MAX := by
    have hlt := time.secs_lt
    unfold USIZE_MAX
    omega
  simp only [createClaims, hsecs, build.add_ok hfits, bind_ok]

theorem mem_optionalMember {name other : String} {value : Option ClaimValue} {claim : ClaimValue} :
    (other, claim) ∈ optionalMember name value ↔ other = name ∧ value = some claim := by
  cases value <;> simp [optionalMember, eq_comm]

theorem SignedClaims.exp_mem_members {claims : SignedClaims} {value : ClaimValue} :
    ("exp", value) ∈ claims.members ↔
      value = .number claims.exp ∨ ("exp", value) ∈ claims.customClaims := by
  simp [members, mem_optionalMember]

/-- The header carries a token whose `exp` is the configured duration after the time it was
    signed, in whole seconds, and later than the request. -/
def Governs (config : ClientConfig) (writer : TokenWriter) (header : HeaderValue)
    (time signed : SystemTime) : Prop :=
  ∃ token members, header.text = "Bearer " ++ token ∧ writer.members token = some members ∧
    ∀ value, ("exp", value) ∈ members → ∃ exp, value = .number exp ∧
      exp = signed.secs + config.duration.asSecs ∧ time.nanos < exp * 1000000000

/-- A custom claim may give the token an `exp` of its own. -/
def CustomExpAgrees (config : ClientConfig) (env : ClientEnvironment) (signed : SystemTime) :
    Prop :=
  ∀ custom, config.convertClaims env = .ok custom →
    ∀ value, ("exp", value) ∈ custom → value = .number (signed.secs + 3600)

/-- The configured duration governs the tokens of the requests exactly if it is the hour for
    which they are signed. -/
theorem duration_governs_iff {config : ClientConfig} {env : ClientEnvironment}
    {layer : AddJwtLayer BuiltSigner} (build : Build)
    (hlayer : config.getClientLayer env = .ok layer) (events : List ClientEvent)
    {time signing signed : SystemTime} {header : HeaderValue} {after : Client}
    (hrequest : (Runs.run (Client.step build env.writer) (Client.ofLayer layer) events).request
      build env.writer time signing = (.ok ⟨some header⟩, after))
    (hsigned : after.signedAt = some signed)
    (hsoon : 3 * (time.nanos - signed.nanos) < config.duration) :
    Governs config env.writer header time signed ↔
      config.duration.asSecs = 3600 ∧ CustomExpAgrees config env signed := by
  obtain ⟨-, hdefault, hcustom⟩ := ClientConfig.getClientLayer_eq_ok hlayer
  obtain ⟨_, hsame, token, claims, htext, hclaims, hmembers⟩ :=
    Client.signedBy_of_request rfl hrequest
  cases hsigned.symm.trans hsame
  rw [SignerJwt.createClaims_of_default build hdefault] at hclaims
  cases hclaims
  constructor
  · rintro ⟨other, members, hother, hread, hexp⟩
    cases (String.append_right_inj "Bearer ").1 (htext.symm.trans hother)
    cases hmembers.symm.trans hread
    have hhour : config.duration.asSecs = 3600 := by
      obtain ⟨exp, hvalue, hdue, -⟩ := hexp _ (SignedClaims.exp_mem_members.2 (.inl rfl))
      cases hvalue
      exact (Nat.add_left_cancel hdue).symm
    refine ⟨hhour, fun custom hconvert value hvalue => ?_⟩
    cases hcustom.symm.trans hconvert
    obtain ⟨exp, rfl, rfl, -⟩ := hexp value (SignedClaims.exp_mem_members.2 (.inr hvalue))
    rw [hhour]
  · rintro ⟨hhour, hagrees⟩
    refine ⟨token, _, htext, hmembers, fun value hvalue => ?_⟩
    have hnumber : value = .number (signed.secs + 3600) := by
      rcases SignedClaims.exp_mem_members.1 hvalue with hstandard | hown
      · exact hstandard
      · exact hagrees _ hcustom value hown
    refine ⟨signed.secs + 3600, hnumber, by rw [hhour], ?_⟩
    have hlt := signed.nanos_lt
    unfold Duration.asSecs at hhour
    omega

/-! A client with a configured duration, whose key signs one set of claims: those of the epoch. -/

def sampleMembers : List (String × ClaimValue) :=
  [("exp", .number 3600), ("iat", .number 0), ("nbf", .number 0)]

def sampleWriter : TokenWriter where
  headers := AddJwtToken.sampleParser
  fromPem _ _ := none
  encode _ claims _ := if claims = sampleMembers then .ok "t" else .error "not signed"
  members token := if token = "t" then some sampleMembers else none
  members_encode := by
    intro header claims key token hencode
    by_cases hclaims : claims = sampleMembers
    · rw [if_pos hclaims] at hencode
      cases hencode
      rw [hclaims]
      rfl
    · rw [if_neg hclaims] at hencode
      cases hencode

def sampleEnvironment : ClientEnvironment :=
  ⟨sampleWriter, fun _ => none, IterOrder.stored, fun _ => none⟩

def sampleConfig (seconds : Nat) : ClientConfig where
  claims := ⟨none, none, none⟩
  key := .encoding ⟨.HS256, .pem "secret"⟩
  duration := seconds * 1000000000
  customClaims := none

def sampleBuilt : BuiltSigner where
  signer := ⟨⟨⟨none, none, none, 0, none, none, none⟩, []⟩, JwtBuilder.DEFAULT_TOKEN_DURATION,
    .new .HS256, some (.fromSecret "secret")⟩
  watched := none

/-- The client after a request at the epoch. -/
def sampleClient (seconds : Nat) : Client :=
  Runs.run (Client.step .release sampleWriter) (Client.ofLayer ⟨sampleBuilt, seconds⟩)
    [.request (AddJwtToken.sampleTime 0) (AddJwtToken.sampleTime 0)]

theorem getClientLayer_sampleConfig (seconds : Nat) :
    (sampleConfig seconds).getClientLayer sampleEnvironment =
      .ok ⟨sampleBuilt, (sampleConfig seconds).duration.asSecs⟩ := rfl

/-- The header of the token that is signed at the epoch. -/
def sampleHeader : HeaderValue := ⟨"Bearer t"⟩

/-- With a duration of four hours a request 4000 seconds later gets the token that has expired 400
    seconds before. -/
theorem four_hours_not_governed :
    let time := AddJwtToken.sampleTime 4000
    let requested := (sampleClient 14400).request .release sampleWriter time time
    (sampleConfig 14400).getClientLayer sampleEnvironment = .ok ⟨sampleBuilt, 14400⟩ ∧
      requested.1 = .ok ⟨some sampleHeader⟩ ∧
      requested.2.signedAt = some (AddJwtToken.sampleTime 0) ∧
      sampleWriter.members "t" = some sampleMembers ∧
      ¬ Governs (sampleConfig 14400) sampleWriter sampleHeader time (AddJwtToken.sampleTime 0) := by
  refine ⟨rfl, rfl, rfl, rfl, ?_⟩
  rintro ⟨token, members, htext, hmembers, hexp⟩
  have htext : "Bearer " ++ "t" = "Bearer " ++ token := htext
  cases (String.append_right_inj "Bearer ").1 htext
  cases hmembers
  obtain ⟨exp, hvalue, hdue, -⟩ := hexp (.number 3600) List.mem_cons_self
  cases hvalue
  exact absurd hdue (by decide)

/-- With a duration of an hour the token of a request 1000 seconds later is governed by it. -/
theorem duration_governs_sample :
    let time := AddJwtToken.sampleTime 1000
    let requested := (sampleClient 3600).request .release sampleWriter time time
    requested.1 = .ok ⟨some sampleHeader⟩ ∧
      Governs (sampleConfig 3600) sampleWriter sampleHeader time (AddJwtToken.sampleTime 0) := by
  have hrequest : (sampleClient 3600).request .release sampleWriter (AddJwtToken.sampleTime 1000)
      (AddJwtToken.sampleTime 1000) = (.ok ⟨some sampleHeader⟩, sampleClient 3600) := rfl
  refine ⟨congrArg Prod.fst hrequest, ?_⟩
  apply (duration_governs_iff .release (getClientLayer_sampleConfig 3600)
    [.request (AddJwtToken.sampleTime 0) (AddJwtToken.sampleTime 0)] hrequest rfl (by decide)).2
  refine ⟨rfl, fun custom hconvert value hvalue => ?_⟩
  cases hconvert
  cases hvalue

end Slim.Auth
