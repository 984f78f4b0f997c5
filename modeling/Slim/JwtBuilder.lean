import Slim.JwtVerifier

/-!
# Building a verifier

The builder of `slim_auth`, as far as verifiers go, and the server configuration that uses
it.  The builder's states are types: an initial builder has neither a public key nor the
resolution of keys, and one of the two is chosen on the way to `build`.
-/

namespace Slim.Auth

open Jsonwebtoken

inductive KeyData where
  | pem (text : String)
  | file (path : String)
deriving DecidableEq, Repr

structure Key where
  algorithm : Algorithm
  key : KeyData
deriving DecidableEq, Repr

/-- Why no verifier is built: `panicked` is an `unwrap` of a file that cannot be read or of a
    key that is not there. -/
inductive BuildFailure where
  | panicked
  | failed (error : AuthError)
deriving DecidableEq, Repr

/-- What a server reports of a failed build. -/
def BuildFailure.reported : BuildFailure → BuildFailure
  | panicked => panicked
  | failed error => failed (.configError error.display)

/-- The text of each file that can be read. -/
abbrev Files := String → Option String

def resolveKey (files : Files) (key : Key) : Except BuildFailure String :=
  match key.key with
  | .pem text => .ok text
  | .file path =>
    match files path with
    | some text => .ok text
    | none => .error .panicked

/-- A verifier, and the key whose file is watched for it. -/
structure Built where
  verifier : VerifierJwt
  watched : Option Key

/-- `JwtBuilder<Initial>`. -/
structure JwtBuilder where
  issuer : Option String
  audience : Option String
  subject : Option String
  algorithm : Algorithm
  requiredClaims : List String

/-- `JwtBuilder<WithPublicKey>`. -/
structure JwtBuilder.WithPublicKey extends JwtBuilder where
  publicKey : Option Key
  autoResolveKeys : Bool

namespace JwtBuilder

/-- `Default`, which `new` returns. -/
def new : JwtBuilder := ⟨none, none, none, .HS256, []⟩

def withIssuer (builder : JwtBuilder) (issuer : String) : JwtBuilder :=
  { builder with issuer := some issuer }

def withAudience (builder : JwtBuilder) (audience : String) : JwtBuilder :=
  { builder with audience := some audience }

def withSubject (builder : JwtBuilder) (subject : String) : JwtBuilder :=
  { builder with subject := some subject }

/-- The key's algorithm becomes the builder's. -/
def publicKey (builder : JwtBuilder) (key : Key) : WithPublicKey :=
  { builder with algorithm := key.algorithm, publicKey := some key, autoResolveKeys := false }

def autoResolveKeys (builder : JwtBuilder) (enable : Bool) : WithPublicKey :=
  { builder with publicKey := none, autoResolveKeys := enable }

/-- The subject does not become part of the validation. -/
def buildValidation (builder : JwtBuilder) : Validation :=
  let validation := Validation.new builder.algorithm
  let validation := match builder.audience with
    | some audience => validation.setAudience [audience]
    | none => validation
  let validation := match builder.issuer with
    | some issuer => validation.setIssuer [issuer]
    | none => validation
  if builder.requiredClaims.isEmpty then validation
  else validation.setRequiredSpecClaims builder.requiredClaims

/-- How each family of algorithms reads a public key. -/
def buildInternal (format : TokenFormat) (files : Files) (key : Key) :
    Except BuildFailure DecodingKey := do
  let text ← resolveKey files key
  let parsed (family : AlgorithmFamily) (error : String) :=
    match format.fromPem family text with
    | some decodingKey => .ok decodingKey
    | none => .error (BuildFailure.failed (.configError error))
  match key.algorithm with
  | .HS256 | .HS384 | .HS512 => .ok (.fromSecret text)
  | .RS256 | .RS384 | .RS512 | .PS256 | .PS384 | .PS512 => parsed .Rsa "Invalid RSA public key: "
  | .ES256 | .ES384 => parsed .Ec "Invalid EC public key: "
  | .EdDSA => parsed .Ed "Invalid EdDSA public key: "

def WithPublicKey.build (builder : WithPublicKey) (format : TokenFormat) (files : Files) :
    Except BuildFailure Built :=
  let verifier := VerifierJwt.new builder.buildValidation
  if builder.autoResolveKeys then .ok ⟨verifier.withKeyResolver .new, none⟩
  else
    match builder.publicKey with
    | none => .error .panicked
    | some key => do
      let decodingKey ← buildInternal format files key
      let watched := match key.key with
        | .pem _ => none
        | .file _ => some key
      .ok ⟨verifier.withDecodingKey decodingKey, watched⟩

end JwtBuilder

/-! ## The server's configuration -/

structure Claims where
  audience : Option String
  issuer : Option String
  subject : Option String
deriving DecidableEq, Repr

inductive JwtKey where
  | encoding (key : Key)
  | decoding (key : Key)
  | autoresolve (enable : Bool)
deriving DecidableEq, Repr

structure Config where
  claims : Claims
  key : JwtKey
deriving DecidableEq, Repr

namespace Config

/-- The builder with the claims that are configured. -/
def builder (config : Config) : JwtBuilder :=
  let builder := JwtBuilder.new
  let builder := match config.claims.issuer with
    | some issuer => builder.withIssuer issuer
    | none => builder
  let builder := match config.claims.audience with
    | some audience => builder.withAudience audience
    | none => builder
  match config.claims.subject with
  | some subject => builder.withSubject subject
  | none => builder

def getServerLayer (config : Config) (format : TokenFormat) (files : Files) :
    Except BuildFailure Built :=
  match config.key with
  | .decoding key =>
    ((config.builder.publicKey key).build format files).mapError BuildFailure.reported
  | .autoresolve true =>
    ((config.builder.autoResolveKeys true).build format files).mapError BuildFailure.reported
  | _ => .error (.failed (.configError
      "Decoding key or autoresolve = true is required for server authentication"))

end Config

/-! ## What is built -/

namespace JwtBuilder

/-- All that the builder sets. -/
theorem buildValidation_eq (builder : JwtBuilder) :
    builder.buildValidation =
      { Validation.new builder.algorithm with
        aud := builder.audience.map fun audience => [audience]
        iss := builder.issuer.map fun issuer => [issuer]
        requiredSpecClaims :=
          if builder.requiredClaims.isEmpty then none else some builder.requiredClaims } := by
  unfold buildValidation
  rcases builder.audience with _ | audience <;> rcases builder.issuer with _ | issuer <;>
    dsimp only <;> split <;> rfl

@[simp] theorem signatureDisabled_buildValidation (builder : JwtBuilder) :
    builder.buildValidation.signatureDisabled = false := by
  rw [buildValidation_eq]
  rfl

@[simp] theorem iss_buildValidation (builder : JwtBuilder) :
    builder.buildValidation.iss = builder.issuer.map fun issuer => [issuer] := by
  rw [buildValidation_eq]

@[simp] theorem aud_buildValidation (builder : JwtBuilder) :
    builder.buildValidation.aud = builder.audience.map fun audience => [audience] := by
  rw [buildValidation_eq]

/-- A public key is of the family of the algorithm it is configured with. -/
theorem family_buildInternal {format : TokenFormat} {files : Files} {key : Key}
    {decodingKey : DecodingKey} (hok : buildInternal format files key = .ok decodingKey) :
    decodingKey.family = key.algorithm.family := by
  unfold buildInternal at hok
  obtain ⟨text, _, hok⟩ := Machine.bind_eq_ok hok
  have hparsed : ∀ family, format.fromPem family text = some decodingKey →
      decodingKey.family = family := by
    intro family hpem
    obtain ⟨material, _, rfl⟩ := Option.map_eq_some_iff.mp hpem
    rfl
  rcases key with ⟨algorithm, data⟩
  cases algorithm <;> dsimp only at hok ⊢
  all_goals first
    | (cases hok; rfl)
    | (split at hok
       next hpem => cases hok; exact hparsed _ hpem
       next => cases hok)

/-- What `build` returns: a verifier on a decoding key of the configured family, whose file
    alone is watched, or one that resolves keys. -/
theorem WithPublicKey.build_eq_ok {builder : WithPublicKey} {format : TokenFormat} {files : Files}
    {built : Built} (hok : builder.build format files = .ok built) :
    built.verifier.validation = builder.buildValidation ∧
    built.verifier.tokenCache = HashMap.empty ∧
    ((builder.autoResolveKeys = true ∧ built.verifier.decodingKey = none ∧
        built.verifier.keyResolver = some .new ∧ built.watched = none) ∨
      (builder.autoResolveKeys = false ∧ built.verifier.keyResolver = none ∧
        ∃ key decodingKey, builder.publicKey = some key ∧
          built.verifier.decodingKey = some decodingKey ∧
          decodingKey.family = key.algorithm.family ∧
          ∀ watched, built.watched = some watched → watched = key)) := by
  unfold build at hok
  dsimp only at hok
  split at hok
  next hauto => cases hok; exact ⟨rfl, rfl, .inl ⟨hauto, rfl, rfl, rfl⟩⟩
  next hauto =>
    split at hok
    next => cases hok
    next key hkey =>
      obtain ⟨decodingKey, hbuilt, hok⟩ := Machine.bind_eq_ok hok
      cases hok
      refine ⟨rfl, rfl, .inr ⟨by simpa using hauto, rfl, key, decodingKey, hkey, rfl,
        family_buildInternal hbuilt, ?_⟩⟩
      intro watched hwatched
      rcases key with ⟨algorithm, text | path⟩
      · cases hwatched
      · cases hwatched; rfl

end JwtBuilder

namespace Config

@[simp] theorem issuer_builder (config : Config) :
    config.builder.issuer = config.claims.issuer := by
  unfold builder
  rcases config.claims with ⟨_ | audience, _ | issuer, _ | subject⟩ <;> rfl

@[simp] theorem audience_builder (config : Config) :
    config.builder.audience = config.claims.audience := by
  unfold builder
  rcases config.claims with ⟨_ | audience, _ | issuer, _ | subject⟩ <;> rfl

@[simp] theorem requiredClaims_builder (config : Config) : config.builder.requiredClaims = [] := by
  unfold builder
  rcases config.claims with ⟨_ | audience, _ | issuer, _ | subject⟩ <;> rfl

end Config

end Slim.Auth
