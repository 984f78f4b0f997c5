import Slim.HashMap
import Slim.Jsonwebtoken
import Slim.Machine

/-!
# Verification of JWTs

`VerifierJwt` of the `slim_auth` crate: the cache of tokens that were verified, the verifier
over a decoding key or over a `KeyResolver`, and the resolver with its cache of key sets.
`verify` waits only inside `fetch_jwks`; what comes before and after that wait is modelled
by two functions.  Times of the system clock are in seconds, instants in nanoseconds.  The
text of an error ends where it goes on with what a library prints.
-/

namespace Slim.Auth

open Jsonwebtoken

inductive AuthError where
  | configError (text : String)
  | tokenExpired
  | tokenInvalid (text : String) (cause : ErrorKind)
  | signingError (text : String)
  | getTokenError (text : String)
  | verificationError (text : String) (cause : ErrorKind)
  | invalidHeader (text : String)
deriving DecidableEq, Repr

def AuthError.display : AuthError → String
  | configError text => "config error: " ++ text
  | tokenExpired => "token expired"
  | tokenInvalid text _ => "token invalid: " ++ text
  | signingError text => "signing error: " ++ text
  | getTokenError text => "get token error: " ++ text
  | verificationError text _ => "verification error: " ++ text
  | invalidHeader text => "invalid header: " ++ text

structure Clock where
  seconds : Nat
  instant : Nat
deriving DecidableEq, Repr

/-! ## Claims -/

structure StandardClaims where
  iss : Option String
  sub : Option String
  aud : Option String
  exp : Nat
  iat : Option Nat
  jti : Option String
  nbf : Option Nat
deriving DecidableEq, Repr

def StandardClaims.deserialize (payload : Payload) : Option StandardClaims := do
  let iss ← ClaimValue.optional ClaimValue.text? (payload "iss")
  let sub ← ClaimValue.optional ClaimValue.text? (payload "sub")
  let aud ← ClaimValue.optional ClaimValue.text? (payload "aud")
  let exp ← (payload "exp").bind ClaimValue.number?
  let iat ← ClaimValue.optional ClaimValue.number? (payload "iat")
  let jti ← ClaimValue.optional ClaimValue.text? (payload "jti")
  let nbf ← ClaimValue.optional ClaimValue.number? (payload "nbf")
  some ⟨iss, sub, aud, exp, iat, jti, nbf⟩

theorem StandardClaims.iss_of_deserialize {payload : Payload} {claims : StandardClaims}
    (hread : StandardClaims.deserialize payload = some claims) {issuer : String}
    (hissuer : claims.iss = some issuer) : payload "iss" = some (.text issuer) := by
  simp only [deserialize, Option.bind_eq_bind, Option.bind_eq_some_iff, Option.some.injEq] at hread
  obtain ⟨iss, hiss, _, _, _, _, _, _, _, _, _, _, _, _, rfl⟩ := hread
  obtain rfl : iss = some issuer := hissuer
  exact ClaimValue.eq_text_of_optional hiss

/-- `ExpClaim`, whose only field is `exp`. -/
def ExpClaim.deserialize (payload : Payload) : Option Nat :=
  (payload "exp").bind ClaimValue.number?

/-! ## The cache of verified tokens -/

/-- The expiry of each token that is cached. -/
abbrev TokenCache := HashMap String Nat

namespace TokenCache

def store (cache : TokenCache) (token : String) (expiry : Nat) : TokenCache :=
  cache.insert token expiry

/-- The claims part of a token that has not expired. -/
def get (cache : TokenCache) (now : Nat) (token : String) : Option String :=
  match cache.get? token with
  | none => none
  | some expiry =>
    if now < expiry then
      match (token.toList.splitOn '.').map String.ofList with
      | [_, claims, _] => some claims
      | _ => none
    else none

theorem contains_of_get {cache : TokenCache} {now : Nat} {token : String}
    (hget : (cache.get now token).isSome = true) : cache.contains token = true := by
  unfold get at hget
  split at hget
  next => simp at hget
  next hentry => simp [HashMap.contains, hentry]

end TokenCache

/-! ## Keys published by an issuer -/

inductive KeyAlgorithm where
  | signing (algorithm : Algorithm)
  | RSA1_5
  | RSA_OAEP
  | RSA_OAEP_256
deriving DecidableEq, Repr

def KeyAlgorithm.debug : KeyAlgorithm → String
  | signing algorithm => algorithm.debug
  | RSA1_5 => "RSA1_5"
  | RSA_OAEP => "RSA_OAEP"
  | RSA_OAEP_256 => "RSA_OAEP_256"

/-- A published key; `decodingKey` is what `DecodingKey::from_jwk` makes of it. -/
structure Jwk where
  keyId : Option String
  keyAlgorithm : Option KeyAlgorithm
  decodingKey : Option DecodingKey
deriving DecidableEq, Repr

abbrev JwkSet := List Jwk

structure JwksCache where
  jwks : JwkSet
  fetchedAt : Nat
  ttl : Nat
deriving DecidableEq, Repr

structure KeyResolver where
  jwksCache : HashMap String JwksCache
  defaultJwksTtl : Nat

namespace KeyResolver

def new : KeyResolver := ⟨HashMap.empty, 3600000000000⟩

def jwkToDecodingKey (jwk : Jwk) : Except AuthError DecodingKey :=
  match jwk.decodingKey with
  | some key => .ok key
  | none =>
    let algorithm := match jwk.keyAlgorithm with
      | some algorithm => "Some(" ++ algorithm.debug ++ ")"
      | none => "None"
    .error (.configError ("Failed to create " ++ algorithm ++ " decoding key from JWK: "))

def keyAlgToAlgorithm : KeyAlgorithm → Except AuthError Algorithm
  | .signing algorithm => .ok algorithm
  | alg => .error (.configError ("Unsupported key algorithm: " ++ alg.debug))

/-- The key a header asks for: by its id, or without one by its algorithm. -/
def suits (header : Header) (jwk : Jwk) : Bool :=
  match header.kid with
  | some kid => jwk.keyId == some kid
  | none =>
    match jwk.keyAlgorithm with
    | none => false
    | some alg =>
      match keyAlgToAlgorithm alg with
      | .ok algorithm => algorithm == header.alg
      | .error _ => false

def getDecodedKeyFromJwks (jwks : JwkSet) (header : Header) : Except AuthError DecodingKey :=
  match jwks.find? (suits header) with
  | some jwk => jwkToDecodingKey jwk
  | none => .error (.configError "No suitable key found in JWKS for token header: ")

def getCachedKey (resolver : KeyResolver) (instant : Nat) (issuer : String) (header : Header) :
    Except AuthError DecodingKey :=
  match resolver.jwksCache.get? issuer with
  | none => .error (.configError ("No cached JWKS found for issuer: " ++ issuer))
  | some entry =>
    if entry.ttl < instant - entry.fetchedAt then
      .error (.configError ("Cached JWKS for issuer " ++ issuer ++ " has expired"))
    else getDecodedKeyFromJwks entry.jwks header

/-- The end of `fetch_jwks`, when the key set of the issuer has arrived. -/
def storeJwks (resolver : KeyResolver) (instant : Nat) (issuer : String) (jwks : JwkSet) :
    KeyResolver :=
  { resolver with
    jwksCache := resolver.jwksCache.insert issuer ⟨jwks, instant, resolver.defaultJwksTtl⟩ }

/-- A cached key comes from the key set that is cached for the issuer. -/
theorem getCachedKey_eq_ok {resolver : KeyResolver} {instant : Nat} {issuer : String}
    {header : Header} {key : DecodingKey}
    (hcached : resolver.getCachedKey instant issuer header = .ok key) :
    ∃ entry, resolver.jwksCache.get? issuer = some entry ∧
      getDecodedKeyFromJwks entry.jwks header = .ok key := by
  unfold getCachedKey at hcached
  split at hcached
  next => cases hcached
  next entry hentry =>
    split at hcached
    next => cases hcached
    next => exact ⟨entry, hentry, hcached⟩

end KeyResolver

/-! ## The verifier -/

structure VerifierJwt where
  validation : Validation
  decodingKey : Option DecodingKey
  keyResolver : Option KeyResolver
  tokenCache : TokenCache

namespace VerifierJwt

/-- `Jwt::new`. -/
def new (validation : Validation) : VerifierJwt where
  validation := validation
  decodingKey := none
  keyResolver := none
  tokenCache := HashMap.empty

def withDecodingKey (verifier : VerifierJwt) (key : DecodingKey) : VerifierJwt :=
  { verifier with decodingKey := some key, keyResolver := none }

def withKeyResolver (verifier : VerifierJwt) (resolver : KeyResolver) : VerifierJwt :=
  { verifier with decodingKey := none, keyResolver := some resolver }

def cache (verifier : VerifierJwt) (token : String) (expiry : Nat) : VerifierJwt :=
  { verifier with tokenCache := verifier.tokenCache.store token expiry }

def getValidation (verifier : VerifierJwt) (alg : Algorithm) : Validation :=
  { verifier.validation with algorithm := alg }

/-- What is made of a failed decoding. -/
def decodeFailed : ErrorKind → AuthError
  | .expiredSignature => .tokenExpired
  | kind => .verificationError "" kind

variable (format : TokenFormat) {γ : Type} (verifier : VerifierJwt) (read : Payload → Option γ)
  (clock : Clock) (token : String)

/-- A cached token is decoded again, with the signature left out. -/
def getCachedClaims : Option γ :=
  match verifier.tokenCache.get clock.seconds token with
  | none => none
  | some _ =>
    let validation :=
      (verifier.getValidation verifier.validation.algorithm).insecureDisableSignatureValidation
    match format.decode read validation (.fromSecret "notused") token clock.seconds with
    | .ok (_, claims) => some claims
    | .error _ => none

/-- The claims, and the verifier with the token in its cache.  The algorithm is the one the
    token's header names. -/
def verifyInternal (key : DecodingKey) : Except AuthError (γ × VerifierJwt) := do
  let header ← (format.decodeHeader token).mapError
    (.tokenInvalid "Failed to decode token header: ")
  let validation := verifier.getValidation header.alg
  let data ← (format.decode read validation key token clock.seconds).mapError decodeFailed
  let expData ← (format.decode ExpClaim.deserialize validation.insecureDisableSignatureValidation
    key token clock.seconds).mapError decodeFailed
  .ok (data.2, verifier.cache token expData.2)

/-- The issuer that the token names and its header, before any signature is checked:
    `unsecure_get_token_data` and what both ways to a key do with it. -/
def tokenIssuer : Except AuthError (String × Header) := do
  let data ← (format.decode StandardClaims.deserialize
    verifier.validation.insecureDisableSignatureValidation (.fromSecret "unused") token
    clock.seconds).mapError (.verificationError "Failed to decode token: ")
  match data.2.iss with
  | some issuer => .ok (issuer, data.1)
  | none => .error (.configError "no issuer found in JWT claims")

/-- `decoding_key`, the way of `try_verify`: only a cached key set is looked at. -/
def lookupDecodingKey : Except AuthError DecodingKey :=
  match verifier.decodingKey with
  | some key => .ok key
  | none =>
    match verifier.keyResolver with
    | some resolver => do
      let data ← verifier.tokenIssuer format clock token
      resolver.getCachedKey clock.instant data.1 data.2
    | none => .error (.configError "Decoding key not configured for JWT verification")

/-- A key that is at hand, or the issuer whose key set has to be fetched. -/
inductive Resolution where
  | key (key : DecodingKey)
  | fetch (issuer : String) (header : Header)

/-- `resolve_decoding_key`, the way of `verify`, up to the wait of `fetch_jwks`. -/
def resolveDecodingKey : Except AuthError Resolution :=
  match verifier.decodingKey with
  | some key => .ok (.key key)
  | none =>
    match verifier.keyResolver with
    | some resolver => do
      let data ← verifier.tokenIssuer format clock token
      match resolver.getCachedKey clock.instant data.1 data.2 with
      | .ok key => .ok (.key key)
      | .error _ => .ok (.fetch data.1 data.2)
    | none => .error (.configError "Key resolver not configured")

/-- For the record of a check: the issuer and its key set, when the key is not configured. -/
def keySource : Option (String × JwkSet) :=
  match verifier.decodingKey, verifier.keyResolver with
  | none, some resolver =>
    match verifier.tokenIssuer format clock token with
    | .ok data => (resolver.jwksCache.get? data.1).map fun entry => (data.1, entry.jwks)
    | .error _ => none
  | _, _ => none

/-! ## What the functions find -/

variable {format verifier read clock token} {key : DecodingKey}

/-- The claims of the token are read and pass every check at the time of the call. -/
def Passes (format : TokenFormat) (read : Payload → Option γ) (validation : Validation)
    (token : String) (now : Nat) (claims : γ) : Prop :=
  ∃ payload, format.payload token = some payload ∧ read payload = some claims ∧
    format.validate validation.toExpectations payload now = .ok ()

theorem getCachedClaims_eq_some (hsignature : format.ChecksSignature) {claims : γ}
    (hcached : verifier.getCachedClaims format read clock token = some claims) :
    verifier.tokenCache.contains token = true ∧
      Passes format read verifier.validation token clock.seconds claims := by
  unfold getCachedClaims at hcached
  split at hcached
  next => cases hcached
  next hget =>
    dsimp only at hcached
    split at hcached
    next header found hdecode =>
      cases hcached
      refine ⟨?_, (hsignature.decode_eq_ok_iff.mp hdecode).payload⟩
      have hlive : (verifier.tokenCache.get clock.seconds token).isSome = true := by
        rw [hget]
        rfl
      exact TokenCache.contains_of_get hlive
    next => cases hcached

/-- A signature check with the key, which goes with the header's own algorithm. -/
structure SignedBy (format : TokenFormat) (token : String) (key : DecodingKey) : Prop where
  valid : format.verify token key = true
  admitted : ∃ header, format.decodeHeader token = .ok header ∧
    format.admits [header.alg] key header = true

theorem SignedBy.family (hsigned : SignedBy format token key)
    (halgorithm : format.ChecksAlgorithm) :
    ∃ header, format.decodeHeader token = .ok header ∧ key.family = header.alg.family := by
  obtain ⟨header, hheader, hadmits⟩ := hsigned.admitted
  exact ⟨header, hheader, (halgorithm.admits_iff.mp hadmits).2 _ (List.mem_cons_self ..)⟩

/-- What `verify_internal` has checked of a token that it accepts, where the signatures are
    validated. -/
theorem verifyInternal_eq_ok (hsignature : format.ChecksSignature) {claims : γ}
    {after : VerifierJwt} (henabled : verifier.validation.signatureDisabled = false)
    (hok : verifier.verifyInternal format read clock token key = .ok (claims, after)) :
    SignedBy format token key ∧
      Passes format read verifier.validation token clock.seconds claims ∧
      ∃ expiry, after = verifier.cache token expiry := by
  unfold verifyInternal at hok
  obtain ⟨header, hheader, hok⟩ := Machine.mapError_bind_eq_ok hok
  obtain ⟨⟨found, data⟩, hdecode, hok⟩ := Machine.mapError_bind_eq_ok hok
  obtain ⟨⟨_, expiry⟩, hexp, hok⟩ := Machine.mapError_bind_eq_ok hok
  cases hok
  have hdecoded := hsignature.decode_eq_ok_iff.mp hdecode
  obtain ⟨hvalid, hadmits⟩ := hdecoded.signed henabled
  have hsame : found = header := by simpa [hheader] using hdecoded.parsed.symm
  rw [hsame] at hadmits
  exact ⟨⟨hvalid, header, hheader, hadmits⟩, hdecoded.payload, expiry, rfl⟩

/-- A token that passes every check that is made of it with the key at this time. -/
structure Genuine (format : TokenFormat) (validation : Validation) (key : DecodingKey)
    (token : String) (now : Nat) : Prop where
  signed : SignedBy format token key
  payload : ∃ payload exp, format.payload token = some payload ∧
    payload "exp" = some (.number exp) ∧
    format.validate validation.toExpectations payload now = .ok ()

theorem Genuine.verifyInternal (hsignature : format.ChecksSignature)
    (hgenuine : Genuine format verifier.validation key token clock.seconds) :
    ∃ claims after, verifier.verifyInternal format some clock token key = .ok (claims, after) := by
  obtain ⟨⟨hvalid, header, hheader, hadmits⟩, payload, exp, hpayload, hexp, hvalidate⟩ := hgenuine
  have hdata : format.decode some (verifier.getValidation header.alg) key token clock.seconds =
      .ok (header, payload) :=
    hsignature.decode_eq_ok_iff.mpr ⟨hheader, fun _ => ⟨hvalid, hadmits⟩, payload, hpayload, rfl,
      hvalidate⟩
  have hexpiry : format.decode ExpClaim.deserialize
      (verifier.getValidation header.alg).insecureDisableSignatureValidation key token
      clock.seconds = .ok (header, exp) :=
    hsignature.decode_disabled hheader hpayload (by rw [ExpClaim.deserialize, hexp]; rfl) hvalidate
  simp [VerifierJwt.verifyInternal, hheader, hdata, hexpiry, Except.mapError, Machine.bind_ok]

/-- The token names this issuer. -/
def NamesIssuer (format : TokenFormat) (token issuer : String) : Prop :=
  ∃ payload, format.payload token = some payload ∧ payload "iss" = some (.text issuer)

theorem tokenIssuer_eq_ok (hsignature : format.ChecksSignature) {issuer : String}
    {header : Header}
    (hok : verifier.tokenIssuer format clock token = .ok (issuer, header)) :
    NamesIssuer format token issuer ∧ format.decodeHeader token = .ok header := by
  unfold tokenIssuer at hok
  obtain ⟨⟨found, claims⟩, hdecode, hok⟩ := Machine.mapError_bind_eq_ok hok
  have hdecoded := hsignature.decode_eq_ok_iff.mp hdecode
  obtain ⟨payload, hpayload, hread, _⟩ := hdecoded.payload
  dsimp only at hok
  split at hok
  next issuer hissuer =>
    cases hok
    refine ⟨⟨payload, hpayload, ?_⟩, hdecoded.parsed⟩
    exact StandardClaims.iss_of_deserialize hread hissuer
  next => cases hok

/-- The key a call checks a token against: the decoding key, or one from the key set that is
    cached for the issuer the token names. -/
inductive KeyAtHand (format : TokenFormat) (verifier : VerifierJwt) (token : String) :
    DecodingKey → Option (String × JwkSet) → Prop
  | configured {key : DecodingKey} (hkey : verifier.decodingKey = some key) :
      KeyAtHand format verifier token key none
  | cached {key : DecodingKey} {issuer : String} {entry : JwksCache} {resolver : KeyResolver}
      {header : Header} (hkey : verifier.decodingKey = none)
      (hresolver : verifier.keyResolver = some resolver)
      (hissuer : NamesIssuer format token issuer) (hheader : format.decodeHeader token = .ok header)
      (hentry : resolver.jwksCache.get? issuer = some entry)
      (hjwks : KeyResolver.getDecodedKeyFromJwks entry.jwks header = .ok key) :
      KeyAtHand format verifier token key (some (issuer, entry.jwks))

theorem keyAtHand_of_getCachedKey (hsignature : format.ChecksSignature)
    (hkey : verifier.decodingKey = none) {resolver : KeyResolver}
    (hresolver : verifier.keyResolver = some resolver) {data : String × Header}
    (hissuer : verifier.tokenIssuer format clock token = .ok data)
    (hcached : resolver.getCachedKey clock.instant data.1 data.2 = .ok key) :
    KeyAtHand format verifier token key (verifier.keySource format clock token) := by
  obtain ⟨entry, hentry, hjwks⟩ := KeyResolver.getCachedKey_eq_ok hcached
  have hsource : verifier.keySource format clock token = some (data.1, entry.jwks) := by
    simp only [keySource, hkey, hresolver, hissuer, hentry, Option.map_some]
  obtain ⟨hnamed, hheader⟩ := tokenIssuer_eq_ok hsignature hissuer
  rw [hsource]
  exact .cached hkey hresolver hnamed hheader hentry hjwks

theorem keyAtHand_of_configured (hkey : verifier.decodingKey = some key) :
    KeyAtHand format verifier token key (verifier.keySource format clock token) := by
  have hsource : verifier.keySource format clock token = none := by
    simp only [keySource, hkey]
  rw [hsource]
  exact .configured hkey

theorem lookupDecodingKey_eq_ok (hsignature : format.ChecksSignature)
    (hok : verifier.lookupDecodingKey format clock token = .ok key) :
    KeyAtHand format verifier token key (verifier.keySource format clock token) := by
  unfold lookupDecodingKey at hok
  split at hok
  next hkey => cases hok; exact keyAtHand_of_configured hkey
  next hkey =>
    split at hok
    next resolver hresolver =>
      obtain ⟨data, hissuer, hcached⟩ := Machine.bind_eq_ok hok
      exact keyAtHand_of_getCachedKey hsignature hkey hresolver hissuer hcached
    next => cases hok

/-- `verify` finds the same keys without waiting, and otherwise waits for the key set of the
    issuer that the token names. -/
theorem resolveDecodingKey_eq_ok (hsignature : format.ChecksSignature) {resolution : Resolution}
    (hok : verifier.resolveDecodingKey format clock token = .ok resolution) :
    (∃ key, resolution = .key key ∧
      KeyAtHand format verifier token key (verifier.keySource format clock token)) ∨
    ∃ issuer header, resolution = .fetch issuer header ∧ NamesIssuer format token issuer ∧
      format.decodeHeader token = .ok header ∧ verifier.decodingKey = none := by
  unfold resolveDecodingKey at hok
  split at hok
  next key hkey => cases hok; exact .inl ⟨key, rfl, keyAtHand_of_configured hkey⟩
  next hkey =>
    split at hok
    next resolver hresolver =>
      obtain ⟨data, hissuer, hcached⟩ := Machine.bind_eq_ok hok
      split at hcached
      next key hfound =>
        cases hcached
        exact .inl ⟨key, rfl, keyAtHand_of_getCachedKey hsignature hkey hresolver hissuer hfound⟩
      next =>
        cases hcached
        obtain ⟨hnamed, hheader⟩ := tokenIssuer_eq_ok hsignature hissuer
        exact .inr ⟨data.1, data.2, rfl, hnamed, hheader, hkey⟩
    next => cases hok

end VerifierJwt

end Slim.Auth
