import Slim.JwtKeyRotation

/-!
# Verifiers of a server configuration

The verifiers that `get_server_layer` builds.  With `autoresolve` the key comes from the issuer
that the token itself names, so that a configuration without an issuer trusts every issuer.
The configured issuer and audience are compared with claims that are there; the configured
subject is compared with nothing.
-/

namespace Slim.Auth

open Jsonwebtoken VerifierJwt

/-- The builder a server uses: one with the configured issuer and audience. -/
theorem Config.getServerLayer_eq_ok {config : Config} {format : TokenFormat} {files : Files}
    {built : Built} (hlayer : config.getServerLayer format files = .ok built) :
    ∃ builder : JwtBuilder.WithPublicKey, builder.build format files = .ok built ∧
      builder.issuer = config.claims.issuer ∧ builder.audience = config.claims.audience ∧
      builder.requiredClaims = [] ∧
      (config.key = .autoresolve true → builder = config.builder.autoResolveKeys true) := by
  unfold getServerLayer at hlayer
  split at hlayer
  next key hkey =>
    refine ⟨_, Machine.mapError_eq_ok hlayer, issuer_builder config, audience_builder config,
      requiredClaims_builder config, ?_⟩
    simp [hkey]
  next =>
    exact ⟨_, Machine.mapError_eq_ok hlayer, issuer_builder config, audience_builder config,
      requiredClaims_builder config, fun _ => rfl⟩
  next => cases hlayer

namespace VerifierState

/-- A verifier that resolves its keys: every check was made with a key of some issuer. -/
structure Resolving (s : VerifierState) : Prop where
  unkeyed : s.verifier.decodingKey = none
  unwatched : s.watched = none
  checks : ∀ check ∈ s.checks, check.source ≠ none

section Server

variable {format : TokenFormat} {config : Config} {files : Files} {built : Built}
  {s : VerifierState} {event : AuthEvent} {token : String}

theorem Resolving.change {after : VerifierState} (hresolving : s.Resolving)
    (hchange : s.Change format after) : after.Resolving := by
  have heffect := hchange.keyEffect
  constructor
  case unkeyed =>
    rcases heffect.inForce with hsame | ⟨key, _, hwatched, _⟩
    · rw [hsame, hresolving.unkeyed]
    · rw [hresolving.unwatched] at hwatched
      cases hwatched
  case unwatched =>
    apply Option.eq_none_iff_forall_ne_some.mpr
    intro key hwatched
    have hbefore := heffect.watched key hwatched
    rw [hresolving.unwatched] at hbefore
    cases hbefore
  case checks =>
    intro check hcheck
    rcases heffect.checks check hcheck with hold | hnew
    · exact hresolving.checks check hold
    · exact hnew.source_ne_none hresolving.unkeyed

section Checked

variable (hsignature : format.ChecksSignature)

include hsignature

theorem Reached.resolving {builder : JwtBuilder}
    (hbuilt : (builder.autoResolveKeys true).build format files = .ok built)
    (hreached : s.Reached format built) : s.Resolving := by
  apply hreached.invariant hsignature hbuilt
  · intro jwksCache clock
    obtain ⟨_, _, hmode⟩ := JwtBuilder.WithPublicKey.build_eq_ok hbuilt
    rcases hmode with ⟨_, hunkeyed, _, hunwatched⟩ | ⟨hauto, _⟩
    · exact ⟨hunkeyed, hunwatched, by simp [start]⟩
    · cases hauto
  · intro before after
    exact Resolving.change

/-! ## The issuer whose keys are trusted -/

/-- The token was checked against a key that the named issuer published. -/
def CheckedBy (format : TokenFormat) (s : VerifierState) (token issuer : String) : Prop :=
  ∃ check ∈ s.checks, check.token = token ∧ SignedBy format token check.key ∧
    ∃ jwks, check.source = some (issuer, jwks) ∧ s.Issued format check issuer jwks

/-- A token that is accepted with a resolved key was checked by the issuer it names. -/
theorem Reached.checkedBy (hkey : config.key = .autoresolve true)
    (hlayer : config.getServerLayer format files = .ok built) (hreached : s.Reached format built)
    (haccepts : s.Accepts format event token) :
    ∃ issuer, (s.step format event).CheckedBy format token issuer ∧
      NamesIssuer format token issuer := by
  obtain ⟨builder, hbuilt, _, _, _, hauto⟩ := Config.getServerLayer_eq_ok hlayer
  obtain rfl := hauto hkey
  have hadmitted := (hreached.audited hsignature hbuilt).admitted hsignature (by simp) haccepts
  obtain ⟨check, hcheck, rfl, _⟩ := hadmitted.check
  have hafter := hreached.step event
  have haudited := hafter.audited hsignature hbuilt
  obtain ⟨⟨issuer, jwks⟩, hsource⟩ :=
    Option.ne_none_iff_exists'.mp ((hafter.resolving hsignature hbuilt).checks check hcheck)
  have hissued := haudited.issued check hcheck issuer jwks hsource
  exact ⟨issuer, ⟨check, hcheck, rfl, haudited.signed check hcheck, jwks, hsource, hissued⟩,
    hissued.2.1⟩

/-- An issuer that an accepted token names is the configured one. -/
theorem Reached.issuer_eq (hissuer : format.EnforcesIssuer)
    (hlayer : config.getServerLayer format files = .ok built) (hreached : s.Reached format built)
    (haccepts : s.Accepts format event token) {configured : String}
    (hconfigured : config.claims.issuer = some configured) {named : String}
    (hnamed : NamesIssuer format token named) : named = configured := by
  obtain ⟨builder, hbuilt, hsame, _⟩ := Config.getServerLayer_eq_ok hlayer
  obtain ⟨payload, hpayload, hvalidate⟩ :=
    ((hreached.audited hsignature hbuilt).admitted hsignature (by simp) haccepts).passes
  obtain ⟨own, hown, hclaim⟩ := hnamed
  rw [hpayload] at hown
  cases hown
  have hset : builder.buildValidation.iss = some [configured] := by simp [hsame, hconfigured]
  have hgiven : payload.names? "iss" = some [named] := by
    rw [Payload.names?, hclaim]
    rfl
  obtain ⟨name, hname, hmem⟩ := hissuer.exists_mem_iss hvalidate hset hgiven
  rw [← List.mem_singleton.mp hname, List.mem_singleton.mp hmem]

end Checked

/-- The keys that are resolved come from an issuer named in the configuration exactly when the
    configuration names one. -/
theorem autoresolved_from_configured_iff (hsignature : format.ChecksSignature)
    (hissuer : format.EnforcesIssuer) (hkey : config.key = .autoresolve true)
    (hlayer : config.getServerLayer format files = .ok built) (hreached : s.Reached format built)
    (haccepts : s.Accepts format event token) :
    (∃ issuer, config.claims.issuer = some issuer ∧
      (s.step format event).CheckedBy format token issuer) ↔ config.claims.issuer ≠ none := by
  constructor
  · rintro ⟨issuer, hconfigured, _⟩ hnone
    rw [hconfigured] at hnone
    cases hnone
  · intro hsome
    obtain ⟨configured, hconfigured⟩ := Option.ne_none_iff_exists'.mp hsome
    obtain ⟨named, hchecked, hnamed⟩ := hreached.checkedBy hsignature hkey hlayer haccepts
    refine ⟨configured, hconfigured, ?_⟩
    rw [← hreached.issuer_eq hsignature hissuer hlayer haccepts hconfigured hnamed]
    exact hchecked

end Server

/-! A configuration that resolves keys, and a token that names an issuer of its own, who has
signed it. -/

def resolvingConfig (issuer : Option String) : Config := ⟨⟨none, issuer, none⟩, .autoresolve true⟩

def resolvingBuilt (issuer : Option String) : Built where
  verifier :=
    (VerifierJwt.new (resolvingConfig issuer).builder.buildValidation).withKeyResolver .new
  watched := none

def selfIssued : TokenFormat :=
  sampleFormat [("h.p.s", .HS256, bareClaims 1700003600 (some "elsewhere"))]
    (.fromSecret "elsewhere")

/-- The arrival of the issuer's key set. -/
def selfPublished : AuthEvent :=
  .fetched 0 (.ok [⟨none, some (.signing .HS256), some (.fromSecret "elsewhere")⟩])

def awaiting (issuer : Option String) : VerifierState :=
  Runs.run (step selfIssued) (start (resolvingBuilt issuer) HashMap.empty sampleClock)
    [.verify "h.p.s" some]

theorem reached_awaiting (issuer : Option String) :
    (awaiting issuer).Reached selfIssued (resolvingBuilt issuer) :=
  ⟨HashMap.empty, sampleClock, [.verify "h.p.s" some], rfl⟩

theorem getServerLayer_resolvingConfig (issuer : Option String) :
    (resolvingConfig issuer).getServerLayer selfIssued (fun _ => none) =
      .ok (resolvingBuilt issuer) := rfl

theorem self_issued_token_accepted :
    selfIssued.ChecksSignature ∧ selfIssued.EnforcesIssuer ∧
      (resolvingConfig none).getServerLayer selfIssued (fun _ => none) =
        .ok (resolvingBuilt none) ∧
      (awaiting none).Reached selfIssued (resolvingBuilt none) ∧
      (awaiting none).Accepts selfIssued selfPublished "h.p.s" ∧
      ¬ ∃ issuer, (resolvingConfig none).claims.issuer = some issuer ∧
        ((awaiting none).step selfIssued selfPublished).CheckedBy selfIssued "h.p.s" issuer := by
  refine ⟨TokenParts.checksSignature_format _, (TokenParts.comparesClaims_format _).enforcesIssuer,
    getServerLayer_resolvingConfig none, reached_awaiting none, ⟨_, rfl⟩, ?_⟩
  rintro ⟨issuer, hissuer, _⟩
  cases hissuer

theorem autoresolved_from_configured_sample :
    (awaiting (some "elsewhere")).Accepts selfIssued selfPublished "h.p.s" ∧
      ((∃ issuer, (resolvingConfig (some "elsewhere")).claims.issuer = some issuer ∧
        ((awaiting (some "elsewhere")).step selfIssued selfPublished).CheckedBy selfIssued "h.p.s"
          issuer) ↔ (resolvingConfig (some "elsewhere")).claims.issuer ≠ none) := by
  have haccepts : (awaiting (some "elsewhere")).Accepts selfIssued selfPublished "h.p.s" :=
    ⟨_, rfl⟩
  refine ⟨haccepts, ?_⟩
  exact autoresolved_from_configured_iff (TokenParts.checksSignature_format _)
    (TokenParts.comparesClaims_format _).enforcesIssuer rfl (getServerLayer_resolvingConfig _)
    (reached_awaiting _) haccepts

/-! ## The claims that identify a token -/

/-- The configured identity: the issuer, an audience among those of the token, the subject. -/
structure Identifies (claims : Claims) (payload : Payload) : Prop where
  issuer : ∀ issuer, claims.issuer = some issuer → payload "iss" = some (.text issuer)
  audience : ∀ audience, claims.audience = some audience →
    ∃ names, payload.names? "aud" = some names ∧ audience ∈ names
  subject : ∀ subject, claims.subject = some subject → payload "sub" = some (.text subject)

/-- What is enforced: the issuer, where the key is found by it, and otherwise the issuer and the
    audience of a token that has them. -/
structure Enforced (config : Config) (payload : Payload) : Prop where
  named : ∀ issuer, config.claims.issuer = some issuer → config.key = .autoresolve true →
    payload "iss" = some (.text issuer)
  issuer : ∀ issuer given, config.claims.issuer = some issuer →
    payload.names? "iss" = some given → issuer ∈ given
  audience : ∀ audience given, config.claims.audience = some audience →
    payload.names? "aud" = some given → audience ∈ given

/-- Nothing is configured but an issuer by which keys are found. -/
def Enforceable (config : Config) : Prop :=
  (config.claims.issuer = none ∨ config.key = .autoresolve true) ∧
    config.claims.audience = none ∧ config.claims.subject = none

/-- Every token that is accepted has the configured identity. -/
def AllIdentified (format : TokenFormat) (built : Built) (claims : Claims) : Prop :=
  ∀ token payload, AcceptedBy format built token → format.payload token = some payload →
    Identifies claims payload

/-- Somebody signs a token that has nothing but an expiry, and the issuer where keys are found by
    it. -/
inductive SignsBare (format : TokenFormat) (built : Built) : Config → Prop
  | decoding {claims : Claims} {key : Key} {decodingKey : DecodingKey} {token : String} {exp : Nat}
      (hkey : built.verifier.decodingKey = some decodingKey)
      (hsigned : SignedBy format token decodingKey)
      (hpayload : format.payload token = some (bareClaims exp none)) :
      SignsBare format built ⟨claims, .decoding key⟩
  | autoresolve {claims : Claims} {issuer token : String} {jwks : JwkSet} {header : Header}
      {decodingKey : DecodingKey} {exp : Nat}
      (hissuer : ∀ configured, claims.issuer = some configured → configured = issuer)
      (hheader : format.decodeHeader token = .ok header)
      (hjwks : KeyResolver.getDecodedKeyFromJwks jwks header = .ok decodingKey)
      (hsigned : SignedBy format token decodingKey)
      (hpayload : format.payload token = some (bareClaims exp (some issuer))) :
      SignsBare format built ⟨claims, .autoresolve true⟩

section Identity

variable {format : TokenFormat} {config : Config} {files : Files} {built : Built} {token : String}

theorem AcceptedBy.enforced (hsignature : format.ChecksSignature)
    (hclaims : format.ComparesClaims) (hlayer : config.getServerLayer format files = .ok built)
    (haccepted : AcceptedBy format built token) :
    ∃ payload, format.payload token = some payload ∧ Enforced config payload := by
  obtain ⟨s, event, hreached, haccepts⟩ := haccepted
  obtain ⟨builder, hbuilt, hissuer, haudience, _⟩ := Config.getServerLayer_eq_ok hlayer
  obtain ⟨payload, hpayload, hvalidate⟩ :=
    ((hreached.audited hsignature hbuilt).admitted hsignature (by simp) haccepts).passes
  have hcompared := hclaims.compared hvalidate
  refine ⟨payload, hpayload, ?_, ?_, ?_⟩
  · intro configured hconfigured hkey
    obtain ⟨name, _, hnamed⟩ := hreached.checkedBy hsignature hkey hlayer haccepts
    obtain rfl := hreached.issuer_eq hsignature hclaims.enforcesIssuer hlayer haccepts hconfigured
      hnamed
    obtain ⟨own, hown, hclaim⟩ := hnamed
    rw [hpayload] at hown
    cases hown
    exact hclaim
  · intro configured given hconfigured hgiven
    obtain ⟨name, hname, hmem⟩ := hcompared.issuer [configured] given
      (by simp [hissuer, hconfigured]) hgiven
    rwa [List.mem_singleton.mp hmem] at hname
  · intro configured given hconfigured hgiven
    obtain ⟨name, hname, hmem⟩ := hcompared.audience [configured] given
      (by simp [haudience, hconfigured]) hgiven
    rwa [List.mem_singleton.mp hmem] at hname

/-- A token with an expiry and the right issuer passes until it expires. -/
theorem validate_bareClaims (hclaims : format.ComparesClaims) {builder : JwtBuilder}
    (hrequired : builder.requiredClaims = []) {issuer : Option String} (exp : Nat)
    (hissuer : ∀ configured named, builder.issuer = some configured → issuer = some named →
      configured = named) :
    format.validate builder.buildValidation.toExpectations (bareClaims exp issuer) exp =
      .ok () := by
  have hexp : (bareClaims exp issuer).seconds? "exp" = some exp := rfl
  apply hclaims.lenient _ _ (by simp [hexp]) rfl
  · refine ⟨?_, ?_, fun _ _ _ hgiven => ?_, fun _ _ _ hgiven => ?_⟩
    · intro found hfound
      rw [hexp] at hfound
      cases hfound
      exact Nat.le_add_right _ _
    · intro names given hset hgiven
      rw [JwtBuilder.iss_buildValidation, Option.map_eq_some_iff] at hset
      obtain ⟨configured, hconfigured, rfl⟩ := hset
      cases issuer with
      | none => cases hgiven
      | some named =>
          cases hgiven
          rw [hissuer configured named hconfigured rfl]
          exact ⟨named, List.mem_cons_self, List.mem_cons_self⟩
    · cases hgiven
    · cases hgiven
  · rw [JwtBuilder.buildValidation_eq, hrequired]
    rfl

theorem SignsBare.exists_accepted (hsignature : format.ChecksSignature)
    (hclaims : format.ComparesClaims) (hlayer : config.getServerLayer format files = .ok built)
    (hsigns : SignsBare format built config) :
    ∃ token exp issuer, AcceptedBy format built token ∧
      format.payload token = some (bareClaims exp issuer) ∧
      (config.key ≠ .autoresolve true → issuer = none) := by
  obtain ⟨builder, hbuilt, hissuer, _, hrequired, hauto⟩ := Config.getServerLayer_eq_ok hlayer
  obtain ⟨hvalidation, hempty, hmode⟩ := JwtBuilder.WithPublicKey.build_eq_ok hbuilt
  cases hsigns with
  | @decoding claims key decodingKey token exp hkey hsigned hpayload =>
      have hvalidate : format.validate built.verifier.validation.toExpectations
          (bareClaims exp none) exp = .ok () := by
        rw [hvalidation]
        exact validate_bareClaims hclaims hrequired exp (by simp)
      refine ⟨token, exp, none, ?_, hpayload, fun _ => rfl⟩
      apply Genuine.acceptedBy hsignature hempty HashMap.empty ⟨exp, 0⟩ _
        ⟨hsigned, _, exp, hpayload, rfl, hvalidate⟩
      simp only [lookupDecodingKey, start, hkey]
  | @autoresolve claims issuer token jwks header decodingKey exp hnamed hheader hjwks hsigned
      hpayload =>
      have hvalidate : format.validate built.verifier.validation.toExpectations
          (bareClaims exp (some issuer)) exp = .ok () := by
        rw [hvalidation]
        apply validate_bareClaims hclaims hrequired exp
        rintro configured named hconfigured ⟨⟩
        exact hnamed configured (hissuer ▸ hconfigured)
      refine ⟨token, exp, some issuer, ?_, hpayload, fun hne => absurd rfl hne⟩
      -- the key set of the issuer is in the cache
      apply Genuine.acceptedBy hsignature hempty (HashMap.empty.insert issuer ⟨jwks, 0, 0⟩)
        ⟨exp, 0⟩ _ ⟨hsigned, _, exp, hpayload, rfl, hvalidate⟩
      obtain rfl := hauto rfl
      rcases hmode with ⟨_, hnone, hresolver, _⟩ | ⟨hoff, _⟩
      · have hdecode : format.decode StandardClaims.deserialize
            built.verifier.validation.insecureDisableSignatureValidation (.fromSecret "unused")
            token exp = .ok (header, ⟨some issuer, none, none, exp, none, none, none⟩) :=
          hsignature.decode_disabled hheader hpayload rfl hvalidate
        simp [lookupDecodingKey, start, hnone, hresolver, tokenIssuer, hdecode,
          KeyResolver.getCachedKey, hjwks, Except.mapError, Machine.bind_ok]
      · cases hoff

/-- The issuer and the audience are compared with what an accepted token carries, and an issuer by
    which its key was found is there.  So the tokens have the configured identity where nothing
    else is configured, and only there, as soon as somebody signs a token without it. -/
theorem accepted_identifies_iff (hsignature : format.ChecksSignature)
    (hclaims : format.ComparesClaims) (hlayer : config.getServerLayer format files = .ok built) :
    (∀ token, AcceptedBy format built token →
      ∃ payload, format.payload token = some payload ∧ Enforced config payload) ∧
      (Enforceable config → AllIdentified format built config.claims) ∧
      (SignsBare format built config → AllIdentified format built config.claims →
        Enforceable config) := by
  refine ⟨?_, ?_, ?_⟩
  · intro token haccepted
    exact haccepted.enforced hsignature hclaims hlayer
  · rintro ⟨hissuer, haudience, hsubject⟩ token payload haccepted hpayload
    obtain ⟨own, hown, henforced⟩ := haccepted.enforced hsignature hclaims hlayer
    rw [hpayload] at hown
    cases hown
    refine ⟨?_, by simp [haudience], by simp [hsubject]⟩
    intro issuer hconfigured
    rcases hissuer with hnone | hkey
    · rw [hnone] at hconfigured
      cases hconfigured
    · exact henforced.named issuer hconfigured hkey
  · intro hsigns hall
    obtain ⟨token, exp, issuer, haccepted, hpayload, hunnamed⟩ :=
      hsigns.exists_accepted hsignature hclaims hlayer
    have hidentifies := hall token _ haccepted hpayload
    refine ⟨?_, ?_, ?_⟩
    · by_contra hneither
      rw [not_or] at hneither
      obtain ⟨hsome, hkey⟩ := hneither
      obtain ⟨configured, hconfigured⟩ := Option.ne_none_iff_exists'.mp hsome
      have hclaim := hidentifies.issuer configured hconfigured
      rw [hunnamed hkey] at hclaim
      cases hclaim
    · rw [Option.eq_none_iff_forall_ne_some]
      intro audience hconfigured
      obtain ⟨names, hnames, _⟩ := hidentifies.audience audience hconfigured
      cases hnames
    · rw [Option.eq_none_iff_forall_ne_some]
      intro subject hconfigured
      cases hidentifies.subject subject hconfigured

end Identity

/-- A configuration with an issuer, an audience and a subject. -/
def strictConfig : Config :=
  ⟨⟨some "audience", some "issuer", some "client"⟩, .decoding ⟨.HS256, .pem "secret"⟩⟩

def strictBuilt : Built where
  verifier := (VerifierJwt.new (strictConfig.builder.publicKey
    ⟨.HS256, .pem "secret"⟩).buildValidation).withDecodingKey (.fromSecret "secret")
  watched := none

/-- Tokens that are signed with the key: with the configured claims, with those of someone else,
    and with none. -/
def strictFormat : TokenFormat :=
  sampleFormat [
    ("h.full.s", .HS256, (List.lookup · [("exp", .number 1700003600), ("iss", .text "issuer"),
      ("aud", .texts ["audience"]), ("sub", .text "client")])),
    ("h.other.s", .HS256,
      (List.lookup · [("exp", .number 1700003600), ("sub", .text "elsewhere")])),
    ("h.bare.s", .HS256, bareClaims 1700003600 none)] (.fromSecret "secret")

theorem getServerLayer_strictConfig :
    strictConfig.getServerLayer strictFormat (fun _ => none) = .ok strictBuilt := rfl

/-- The verifier of the configuration, before any call. -/
def strictStart : VerifierState := start strictBuilt HashMap.empty sampleClock

theorem reached_strictStart : strictStart.Reached strictFormat strictBuilt :=
  ⟨HashMap.empty, sampleClock, [], rfl⟩

theorem unidentified_token_accepted :
    strictFormat.ChecksSignature ∧ strictFormat.ComparesClaims ∧
      strictConfig.getServerLayer strictFormat (fun _ => none) = .ok strictBuilt ∧
      strictStart.Reached strictFormat strictBuilt ∧
      strictStart.Accepts strictFormat (.tryVerify "h.other.s" some) "h.other.s" ∧
      ∀ payload, strictFormat.payload "h.other.s" = some payload →
        payload "iss" = none ∧ payload "aud" = none ∧ payload "sub" ≠ some (.text "client") ∧
          ¬ Identifies strictConfig.claims payload := by
  refine ⟨TokenParts.checksSignature_format _, TokenParts.comparesClaims_format _,
    getServerLayer_strictConfig, reached_strictStart, ⟨_, rfl⟩, ?_⟩
  intro payload hpayload
  cases hpayload
  refine ⟨rfl, rfl, by decide, ?_⟩
  intro hidentifies
  cases hidentifies.issuer "issuer" rfl

theorem signsBare_strictFormat : SignsBare strictFormat strictBuilt strictConfig :=
  have hsigned : SignedBy strictFormat "h.bare.s" (.fromSecret "secret") :=
    ⟨rfl, ⟨.HS256, none⟩, rfl, rfl⟩
  .decoding rfl hsigned rfl

theorem accepted_identifies_sample :
    AcceptedBy strictFormat strictBuilt "h.full.s" ∧
      (∃ payload, strictFormat.payload "h.full.s" = some payload ∧
        Enforced strictConfig payload) ∧
      ¬ AllIdentified strictFormat strictBuilt strictConfig.claims := by
  have haccepted : AcceptedBy strictFormat strictBuilt "h.full.s" :=
    ⟨strictStart, .tryVerify "h.full.s" some, reached_strictStart, _, rfl⟩
  obtain ⟨henforced, _, hnecessary⟩ := accepted_identifies_iff (TokenParts.checksSignature_format _)
    (TokenParts.comparesClaims_format _) getServerLayer_strictConfig
  refine ⟨haccepted, henforced _ haccepted, fun hall => ?_⟩
  cases (hnecessary signsBare_strictFormat hall).2.1

end VerifierState

end Slim.Auth
