import Slim.JwtRuns

/-!
# Verifiers on a decoding key

A verifier that is built on a public key, whose file may be rewritten while it runs.  A token
that was verified stays in the cache until it expires, whatever becomes of the key; and the
algorithm of a token is compared with the key's family only.
-/

namespace Slim.Auth

open Jsonwebtoken VerifierJwt

/-- The claims of a token that has an expiry and at most an issuer besides. -/
def bareClaims (exp : Nat) (issuer : Option String) : Payload
  | "exp" => some (.number exp)
  | "iss" => issuer.map .text
  | _ => none

/-- Tokens for the samples, each with the algorithm of its header and its claims.  One key has
    signed them. -/
def sampleFormat (tokens : List (String × Algorithm × Payload)) (signer : DecodingKey) :
    TokenFormat :=
  TokenParts.format {
    header := fun token => (tokens.lookup token).map fun found => ⟨found.1, none⟩
    payload := fun token => (tokens.lookup token).map Prod.snd
    verify := fun token key => (tokens.lookup token).isSome && decide (key = signer) }

/-- Distinct keys do not both validate a token. -/
def OneSigner (format : TokenFormat) : Prop :=
  ∀ token first second, format.verify token first = true → format.verify token second = true →
    first = second

theorem oneSigner_sampleFormat (tokens : List (String × Algorithm × Payload))
    (signer : DecodingKey) : OneSigner (sampleFormat tokens signer) := by
  intro token first second hfirst hsecond
  simp only [sampleFormat, TokenParts.format, Bool.and_eq_true, decide_eq_true_eq] at hfirst hsecond
  rw [hfirst.2, hsecond.2]

namespace VerifierState

/-- A verifier on a decoding key: the key in force and all that were used are of the family of
    the configured algorithm. -/
structure Keyed (algorithm : Algorithm) (s : VerifierState) : Prop where
  inForce : ∃ key, s.verifier.decodingKey = some key ∧ key.family = algorithm.family
  watched : ∀ key, s.watched = some key → key.algorithm = algorithm
  checks : ∀ check ∈ s.checks, check.key.family = algorithm.family

section Keys

variable {format : TokenFormat} {builder : JwtBuilder} {key : Key} {files : Files} {built : Built}
  {s : VerifierState} {event : AuthEvent} {token : String}

theorem Keyed.change {algorithm : Algorithm} {after : VerifierState} (hkeyed : s.Keyed algorithm)
    (hchange : s.Change format after) : after.Keyed algorithm := by
  have heffect := hchange.keyEffect
  obtain ⟨current, hcurrent, hfamily⟩ := hkeyed.inForce
  constructor
  case inForce =>
    rcases heffect.inForce with hsame | ⟨key, decodingKey, hwatched, hbuilt, hnew⟩
    · exact ⟨current, hsame.trans hcurrent, hfamily⟩
    · rw [hkeyed.watched key hwatched] at hbuilt
      exact ⟨decodingKey, hnew, hbuilt⟩
  case watched =>
    intro key hwatched
    exact hkeyed.watched key (heffect.watched key hwatched)
  case checks =>
    intro check hcheck
    rcases heffect.checks check hcheck with hold | hnew
    · exact hkeyed.checks check hold
    · rw [hnew.key_eq hcurrent]
      exact hfamily

theorem Reached.keyed (hsignature : format.ChecksSignature)
    (hbuilt : (builder.publicKey key).build format files = .ok built)
    (hreached : s.Reached format built) : s.Keyed key.algorithm := by
  apply hreached.invariant hsignature hbuilt
  · intro jwksCache clock
    obtain ⟨_, _, hmode⟩ := JwtBuilder.WithPublicKey.build_eq_ok hbuilt
    rcases hmode with ⟨hauto, _⟩ | ⟨_, _, own, decodingKey, hown, hcurrent, hfamily, hwatched⟩
    · cases hauto
    · cases hown
      refine ⟨⟨decodingKey, hcurrent, hfamily⟩, ?_, by simp [start]⟩
      intro watched hsome
      rw [hwatched watched hsome]
  · intro before after
    exact Keyed.change

/-! ## Rotation of the key -/

/-- The token was accepted under a key that is no longer in force. -/
def Stale (s : VerifierState) (token : String) : Prop :=
  ∃ check ∈ s.checks, check.token = token ∧ s.verifier.decodingKey ≠ some check.key

/-- Whenever a call accepts a token, its time and what it says of its issuer and its audience
    pass at that time; its signature is valid under the key in force exactly when the token was
    not accepted earlier under another key. -/
theorem signed_by_current_iff (hsignature : format.ChecksSignature)
    (hclaims : format.ComparesClaims) (hsigner : OneSigner format)
    (hbuilt : (builder.publicKey key).build format files = .ok built)
    (hreached : s.Reached format built) (haccepts : s.Accepts format event token) :
    ∃ current payload, s.verifier.decodingKey = some current ∧
      format.payload token = some payload ∧
      format.Compared (builder.publicKey key).buildValidation.toExpectations payload
        s.clock.seconds ∧
      (format.verify token current = true ↔ ¬ s.Stale token) := by
  have haudited := hreached.audited hsignature hbuilt
  have hadmitted := haudited.admitted hsignature (by simp) haccepts
  obtain ⟨current, hcurrent, _⟩ := (hreached.keyed hsignature hbuilt).inForce
  obtain ⟨payload, hpayload, hvalidate⟩ := hadmitted.passes
  refine ⟨current, payload, hcurrent, hpayload, hclaims.compared hvalidate, ?_⟩
  constructor
  · rintro hvalid ⟨earlier, hearlier, htoken, hother⟩
    have hsigned := (haudited.signed earlier hearlier).valid
    rw [htoken] at hsigned
    apply hother
    rw [hcurrent, hsigner token current earlier.key hvalid hsigned]
  · intro hfresh
    obtain ⟨check, hcheck, htoken, hsince⟩ := hadmitted.check
    have hsame : s.verifier.decodingKey = some check.key := by
      rcases hsince with hearlier | hnone | hnow
      · by_contra hother
        exact hfresh ⟨check, hearlier, htoken, hother⟩
      · rw [hcurrent] at hnone
        cases hnone
      · exact hnow
    rw [hcurrent] at hsame
    cases hsame
    rw [← htoken]
    exact (((hreached.step event).audited hsignature hbuilt).signed check hcheck).valid

end Keys

/-! A key in a file, which is rewritten after a token was verified. -/

def sampleKey : Key := ⟨.HS256, .file "key.pem"⟩

def sampleBuilt : Built where
  verifier := (VerifierJwt.new (JwtBuilder.new.publicKey sampleKey).buildValidation).withDecodingKey
    (.fromSecret "old")
  watched := some sampleKey

/-- Tokens signed with the first key, one for each algorithm of its family. -/
def signedOld : TokenFormat :=
  sampleFormat [("h256.p.s", .HS256, bareClaims 1700003600 none),
    ("h384.p.s", .HS384, bareClaims 1700003600 none),
    ("h512.p.s", .HS512, bareClaims 1700003600 none)] (.fromSecret "old")

/-- The time of the samples, an hour before their tokens expire. -/
def sampleClock : Clock := ⟨1700000000, 0⟩

/-- After the given events, on a new verifier. -/
def sampleRun (events : List AuthEvent) : VerifierState :=
  Runs.run (step signedOld) (start sampleBuilt HashMap.empty sampleClock) events

/-- The token was verified. -/
def verified : VerifierState := sampleRun [.tryVerify "h256.p.s" some]

/-- The token was verified, and then the file of the key was rewritten. -/
def rotated : VerifierState :=
  sampleRun [.tryVerify "h256.p.s" some, .keyFileModified fun _ => some "new"]

theorem reached_sampleRun (events : List AuthEvent) :
    (sampleRun events).Reached signedOld sampleBuilt :=
  ⟨HashMap.empty, sampleClock, events, rfl⟩

theorem build_sampleBuilt :
    (JwtBuilder.new.publicKey sampleKey).build signedOld (fun _ => some "old") =
      .ok sampleBuilt := rfl

theorem cached_token_outlives_key :
    signedOld.ChecksSignature ∧ signedOld.ComparesClaims ∧ OneSigner signedOld ∧
      (JwtBuilder.new.publicKey sampleKey).build signedOld (fun _ => some "old") =
        .ok sampleBuilt ∧
      rotated.Reached signedOld sampleBuilt ∧
      rotated.Accepts signedOld (.tryVerify "h256.p.s" some) "h256.p.s" ∧
      rotated.verifier.decodingKey = some (.fromSecret "new") ∧
      signedOld.verify "h256.p.s" (.fromSecret "new") = false := by
  refine ⟨TokenParts.checksSignature_format _, TokenParts.comparesClaims_format _,
    oneSigner_sampleFormat _ _, build_sampleBuilt, reached_sampleRun _, ⟨_, rfl⟩, rfl, ?_⟩
  decide

theorem signed_by_current_sample :
    verified.Accepts signedOld (.verify "h256.p.s" some) "h256.p.s" ∧
      ∃ current payload, verified.verifier.decodingKey = some current ∧
        signedOld.payload "h256.p.s" = some payload ∧
        signedOld.Compared (JwtBuilder.new.publicKey sampleKey).buildValidation.toExpectations
          payload verified.clock.seconds ∧
        (signedOld.verify "h256.p.s" current = true ↔ ¬ verified.Stale "h256.p.s") := by
  have haccepts : verified.Accepts signedOld (.verify "h256.p.s" some) "h256.p.s" := ⟨_, rfl⟩
  refine ⟨haccepts, ?_⟩
  exact signed_by_current_iff (TokenParts.checksSignature_format _)
    (TokenParts.comparesClaims_format _) (oneSigner_sampleFormat _ _) build_sampleBuilt
    (reached_sampleRun _) haccepts

/-! ## The algorithm of a token -/

section Algorithms

variable {format : TokenFormat} {builder : JwtBuilder} {key : Key} {files : Files} {built : Built}
  {s : VerifierState} {event : AuthEvent} {token : String}

/-- Every token that is accepted names this algorithm in its header. -/
def Pinned (format : TokenFormat) (built : Built) (algorithm : Algorithm) : Prop :=
  ∀ token, AcceptedBy format built token →
    ∃ header, format.decodeHeader token = .ok header ∧ header.alg = algorithm

/-- With the key that the verifier was built on, somebody signs with each algorithm of a family
    a token that is genuine at some time. -/
def SignsWithAll (format : TokenFormat) (built : Built) (family : AlgorithmFamily) : Prop :=
  ∀ algorithm : Algorithm, algorithm.family = family → ∃ key token header now,
    built.verifier.decodingKey = some key ∧ format.decodeHeader token = .ok header ∧
      header.alg = algorithm ∧ Genuine format built.verifier.validation key token now

/-- An accepted token names an algorithm of the configured family. -/
theorem AcceptedBy.family_eq (hsignature : format.ChecksSignature)
    (halgorithm : format.ChecksAlgorithm)
    (hbuilt : (builder.publicKey key).build format files = .ok built)
    (haccepted : AcceptedBy format built token) :
    ∃ header, format.decodeHeader token = .ok header ∧
      header.alg.family = key.algorithm.family := by
  obtain ⟨s, event, hreached, haccepts⟩ := haccepted
  have hadmitted := (hreached.audited hsignature hbuilt).admitted hsignature (by simp) haccepts
  obtain ⟨check, hcheck, rfl, _⟩ := hadmitted.check
  have hafter := hreached.step event
  have hsigned := (hafter.audited hsignature hbuilt).signed check hcheck
  obtain ⟨header, hheader, hfamily⟩ := hsigned.family halgorithm
  rw [(hafter.keyed hsignature hbuilt).checks check hcheck] at hfamily
  exact ⟨header, hheader, hfamily.symm⟩

/-- An accepted token names an algorithm of the configured family, and so the configured one where
    the family has no other.  Where it has others they are accepted as well, as soon as somebody
    uses them. -/
theorem accepted_algorithm_iff (hsignature : format.ChecksSignature)
    (halgorithm : format.ChecksAlgorithm)
    (hbuilt : (builder.publicKey key).build format files = .ok built) :
    (∀ token, AcceptedBy format built token →
      ∃ header, format.decodeHeader token = .ok header ∧
        header.alg.family = key.algorithm.family) ∧
      (key.algorithm = .EdDSA → Pinned format built key.algorithm) ∧
      (SignsWithAll format built key.algorithm.family →
        Pinned format built key.algorithm → key.algorithm = .EdDSA) := by
  refine ⟨?_, ?_, ?_⟩
  · intro token haccepted
    exact haccepted.family_eq hsignature halgorithm hbuilt
  · intro hed token haccepted
    obtain ⟨header, hheader, hfamily⟩ := haccepted.family_eq hsignature halgorithm hbuilt
    rw [hed] at hfamily ⊢
    exact ⟨header, hheader, Algorithm.eq_edDSA_of_family hfamily⟩
  · intro hsigns hpinned
    by_contra hne
    obtain ⟨other, hother, hfamily⟩ := Algorithm.exists_ne_of_ne_edDSA hne
    obtain ⟨decodingKey, token, header, now, hkey, hheader, rfl, hgenuine⟩ := hsigns other hfamily
    obtain ⟨_, hempty, _⟩ := JwtBuilder.WithPublicKey.build_eq_ok hbuilt
    have haccepted : AcceptedBy format built token := by
      apply Genuine.acceptedBy hsignature hempty HashMap.empty ⟨now, 0⟩ _ hgenuine
      simp [lookupDecodingKey, start, hkey]
    obtain ⟨found, hfound, hsame⟩ := hpinned token haccepted
    rw [hheader] at hfound
    cases hfound
    exact hother hsame

end Algorithms

theorem other_algorithm_accepted :
    signedOld.ChecksSignature ∧ signedOld.ChecksAlgorithm ∧
      (JwtBuilder.new.publicKey sampleKey).build signedOld (fun _ => some "old") =
        .ok sampleBuilt ∧
      (start sampleBuilt HashMap.empty sampleClock).Reached signedOld sampleBuilt ∧
      (start sampleBuilt HashMap.empty sampleClock).Accepts signedOld
        (.tryVerify "h512.p.s" some) "h512.p.s" ∧
      signedOld.decodeHeader "h512.p.s" = .ok ⟨.HS512, none⟩ ∧ sampleKey.algorithm = .HS256 :=
  ⟨TokenParts.checksSignature_format _, TokenParts.checksAlgorithm_format _, build_sampleBuilt,
    reached_sampleRun [], ⟨_, rfl⟩, rfl, rfl⟩

theorem genuine_signedOld (token : String) {algorithm : Algorithm}
    (hheader : signedOld.decodeHeader token = .ok ⟨algorithm, none⟩)
    (hpayload : signedOld.payload token = some (bareClaims 1700003600 none))
    (hsigned : SignedBy signedOld token (.fromSecret "old")) :
    ∃ key found header now, sampleBuilt.verifier.decodingKey = some key ∧
      signedOld.decodeHeader found = .ok header ∧ header.alg = algorithm ∧
      Genuine signedOld sampleBuilt.verifier.validation key found now :=
  ⟨.fromSecret "old", token, ⟨algorithm, none⟩, sampleClock.seconds, rfl, hheader, rfl, hsigned,
    _, _, hpayload, rfl, rfl⟩

theorem signsWithAll_signedOld : SignsWithAll signedOld sampleBuilt .Hmac := by
  intro algorithm hfamily
  cases algorithm with
  | HS256 => exact genuine_signedOld "h256.p.s" rfl rfl ⟨rfl, ⟨.HS256, none⟩, rfl, rfl⟩
  | HS384 => exact genuine_signedOld "h384.p.s" rfl rfl ⟨rfl, ⟨.HS384, none⟩, rfl, rfl⟩
  | HS512 => exact genuine_signedOld "h512.p.s" rfl rfl ⟨rfl, ⟨.HS512, none⟩, rfl, rfl⟩
  | _ => cases hfamily

theorem accepted_algorithm_sample :
    SignsWithAll signedOld sampleBuilt sampleKey.algorithm.family ∧
      ¬ Pinned signedOld sampleBuilt sampleKey.algorithm := by
  refine ⟨signsWithAll_signedOld, fun hpinned => ?_⟩
  obtain ⟨_, _, hnecessary⟩ := accepted_algorithm_iff (TokenParts.checksSignature_format _)
    (TokenParts.checksAlgorithm_format _) build_sampleBuilt
  cases hnecessary signsWithAll_signedOld hpinned

end VerifierState

end Slim.Auth
