import Mathlib.Logic.Relation
import Slim.JwtBuilder
import Slim.Runs

/-!
# Runs of a verifier

A verifier with all that happens to it: calls of `try_verify` and `verify`, the arrival of a
key set that a call waits for, the watcher of the key file, and the clock.  A call is not
interrupted but where it waits for a key set.  The state records the signature checks that
succeeded, with the key set their key came from.  Every token that is accepted has such a
check on record; what a check says about its key depends on how the verifier was built.
-/

namespace Slim.Auth

open Jsonwebtoken VerifierJwt

/-- A `verify` call that waits for the key set of an issuer. -/
structure Fetch where
  token : String
  read : Payload → Option Payload
  issuer : String
  header : Header

/-- A signature check that succeeded.  The source of its key is an issuer and the key set that
    it published, or nothing when the key was the configured one. -/
structure Check where
  token : String
  key : DecodingKey
  source : Option (String × JwkSet)

structure VerifierState where
  verifier : VerifierJwt
  watched : Option Key
  clock : Clock
  fetching : List Fetch
  /-- The key sets that were got from each issuer. -/
  published : List (String × JwkSet)
  checks : List Check

inductive AuthEvent where
  | tryVerify (token : String) (read : Payload → Option Payload)
  | verify (token : String) (read : Payload → Option Payload)
  | fetched (index : Nat) (answer : Except AuthError JwkSet)
  | keyFileModified (files : Files)
  | advance (seconds instant : Nat)

/-- What a call returns for its token, if a call returns. -/
abbrev AuthReply := Option (String × Except AuthError Payload)

namespace VerifierState

/-- A verifier that was just built, with any key sets in its resolver's cache. -/
def start (built : Built) (jwksCache : HashMap String JwksCache) (clock : Clock) :
    VerifierState where
  verifier := { built.verifier with
    keyResolver := built.verifier.keyResolver.map fun resolver =>
      { resolver with jwksCache := jwksCache } }
  watched := built.watched
  clock := clock
  fetching := []
  published := jwksCache.entries.map fun entry => (entry.1, entry.2.jwks)
  checks := []

def publish (s : VerifierState) (issuer : String) (jwks : JwkSet) : VerifierState :=
  { s with
    verifier := { s.verifier with
      keyResolver := s.verifier.keyResolver.map fun resolver =>
        resolver.storeJwks s.clock.instant issuer jwks }
    published := (issuer, jwks) :: s.published }

def record (s : VerifierState) (verifier : VerifierJwt) (check : Check) : VerifierState :=
  { s with verifier := verifier, checks := check :: s.checks }

section Steps

variable (format : TokenFormat)

/-- The end of a call, once its key is found. -/
def finish (s : VerifierState) (token : String) (read : Payload → Option Payload)
    (key : DecodingKey) (source : Option (String × JwkSet)) : AuthReply × VerifierState :=
  match s.verifier.verifyInternal format read s.clock token key with
  | .ok (claims, verifier) => (some (token, .ok claims), s.record verifier ⟨token, key, source⟩)
  | .error error => (some (token, .error error), s)

def handle (s : VerifierState) : AuthEvent → AuthReply × VerifierState
  | .tryVerify token read =>
    match s.verifier.getCachedClaims format read s.clock token with
    | some claims => (some (token, .ok claims), s)
    | none =>
      match s.verifier.lookupDecodingKey format s.clock token with
      | .ok key => s.finish format token read key (s.verifier.keySource format s.clock token)
      | .error error => (some (token, .error error), s)
  | .verify token read =>
    match s.verifier.getCachedClaims format read s.clock token with
    | some claims => (some (token, .ok claims), s)
    | none =>
      match s.verifier.resolveDecodingKey format s.clock token with
      | .ok (.key key) => s.finish format token read key (s.verifier.keySource format s.clock token)
      | .ok (.fetch issuer header) =>
        (none, { s with fetching := s.fetching ++ [⟨token, read, issuer, header⟩] })
      | .error error => (some (token, .error error), s)
  | .fetched index answer =>
    match s.fetching[index]? with
    | none => (none, s)
    | some fetch =>
      let s := { s with fetching := s.fetching.eraseIdx index }
      match answer with
      | .error error => (some (fetch.token, .error error), s)
      | .ok jwks =>
        let s := s.publish fetch.issuer jwks
        match KeyResolver.getDecodedKeyFromJwks jwks fetch.header with
        | .ok key => s.finish format fetch.token fetch.read key (some (fetch.issuer, jwks))
        | .error error => (some (fetch.token, .error error), s)
  | .keyFileModified files =>
    match s.watched with
    | none => (none, s)
    | some key =>
      match JwtBuilder.buildInternal format files key with
      | .ok decodingKey =>
        (none, { s with verifier := { s.verifier with decodingKey := some decodingKey } })
      -- The callback panics, which ends the task that watches the file.
      | .error _ => (none, { s with watched := none })
  | .advance seconds instant =>
    (none, { s with clock := ⟨s.clock.seconds + seconds, s.clock.instant + instant⟩ })

def step (s : VerifierState) (event : AuthEvent) : VerifierState := (s.handle format event).2

/-- The event completes a call that accepts the token. -/
def Accepts (s : VerifierState) (event : AuthEvent) (token : String) : Prop :=
  ∃ claims, (s.handle format event).1 = some (token, .ok claims)

/-! ## What a step can do -/

/-- What the key of a check is: the decoding key in force, or a key from a key set that was got
    from the issuer the token names. -/
inductive CheckedAgainst (s : VerifierState) (token : String) (key : DecodingKey) :
    Option (String × JwkSet) → Prop
  | configured (hkey : s.verifier.decodingKey = some key) : CheckedAgainst s token key none
  | issued {issuer : String} {jwks : JwkSet} {header : Header}
      (hkey : s.verifier.decodingKey = none) (hissuer : NamesIssuer format token issuer)
      (hheader : format.decodeHeader token = .ok header)
      (hpublished : (issuer, jwks) ∈ s.published)
      (hjwks : KeyResolver.getDecodedKeyFromJwks jwks header = .ok key) :
      CheckedAgainst s token key (some (issuer, jwks))

/-- The changes a step is made of. -/
inductive Change (s : VerifierState) : VerifierState → Prop
  | advanced (clock : Clock) : Change s { s with clock := clock }
  | rekeyed {key : Key} {decodingKey : DecodingKey} (hwatched : s.watched = some key)
      (hfamily : decodingKey.family = key.algorithm.family) :
      Change s { s with verifier := { s.verifier with decodingKey := some decodingKey } }
  | unwatched : Change s { s with watched := none }
  | waiting {fetch : Fetch} (hkey : s.verifier.decodingKey = none)
      (hissuer : NamesIssuer format fetch.token fetch.issuer)
      (hheader : format.decodeHeader fetch.token = .ok fetch.header) :
      Change s { s with fetching := s.fetching ++ [fetch] }
  | resumed (index : Nat) : Change s { s with fetching := s.fetching.eraseIdx index }
  | published (issuer : String) (jwks : JwkSet) : Change s (s.publish issuer jwks)
  | checked {token : String} {key : DecodingKey} {source : Option (String × JwkSet)} (expiry : Nat)
      (hsigned : SignedBy format token key) (hsource : s.CheckedAgainst format token key source) :
      Change s (s.record (s.verifier.cache token expiry) ⟨token, key, source⟩)

/-- What a change does to the keys: the key in force is replaced only by one that was read from
    the watched file, and a new check was made with a key that was at hand. -/
structure KeyEffect (s after : VerifierState) : Prop where
  inForce : after.verifier.decodingKey = s.verifier.decodingKey ∨
    ∃ key decodingKey, s.watched = some key ∧ decodingKey.family = key.algorithm.family ∧
      after.verifier.decodingKey = some decodingKey
  watched : ∀ key, after.watched = some key → s.watched = some key
  checks : ∀ check ∈ after.checks,
    check ∈ s.checks ∨ s.CheckedAgainst format check.token check.key check.source

/-- What is known of the source of a check's key. -/
def Issued (s : VerifierState) (check : Check) (issuer : String) (jwks : JwkSet) : Prop :=
  (issuer, jwks) ∈ s.published ∧ NamesIssuer format check.token issuer ∧
    ∃ header, format.decodeHeader check.token = .ok header ∧
      KeyResolver.getDecodedKeyFromJwks jwks header = .ok check.key

/-- The invariant of every run: each cached token has a check on record, and each check was
    made with a valid signature and a key of the source it names. -/
structure Audited (validation : Validation) (s : VerifierState) : Prop where
  validation : s.verifier.validation = validation
  cached : ∀ token, s.verifier.tokenCache.contains token = true →
    ∃ check ∈ s.checks, check.token = token
  signed : ∀ check ∈ s.checks, SignedBy format check.token check.key
  issued : ∀ check ∈ s.checks, ∀ issuer jwks, check.source = some (issuer, jwks) →
    s.Issued format check issuer jwks
  jwks : ∀ resolver, s.verifier.keyResolver = some resolver →
    ∀ issuer entry, resolver.jwksCache.get? issuer = some entry →
      (issuer, entry.jwks) ∈ s.published
  waiting : ∀ fetch ∈ s.fetching,
    NamesIssuer format fetch.token fetch.issuer ∧
      format.decodeHeader fetch.token = .ok fetch.header ∧ s.verifier.decodingKey = none
  watching : ∀ key, s.watched = some key → s.verifier.decodingKey ≠ none

variable {format}

theorem CheckedAgainst.key_eq {s : VerifierState} {token : String} {key current : DecodingKey}
    {source : Option (String × JwkSet)} (hagainst : s.CheckedAgainst format token key source)
    (hcurrent : s.verifier.decodingKey = some current) : key = current := by
  cases hagainst with
  | configured hkey => exact Option.some.inj (hkey.symm.trans hcurrent)
  | issued hnone =>
      rw [hcurrent] at hnone
      cases hnone

theorem CheckedAgainst.source_ne_none {s : VerifierState} {token : String} {key : DecodingKey}
    {source : Option (String × JwkSet)} (hagainst : s.CheckedAgainst format token key source)
    (hnone : s.verifier.decodingKey = none) : source ≠ none := by
  cases hagainst with
  | configured hkey =>
      rw [hnone] at hkey
      cases hkey
  | issued => simp

theorem Change.keyEffect {s after : VerifierState} (hchange : s.Change format after) :
    s.KeyEffect format after := by
  cases hchange with
  | rekeyed hwatched hfamily =>
      exact ⟨.inr ⟨_, _, hwatched, hfamily, rfl⟩, fun _ => id, fun _ => .inl⟩
  | unwatched =>
      refine ⟨.inl rfl, ?_, fun _ => .inl⟩
      simp
  | checked expiry hsigned hsource =>
      refine ⟨.inl rfl, fun _ => id, ?_⟩
      intro check hcheck
      rcases List.mem_cons.mp hcheck with rfl | hold
      · exact .inr hsource
      · exact .inl hold
  | _ => exact ⟨.inl rfl, fun _ => id, fun _ => .inl⟩

theorem Issued.of_subset {s after : VerifierState} {check : Check} {issuer : String} {jwks : JwkSet}
    (hissued : s.Issued format check issuer jwks) (hsubset : s.published ⊆ after.published) :
    after.Issued format check issuer jwks :=
  ⟨hsubset hissued.1, hissued.2⟩

section Audited

variable {validation : Validation} {s after : VerifierState}

theorem Audited.publish (haudited : s.Audited format validation) (issuer : String)
    (jwks : JwkSet) : (s.publish issuer jwks).Audited format validation := by
  refine ⟨haudited.validation, haudited.cached, haudited.signed, ?_, ?_, haudited.waiting,
    haudited.watching⟩
  · intro check hcheck named set hsource
    have hissued := haudited.issued check hcheck named set hsource
    exact hissued.of_subset (List.subset_cons_self ..)
  · intro resolver hresolver named entry hentry
    obtain ⟨before, hbefore, rfl⟩ := Option.map_eq_some_iff.mp hresolver
    simp only [KeyResolver.storeJwks, HashMap.get?_insert, key_string] at hentry
    split at hentry
    next hsame =>
      cases hentry
      rw [hsame]
      exact List.mem_cons_self ..
    next => exact List.mem_cons_of_mem _ (haudited.jwks before hbefore named entry hentry)

theorem CheckedAgainst.issued_of_source {check : Check} {issuer : String} {jwks : JwkSet}
    (hagainst : s.CheckedAgainst format check.token check.key check.source)
    (hsource : check.source = some (issuer, jwks)) : s.Issued format check issuer jwks := by
  rw [hsource] at hagainst
  cases hagainst with
  | issued _ hissuer hheader hpublished hjwks => exact ⟨hpublished, hissuer, _, hheader, hjwks⟩

/-- A token goes into the cache together with the record of its check. -/
theorem Audited.record (haudited : s.Audited format validation) (check : Check) (expiry : Nat)
    (hsigned : SignedBy format check.token check.key)
    (hagainst : s.CheckedAgainst format check.token check.key check.source) :
    (s.record (s.verifier.cache check.token expiry) check).Audited format validation := by
  refine ⟨haudited.validation, ?_, ?_, ?_, haudited.jwks, haudited.waiting, haudited.watching⟩
  · intro token hcontains
    simp only [VerifierState.record, VerifierJwt.cache, TokenCache.store, HashMap.contains_insert,
      key_string, Bool.or_eq_true, decide_eq_true_eq] at hcontains
    rcases hcontains with hsame | hbefore
    · exact ⟨check, List.mem_cons_self .., hsame.symm⟩
    · obtain ⟨earlier, hearlier, htoken⟩ := haudited.cached token hbefore
      exact ⟨earlier, List.mem_cons_of_mem _ hearlier, htoken⟩
  · intro other hother
    rcases List.mem_cons.mp hother with rfl | hold
    · exact hsigned
    · exact haudited.signed other hold
  · intro other hother issuer jwks hsource
    rcases List.mem_cons.mp hother with rfl | hold
    · exact hagainst.issued_of_source hsource
    · exact haudited.issued other hold issuer jwks hsource

theorem Audited.change (haudited : s.Audited format validation)
    (hchange : s.Change format after) : after.Audited format validation := by
  cases hchange with
  | published issuer jwks => exact haudited.publish issuer jwks
  | @checked token key source expiry hsigned hsource =>
      exact haudited.record ⟨token, key, source⟩ expiry hsigned hsource
  | advanced clock =>
      exact ⟨haudited.validation, haudited.cached, haudited.signed, haudited.issued,
        haudited.jwks, haudited.waiting, haudited.watching⟩
  | @rekeyed key decodingKey hwatched hfamily =>
      refine ⟨haudited.validation, haudited.cached, haudited.signed, haudited.issued,
        haudited.jwks, ?_, by simp⟩
      -- no call waits for a key set while a key file is watched
      intro fetch hfetch
      exact absurd (haudited.waiting fetch hfetch).2.2 (haudited.watching key hwatched)
  | unwatched =>
      exact ⟨haudited.validation, haudited.cached, haudited.signed, haudited.issued,
        haudited.jwks, haudited.waiting, by simp⟩
  | @waiting new hkey hissuer hheader =>
      refine ⟨haudited.validation, haudited.cached, haudited.signed, haudited.issued,
        haudited.jwks, ?_, haudited.watching⟩
      intro fetch hfetch
      rcases List.mem_append.mp hfetch with hold | hnew
      · exact haudited.waiting fetch hold
      · rw [List.mem_singleton.mp hnew]
        exact ⟨hissuer, hheader, hkey⟩
  | resumed index =>
      refine ⟨haudited.validation, haudited.cached, haudited.signed, haudited.issued,
        haudited.jwks, ?_, haudited.watching⟩
      intro fetch hfetch
      exact haudited.waiting fetch (List.mem_of_mem_eraseIdx hfetch)

end Audited

/-- An invariant of the changes holds after a whole step. -/
theorem invariant_of_changes {I : VerifierState → Prop}
    (hchange : ∀ s after, I s → s.Change format after → I after) {s after : VerifierState}
    (hchanges : Relation.ReflTransGen (Change format) s after) (hinit : I s) : I after := by
  induction hchanges with
  | refl => exact hinit
  | tail _ hlast ih => exact hchange _ _ ih hlast

section Audit

variable {validation : Validation} {s : VerifierState} {token : String} {key : DecodingKey}
  {source : Option (String × JwkSet)} {read : Payload → Option Payload}
  (hsignature : format.ChecksSignature)

theorem Audited.checkedAgainst (haudited : s.Audited format validation)
    (hkey : KeyAtHand format s.verifier token key source) :
    s.CheckedAgainst format token key source := by
  cases hkey with
  | configured hkey => exact .configured hkey
  | cached hnone hresolver hissuer hheader hentry hjwks =>
      exact .issued hnone hissuer hheader (haudited.jwks _ hresolver _ _ hentry) hjwks

include hsignature

theorem finish_changes (haudited : s.Audited format validation)
    (henabled : validation.signatureDisabled = false)
    (hsource : s.CheckedAgainst format token key source) :
    Relation.ReflTransGen (Change format) s (s.finish format token read key source).2 := by
  unfold finish
  split
  next claims verifier hok =>
    rw [← haudited.validation] at henabled
    obtain ⟨hsigned, _, expiry, rfl⟩ := verifyInternal_eq_ok hsignature henabled hok
    exact .single (.checked expiry hsigned hsource)
  next => exact .refl

/-- How an event ends: with a cached token, with a signature check in the state `last` that the
    event has led to, or without accepting anything. -/
inductive Outcome (format : TokenFormat) (s : VerifierState) : AuthReply × VerifierState → Prop
  | cached {token : String} {read : Payload → Option Payload} {claims : Payload}
      (hcached : s.verifier.getCachedClaims format read s.clock token = some claims) :
      Outcome format s (some (token, .ok claims), s)
  | finished {last : VerifierState} {token : String} {key : DecodingKey}
      {source : Option (String × JwkSet)} (read : Payload → Option Payload)
      (hchanges : Relation.ReflTransGen (Change format) s last) (hclock : last.clock = s.clock)
      (hkey : last.verifier.decodingKey = s.verifier.decodingKey)
      (hsource : last.CheckedAgainst format token key source) :
      Outcome format s (last.finish format token read key source)
  | refused {reply : AuthReply} {last : VerifierState}
      (hchanges : Relation.ReflTransGen (Change format) s last)
      (hreply : ∀ token claims, reply ≠ some (token, .ok claims)) :
      Outcome format s (reply, last)

theorem handle_outcome (haudited : s.Audited format validation) (event : AuthEvent) :
    s.Outcome format (s.handle format event) := by
  unfold handle
  cases event with
  | tryVerify token read =>
      dsimp only
      split
      next hcached => exact .cached hcached
      next =>
        split
        next key hkey =>
          have hsource := haudited.checkedAgainst (lookupDecodingKey_eq_ok hsignature hkey)
          exact .finished read .refl rfl rfl hsource
        next => exact .refused .refl (by simp)
  | verify token read =>
      dsimp only
      split
      next hcached => exact .cached hcached
      next =>
        split
        next key hkey =>
          rcases resolveDecodingKey_eq_ok hsignature hkey with ⟨found, heq, hfound⟩ | ⟨_, _, heq, _⟩
          · cases heq
            exact .finished read .refl rfl rfl (haudited.checkedAgainst hfound)
          · cases heq
        next issuer header hfetch =>
          rcases resolveDecodingKey_eq_ok hsignature hfetch with
            ⟨_, heq, _⟩ | ⟨_, _, heq, hissuer, hheader, hnone⟩
          · cases heq
          · cases heq
            exact .refused (.single (.waiting hnone hissuer hheader)) (by simp)
        next => exact .refused .refl (by simp)
  | fetched index answer =>
      dsimp only
      split
      next => exact .refused .refl (by simp)
      next fetch hfetch =>
        have hresumed : s.Change format { s with fetching := s.fetching.eraseIdx index } :=
          .resumed index
        split
        next => exact .refused (.single hresumed) (by simp)
        next jwks =>
          have hchanges := (Relation.ReflTransGen.single hresumed).tail
            (.published fetch.issuer jwks)
          split
          next key hkey =>
            obtain ⟨hissuer, hheader, hnone⟩ :=
              haudited.waiting fetch (List.mem_of_getElem? hfetch)
            apply Outcome.finished fetch.read hchanges rfl rfl
            exact .issued hnone hissuer hheader (List.mem_cons_self ..) hkey
          next => exact .refused hchanges (by simp)
  | keyFileModified files =>
      dsimp only
      split
      next => exact .refused .refl (by simp)
      next key hwatched =>
        split
        next decodingKey hbuilt =>
          have hfamily := JwtBuilder.family_buildInternal hbuilt
          exact .refused (.single (.rekeyed hwatched hfamily)) (by simp)
        next => exact .refused (.single .unwatched) (by simp)
  | advance seconds instant => exact .refused (.single (.advanced _)) (by simp)

/-- Every step is made of the changes above. -/
theorem step_changes (haudited : s.Audited format validation)
    (henabled : validation.signatureDisabled = false) (event : AuthEvent) :
    Relation.ReflTransGen (Change format) s (s.step format event) := by
  have houtcome := handle_outcome hsignature haudited event
  unfold step
  generalize s.handle format event = result at houtcome ⊢
  cases houtcome with
  | cached => exact .refl
  | finished read hchanges _ _ hsource =>
      have hlast := invariant_of_changes (fun _ _ => Audited.change) hchanges haudited
      exact hchanges.trans (finish_changes hsignature hlast henabled hsource)
  | refused hchanges => exact hchanges

/-! ## What an accepted token has -/

theorem finish_accepts {accepted : String} {claims : Payload}
    (haudited : s.Audited format validation) (henabled : validation.signatureDisabled = false)
    (hreply : (s.finish format token read key source).1 = some (accepted, .ok claims)) :
    accepted = token ∧ Passes format read validation token s.clock.seconds claims ∧
      ⟨token, key, source⟩ ∈ (s.finish format token read key source).2.checks := by
  unfold finish at hreply ⊢
  rw [← haudited.validation] at henabled ⊢
  split at hreply
  next found verifier hok =>
    cases hreply
    obtain ⟨_, hpasses, _⟩ := verifyInternal_eq_ok hsignature henabled hok
    exact ⟨rfl, hpasses, List.mem_cons_self ..⟩
  next => cases hreply

/-- An accepted token: its claims pass at the time of the call, and its signature was checked,
    in this call or in an earlier one. -/
structure Admitted (format : TokenFormat) (validation : Validation) (s : VerifierState)
    (token : String) (after : VerifierState) : Prop where
  passes : ∃ payload, format.payload token = some payload ∧
    format.validate validation.toExpectations payload s.clock.seconds = .ok ()
  check : ∃ check ∈ after.checks, check.token = token ∧
    (check ∈ s.checks ∨ s.verifier.decodingKey = none ∨ s.verifier.decodingKey = some check.key)

theorem Audited.admitted (haudited : s.Audited format validation)
    (henabled : validation.signatureDisabled = false) {event : AuthEvent}
    (haccepts : s.Accepts format event token) :
    Admitted format validation s token (s.step format event) := by
  obtain ⟨claims, hreply⟩ := haccepts
  have houtcome := handle_outcome hsignature haudited event
  unfold step
  generalize s.handle format event = result at houtcome hreply ⊢
  cases houtcome with
  | cached hcached =>
      cases hreply
      obtain ⟨hcontains, payload, hpayload, _, hvalidate⟩ :=
        getCachedClaims_eq_some hsignature hcached
      rw [haudited.validation] at hvalidate
      obtain ⟨check, hcheck, htoken⟩ := haudited.cached token hcontains
      exact ⟨⟨payload, hpayload, hvalidate⟩, check, hcheck, htoken, .inl hcheck⟩
  | @finished last _ key source read hchanges hclock hkey hsource =>
      have hlast := invariant_of_changes (fun _ _ => Audited.change) hchanges haudited
      obtain ⟨rfl, ⟨payload, hpayload, _, hvalidate⟩, hcheck⟩ :=
        finish_accepts hsignature hlast henabled hreply
      rw [hclock] at hvalidate
      refine ⟨⟨payload, hpayload, hvalidate⟩, _, hcheck, rfl, .inr ?_⟩
      rw [← hkey]
      cases hsource with
      | configured hconfigured => exact .inr hconfigured
      | issued hnone => exact .inl hnone
  | refused _ hrefused => exact absurd hreply (hrefused token claims)

/-! ## Runs -/

omit hsignature in
theorem audited_start {builder : JwtBuilder.WithPublicKey} {files : Files} {built : Built}
    (hbuilt : builder.build format files = .ok built) (jwksCache : HashMap String JwksCache)
    (clock : Clock) : (start built jwksCache clock).Audited format builder.buildValidation := by
  obtain ⟨hvalidation, hempty, hmode⟩ := JwtBuilder.WithPublicKey.build_eq_ok hbuilt
  constructor
  case validation => exact hvalidation
  case cached =>
    intro token hcontains
    simp [start, hempty] at hcontains
  case signed => simp [start]
  case issued => simp [start]
  case jwks =>
    intro resolver hresolver issuer entry hentry
    obtain ⟨before, _, rfl⟩ := Option.map_eq_some_iff.mp hresolver
    obtain ⟨stored, hkey, hmem⟩ := (HashMap.get?_eq_some_iff jwksCache issuer entry).mp hentry
    rw [key_string, key_string] at hkey
    rw [← hkey]
    exact List.mem_map.mpr ⟨(stored, entry), hmem, rfl⟩
  case waiting => simp [start]
  case watching =>
    intro key hwatched
    rcases hmode with ⟨_, _, _, hnone⟩ | ⟨_, _, _, _, _, hkey, _⟩
    · simp [start, hnone] at hwatched
    · simp [start, hkey]

/-- A run is made of changes, so that it keeps what every change keeps. -/
theorem run_changes (haudited : s.Audited format validation)
    (henabled : validation.signatureDisabled = false) (events : List AuthEvent) :
    Relation.ReflTransGen (Change format) s (Runs.run (step format) s events) := by
  have hstep : ∀ now event, now.Audited format validation ∧
      Relation.ReflTransGen (Change format) s now → True →
      (now.step format event).Audited format validation ∧
        Relation.ReflTransGen (Change format) s (now.step format event) := by
    rintro now event ⟨hnow, hchanges⟩ _
    have hevent := step_changes hsignature hnow henabled event
    exact ⟨invariant_of_changes (fun _ _ => Audited.change) hevent hnow, hchanges.trans hevent⟩
  have hfree : Runs.Along (step format) (fun _ _ => True) s events :=
    Runs.along_of_forall events s (fun _ _ => trivial)
  exact (Runs.run_invariant hstep events s hfree ⟨haudited, .refl⟩).2

/-- The states of the runs of a verifier, whatever key sets its resolver starts with. -/
def Reached (format : TokenFormat) (built : Built) (s : VerifierState) : Prop :=
  ∃ jwksCache clock events, s = Runs.run (step format) (start built jwksCache clock) events

/-- A call of some run accepts the token. -/
def AcceptedBy (format : TokenFormat) (built : Built) (token : String) : Prop :=
  ∃ (s : VerifierState) (event : AuthEvent), s.Reached format built ∧ s.Accepts format event token

omit hsignature in
theorem Reached.step {built : Built} (hreached : s.Reached format built) (event : AuthEvent) :
    (s.step format event).Reached format built := by
  obtain ⟨jwksCache, clock, events, rfl⟩ := hreached
  exact ⟨jwksCache, clock, events ++ [event], (Runs.run_concat ..).symm⟩

/-- What holds of the verifier when it is built and is kept by every change holds of the states
    of its runs. -/
theorem Reached.invariant {builder : JwtBuilder.WithPublicKey} {files : Files} {built : Built}
    (hbuilt : builder.build format files = .ok built) {I : VerifierState → Prop}
    (hstart : ∀ jwksCache clock, I (start built jwksCache clock))
    (hchange : ∀ s after, I s → s.Change format after → I after)
    (hreached : s.Reached format built) : I s := by
  obtain ⟨jwksCache, clock, events, rfl⟩ := hreached
  have hchanges :=
    run_changes hsignature (audited_start hbuilt jwksCache clock) (by simp) events
  exact invariant_of_changes hchange hchanges (hstart jwksCache clock)

theorem Reached.audited {builder : JwtBuilder.WithPublicKey} {files : Files} {built : Built}
    (hbuilt : builder.build format files = .ok built) (hreached : s.Reached format built) :
    s.Audited format builder.buildValidation :=
  hreached.invariant hsignature hbuilt (audited_start hbuilt) (fun _ _ => Audited.change)

/-- A genuine token is accepted by a verifier that was just built. -/
theorem Genuine.acceptedBy {built : Built} (hempty : built.verifier.tokenCache = HashMap.empty)
    (jwksCache : HashMap String JwksCache) (clock : Clock)
    (hkey : (start built jwksCache clock).verifier.lookupDecodingKey format clock token = .ok key)
    (hgenuine : Genuine format built.verifier.validation key token clock.seconds) :
    AcceptedBy format built token := by
  have hfresh : (start built jwksCache clock).verifier.getCachedClaims format some clock token =
      none := by
    simp [getCachedClaims, TokenCache.get, start, hempty]
  obtain ⟨claims, after, hok⟩ : ∃ claims after,
      (start built jwksCache clock).verifier.verifyInternal format some clock token key =
        .ok (claims, after) :=
    VerifierJwt.Genuine.verifyInternal hsignature hgenuine
  refine ⟨start built jwksCache clock, .tryVerify token some, ⟨_, _, [], rfl⟩, claims, ?_⟩
  unfold handle
  simp only [show (start built jwksCache clock).clock = clock from rfl, hfresh, hkey, finish, hok]

end Audit

end Steps

end VerifierState

end Slim.Auth
