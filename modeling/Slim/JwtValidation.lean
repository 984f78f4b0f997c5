import Mathlib.Data.List.Nodup
import Slim.JwtMiddleware
import Slim.JwtServer

/-!
# Requests behind a validating layer

`ValidateJwt` stands in front of a service.  It tries to verify the bearer token of a request at
once.  When that fails the future of the request verifies the token again, and may wait for a
key set meanwhile, so that many requests share one verifier in any order.  The service is
called once for a request at most, with the claims of the request's own token.
-/

namespace Slim.Auth

open Jsonwebtoken VerifierJwt

/-- The `verify` call of a future: not polled yet, waiting for a key set, or ended with an error,
    which the future answers with UNAUTHORIZED. -/
inductive VerifierFuture where
  | created
  | fetching
  | failed

/-- `error` answers UNAUTHORIZED; `waitForFuture` waits for the inner service. -/
inductive JwtFuture where
  | error
  | waitForFuture
  | waitForKey (token : String) (verifierFuture : VerifierFuture)

/-- A call of the inner service, with the claims among the request's extensions.  The verifier is
    recorded before and after the verification that let the request through. -/
structure InnerCall where
  request : Nat
  claims : Payload
  before : VerifierState
  after : VerifierState

structure ValidateJwt where
  verifier : VerifierState
  requests : List (Request × JwtFuture)
  called : List InnerCall

/-- A future that is dropped is one that no event names again. -/
inductive ValidateEvent where
  | call (req : Request)
  | poll (i : Nat)
  | fetched (i : Nat) (answer : Except AuthError JwkSet)
  | keyFileModified (files : Files)
  | advance (seconds instant : Nat)

namespace ValidateJwt

/-- `ValidateJwtLayer::layer`. -/
def layer (verifier : VerifierState) : ValidateJwt := ⟨verifier, [], []⟩

def push (s : ValidateJwt) (req : Request) (future : JwtFuture) : ValidateJwt :=
  { s with requests := s.requests ++ [(req, future)] }

/-- The verification of a request ends or waits for a key set.  With the claims the inner service
    is called. -/
def settle (s : ValidateJwt) (i : Nat) (req : Request) (token : String) :
    AuthReply × VerifierState → ValidateJwt
  | (some (_, .ok claims), after) =>
    { verifier := after
      requests := s.requests.set i (req, .waitForFuture)
      called := s.called ++ [⟨i, claims, s.verifier, after⟩] }
  | (some (_, .error _), after) =>
    { s with verifier := after, requests := s.requests.set i (req, .waitForKey token .failed) }
  | (none, after) =>
    { s with verifier := after, requests := s.requests.set i (req, .waitForKey token .fetching) }

section Steps

variable (format : TokenFormat) (read : Payload → Option Payload)
  (bearer : HeaderValue → Option String)

/-- `Service::call`. -/
def call (s : ValidateJwt) (req : Request) : ValidateJwt :=
  match req.authorization.bind bearer with
  | none => s.push req .error
  | some token =>
    let pushed := s.push req (.waitForKey token .created)
    match s.verifier.handle format (.tryVerify token read) with
    | (some (accepted, .ok claims), after) =>
      pushed.settle s.requests.length req token (some (accepted, .ok claims), after)
    | (_, after) => { pushed with verifier := after }

/-- `JwtFuture::poll` for a verification that has not begun. -/
def poll (s : ValidateJwt) (i : Nat) : ValidateJwt :=
  match s.requests[i]? with
  | some (req, .waitForKey token .created) =>
    s.settle i req token (s.verifier.handle format (.verify token read))
  | _ => s

/-- `JwtFuture::poll` when the key set is there.  The fetches for one token are alike, so that the
    first of them stands for the request's own. -/
def fetched (s : ValidateJwt) (i : Nat) (answer : Except AuthError JwkSet) : ValidateJwt :=
  match s.requests[i]? with
  | some (req, .waitForKey token .fetching) =>
    let index := s.verifier.fetching.findIdx fun fetch => fetch.token = token
    s.settle i req token (s.verifier.handle format (.fetched index answer))
  | _ => s

def step (s : ValidateJwt) : ValidateEvent → ValidateJwt
  | .call req => s.call format read bearer req
  | .poll i => s.poll format read i
  | .fetched i answer => s.fetched format i answer
  | .keyFileModified files => { s with verifier := s.verifier.step format (.keyFileModified files) }
  | .advance seconds instant =>
    { s with verifier := s.verifier.step format (.advance seconds instant) }

end Steps

end ValidateJwt

/-! ## What the verifier answers -/

namespace VerifierState

/-- The `verify` or `try_verify` call that an event goes on with. -/
def call? (s : VerifierState) : AuthEvent → Option (String × (Payload → Option Payload))
  | .tryVerify token read | .verify token read => some (token, read)
  | .fetched index _ => s.fetching[index]?.map fun fetch => (fetch.token, fetch.read)
  | _ => none

variable {format : TokenFormat} {validation : Validation} {s : VerifierState}
  {token accepted : String} {read : Payload → Option Payload} {claims : Payload}

theorem passes_of_reply (hsignature : format.ChecksSignature)
    (haudited : s.Audited format validation)
    (henabled : validation.signatureDisabled = false) {event : AuthEvent}
    (hcall : s.call? event = some (token, read))
    (hreply : (s.handle format event).1 = some (accepted, .ok claims)) :
    accepted = token ∧ Passes format read validation token s.clock.seconds claims := by
  have hfinish {last : VerifierState} {t : String} {r key source}
      (hlast : last.Audited format validation)
      (hend : (last.finish format t r key source).1 = some (accepted, .ok claims)) :=
    (finish_accepts hsignature hlast henabled hend).imp_right And.left
  cases event with
  | tryVerify | verify =>
      cases hcall
      unfold handle at hreply
      dsimp only at hreply
      split at hreply
      next hget =>
        cases hreply
        exact ⟨rfl, haudited.validation ▸ (getCachedClaims_eq_some hsignature hget).2⟩
      next => split at hreply <;> first | exact hfinish haudited hreply | cases hreply
  | fetched index answer =>
      obtain ⟨fetch, hfetch, heq⟩ := Option.map_eq_some_iff.mp hcall
      cases heq
      unfold handle at hreply
      simp only [hfetch] at hreply
      have hresumed : s.Change format { s with fetching := s.fetching.eraseIdx index } :=
        .resumed index
      split at hreply
      next => cases hreply
      next jwks =>
        have hlast := (haudited.change hresumed).change (.published fetch.issuer jwks)
        split at hreply
        next =>
          have hpasses := hfinish hlast hreply
          exact hpasses
        next => cases hreply
  | keyFileModified | advance => cases hcall

/-- Every call that waits reads the claims of one type. -/
def Reads (read : Payload → Option Payload) (s : VerifierState) : Prop :=
  ∀ fetch ∈ s.fetching, fetch.read = read

/-- Only a `verify` call adds to the calls that wait. -/
theorem Reads.step (hreads : s.Reads read) {event : AuthEvent}
    (hevent : ∀ t r, event = .verify t r → r = read) : (s.step format event).Reads read := by
  have hrest (index : Nat) : ∀ fetch ∈ s.fetching.eraseIdx index, fetch.read = read :=
    fun fetch hfetch => hreads fetch (List.mem_of_mem_eraseIdx hfetch)
  unfold VerifierState.step handle finish
  cases event with
  | verify t r =>
      obtain rfl := hevent t r rfl
      dsimp only
      repeat' split
      all_goals first | exact hreads | simpa [Reads, or_imp, forall_and] using hreads
  | _ =>
      dsimp only
      repeat' split
      all_goals first | exact hreads | exact hrest _

end VerifierState

/-! ## The calls of the inner service -/

namespace ValidateJwt

open VerifierState

section Guard

variable (format : TokenFormat) (read : Payload → Option Payload)
  (bearer : HeaderValue → Option String) (built : Built)

/-- A call of the inner service is for a request that was let through, after the verifier has
    accepted the request's own token and read the claims from it. -/
def Granted (s : ValidateJwt) (c : InnerCall) : Prop :=
  ∃ req token, s.requests[c.request]? = some (req, .waitForFuture) ∧
    req.authorization.bind bearer = some token ∧ c.before.Reached format built ∧
    Passes format read built.verifier.validation token c.before.clock.seconds c.claims ∧
    Admitted format built.verifier.validation c.before token c.after

structure Guarded (s : ValidateJwt) : Prop where
  reached : s.verifier.Reached format built
  reads : s.verifier.Reads read
  owns : ∀ (i : Nat) (req : Request) (token : String) (future : VerifierFuture),
    s.requests[i]? = some (req, .waitForKey token future) →
      req.authorization.bind bearer = some token
  granted : ∀ c ∈ s.called, s.Granted format read bearer built c
  once : (s.called.map InnerCall.request).Nodup

variable {format read bearer built} {s : ValidateJwt}

theorem Granted.mono {after : ValidateJwt} {c : InnerCall}
    (hgranted : s.Granted format read bearer built c)
    (hkept : ∀ req, s.requests[c.request]? = some (req, .waitForFuture) →
      after.requests[c.request]? = some (req, .waitForFuture)) :
    after.Granted format read bearer built c := by
  obtain ⟨req, token, hthrough, hrest⟩ := hgranted
  exact ⟨req, token, hkept req hthrough, hrest⟩

theorem Guarded.verifier (hs : s.Guarded format read bearer built) (event : AuthEvent)
    (hevent : ∀ t r, event = .verify t r → r = read) :
    Guarded format read bearer built { s with verifier := s.verifier.step format event } :=
  ⟨hs.reached.step event, hs.reads.step hevent, hs.owns, hs.granted, hs.once⟩

/-- A new request has not been passed on. -/
theorem Guarded.push {req : Request} {future : JwtFuture}
    (hs : s.Guarded format read bearer built)
    (howns : ∀ token verifierFuture, future = .waitForKey token verifierFuture →
      req.authorization.bind bearer = some token) :
    (s.push req future).Guarded format read bearer built := by
  refine ⟨hs.reached, hs.reads, ?_, ?_, hs.once⟩
  · intro i other token verifierFuture hentry
    rw [ValidateJwt.push, List.getElem?_append] at hentry
    split at hentry
    · exact hs.owns i other token verifierFuture hentry
    · have hmem := List.mem_of_getElem? hentry
      cases List.mem_singleton.mp hmem
      exact howns token verifierFuture rfl
  · intro c hc
    apply (hs.granted c hc).mono
    intro other hthrough
    obtain ⟨hi, _⟩ := List.getElem?_eq_some_iff.mp hthrough
    rw [ValidateJwt.push, List.getElem?_append_left hi, hthrough]

section Pending

variable {i : Nat} {req : Request} {token : String} {verifierFuture : VerifierFuture}

theorem Guarded.ne_request (hs : s.Guarded format read bearer built)
    (hreq : s.requests[i]? = some (req, .waitForKey token verifierFuture)) :
    ∀ c ∈ s.called, c.request ≠ i := by
  rintro c hc rfl
  obtain ⟨_, _, hthrough, _⟩ := hs.granted c hc
  rw [hreq] at hthrough
  cases hthrough

theorem Guarded.set (hs : s.Guarded format read bearer built)
    (hreq : s.requests[i]? = some (req, .waitForKey token verifierFuture))
    {after : VerifierState} (hreached : after.Reached format built) (hreads : after.Reads read)
    {future : JwtFuture} (hfuture : ∀ t f, future = .waitForKey t f → t = token) :
    Guarded format read bearer built
      { s with verifier := after, requests := s.requests.set i (req, future) } := by
  refine ⟨hreached, hreads, ?_, ?_, hs.once⟩
  · intro j other t f hfound
    rcases List.mem_or_eq_of_mem_set (List.mem_of_getElem? hfound) with hmem | heq
    · obtain ⟨k, hk⟩ := List.mem_iff_getElem?.mp hmem
      exact hs.owns k other t f hk
    · cases heq
      rw [hfuture t f rfl]
      exact hs.owns i req token verifierFuture hreq
  · intro c hc
    apply (hs.granted c hc).mono
    intro other hthrough
    rw [List.getElem?_set_ne (hs.ne_request hreq c hc).symm, hthrough]

/-- The verifier goes on with the call of a request that is not through yet. -/
theorem Guarded.settle (hsignature : format.ChecksSignature)
    {builder : JwtBuilder.WithPublicKey} {files : Files}
    (hbuilt : builder.build format files = .ok built) (hs : s.Guarded format read bearer built)
    (hreq : s.requests[i]? = some (req, .waitForKey token verifierFuture)) {event : AuthEvent}
    (hevent : ∀ t r, event = .verify t r → r = read)
    (hcall : (s.verifier.handle format event).1 ≠ none →
      s.verifier.call? event = some (token, read)) :
    (s.settle i req token (s.verifier.handle format event)).Guarded format read bearer built := by
  have haudited := hs.reached.audited hsignature hbuilt
  have hset {future : JwtFuture} (hfuture : ∀ t f, future = .waitForKey t f → t = token) :=
    hs.set hreq (hs.reached.step event) (hs.reads.step hevent) hfuture
  have hnew {accepted : String} {claims : Payload}
      (hreply : (s.verifier.handle format event).1 = some (accepted, .ok claims)) :
      Passes format read built.verifier.validation token s.verifier.clock.seconds claims ∧
        Admitted format built.verifier.validation s.verifier token
          (s.verifier.step format event) := by
    rw [(JwtBuilder.WithPublicKey.build_eq_ok hbuilt).1]
    obtain ⟨rfl, hpasses⟩ :=
      passes_of_reply hsignature haudited (by simp) (hcall (by simp [hreply])) hreply
    exact ⟨hpasses, haudited.admitted hsignature (by simp) ⟨claims, hreply⟩⟩
  unfold VerifierState.step at hset hnew
  generalize s.verifier.handle format event = answer at hset hnew ⊢
  -- only claims change more than the future of the request
  match answer with
  | (some (_, .error _), _) => exact hset (by simp)
  | (none, _) => exact hset (by simp)
  | (some (_, .ok claims), after) =>
      have hthrough := @hset .waitForFuture (by simp)
      obtain ⟨hi, _⟩ := List.getElem?_eq_some_iff.mp hreq
      refine ⟨hthrough.reached, hthrough.reads, hthrough.owns, ?_, ?_⟩
      · intro c hc
        rcases List.mem_append.mp hc with hold | hlast
        · exact (hthrough.granted c hold).mono fun _ hkept => hkept
        · cases List.mem_singleton.mp hlast
          exact ⟨req, token, List.getElem?_set_self hi, hs.owns i req token _ hreq, hs.reached,
            hnew rfl⟩
      · have hne := hs.ne_request hreq
        simp only [ValidateJwt.settle, List.map_append, List.map_cons, List.map_nil]
        apply hs.once.append (List.nodup_singleton i)
        simpa using hne

end Pending

theorem Guarded.step (hsignature : format.ChecksSignature)
    {builder : JwtBuilder.WithPublicKey} {files : Files}
    (hbuilt : builder.build format files = .ok built) (event : ValidateEvent)
    (hs : s.Guarded format read bearer built) :
    (s.step format read bearer event).Guarded format read bearer built := by
  unfold ValidateJwt.step
  cases event with
  | call req =>
      dsimp only [ValidateJwt.call]
      split
      next => exact hs.push (by simp)
      next token htoken =>
        have hpushed : (s.push req (.waitForKey token .created)).Guarded format read bearer built :=
          hs.push (by rintro _ _ ⟨⟩; exact htoken)
        split
        next accepted claims after heq =>
          rw [← heq]
          exact hpushed.settle hsignature hbuilt (List.getElem?_concat_length ..) (by simp)
            (fun _ => rfl)
        next after _ heq =>
          have hafter := hpushed.verifier (.tryVerify token read) (by simp)
          rw [VerifierState.step, show (s.push req _).verifier = s.verifier from rfl, heq] at hafter
          exact hafter
  | poll i =>
      dsimp only [ValidateJwt.poll]
      split
      next hreq => exact hs.settle hsignature hbuilt hreq (by simp) (fun _ => rfl)
      next => exact hs
  | fetched i answer =>
      dsimp only [ValidateJwt.fetched]
      split
      next token hreq =>
        apply hs.settle hsignature hbuilt hreq (by simp)
        intro hreply
        -- the first fetch of the token is one for the token, if there is any
        generalize hindex : s.verifier.fetching.findIdx _ = index at hreply ⊢
        cases hfetch : s.verifier.fetching[index]? with
        | none => simp [handle, hfetch] at hreply
        | some fetch =>
            have hread := hs.reads fetch (List.mem_of_getElem? hfetch)
            subst hindex
            have htoken := List.findIdx_of_getElem?_eq_some hfetch
            rw [call?, hfetch, Option.map_some, hread, of_decide_eq_true htoken]
      next => exact hs
  | keyFileModified files => exact hs.verifier (.keyFileModified files) (by simp)
  | advance seconds instant => exact hs.verifier (.advance seconds instant) (by simp)

/-- Whatever the order of the requests, the polls, the key sets and the changes of the key file:
    the inner service is called once for a request at most, after the verifier of the server has
    accepted the bearer token of that request, and with the claims of that token. -/
theorem inner_calls_granted (hsignature : format.ChecksSignature) {config : Config}
    {files : Files} (hlayer : config.getServerLayer format files = .ok built)
    (jwksCache : HashMap String JwksCache) (clock : Clock) (events : List ValidateEvent) :
    let s := Runs.run (ValidateJwt.step format read bearer)
      (layer (start built jwksCache clock)) events
    (s.called.map InnerCall.request).Nodup ∧
      ∀ c ∈ s.called, s.Granted format read bearer built c := by
  intro s
  obtain ⟨builder, hbuilt, _⟩ := Config.getServerLayer_eq_ok hlayer
  have hstart : Guarded format read bearer built (layer (start built jwksCache clock)) :=
    ⟨⟨jwksCache, clock, [], rfl⟩, by simp [Reads, layer, start], by simp [layer],
      by simp [layer], by simp [layer]⟩
  have hs : s.Guarded format read bearer built :=
    Runs.run_invariant (I := Guarded format read bearer built)
      (fun _ event hnow _ => hnow.step hsignature hbuilt event) events _
      (Runs.along_of_forall events _ fun _ _ => trivial) hstart
  exact ⟨hs.once, hs.granted⟩

end Guard

/-- A request with a token and one without. -/
def sampleRequests : List ValidateEvent :=
  [.call ⟨some ⟨"Bearer h.full.s"⟩⟩, .call ⟨none⟩, .poll 0]

theorem inner_calls_granted_sample :
    let bearer := fun _ : HeaderValue => some "h.full.s"
    let s := Runs.run (ValidateJwt.step strictFormat some bearer)
      (layer (start strictBuilt HashMap.empty sampleClock)) sampleRequests
    s.called.map InnerCall.request = [0] ∧ (s.called.map InnerCall.request).Nodup ∧
      ∀ c ∈ s.called, s.Granted strictFormat some bearer strictBuilt c :=
  ⟨rfl, inner_calls_granted (TokenParts.checksSignature_format _) getServerLayer_strictConfig
    HashMap.empty sampleClock sampleRequests⟩

end ValidateJwt

end Slim.Auth
