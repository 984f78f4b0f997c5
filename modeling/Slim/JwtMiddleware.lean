import Slim.JwtVerifier
import Slim.Runs
import Slim.Session

/-!
# The token of a client: `auth/src/jwt_middleware.rs`

`AddJwtToken` keeps the last token that its provider gave, with the time until which it takes
the token for valid.  A call returns the cached token if more than two thirds of the lifetime
are left, and asks the provider otherwise.  What is left is a subtraction of `u64`.  In a
release build it wraps around as soon as the time has passed, and what is left then is
enormous: the token is not renewed any more.

What the provider answers, what the clock shows and how a header is parsed are inputs of each
call.
-/

namespace Slim

open Machine

/-! ## The clock -/

def Duration.asSecs (duration : Duration) : Nat := duration / 1000000000

namespace Auth

/-- A reading of the system clock: nanoseconds since the epoch, of which the seconds are an
    `i64`. -/
@[ext]
structure SystemTime where
  nanos : Int
  inRange : nanos < 9223372036854775808000000000

/-- `duration_since(UNIX_EPOCH)`, which fails before the epoch. -/
def SystemTime.sinceEpoch (time : SystemTime) : Option Duration :=
  if 0 ≤ time.nanos then some time.nanos.toNat else none

/-- The whole seconds since the epoch. -/
def SystemTime.seconds? (time : SystemTime) : Option Nat := time.sinceEpoch.map Duration.asSecs

theorem SystemTime.seconds?_mono {earlier later : SystemTime} (hle : earlier.nanos ≤ later.nanos)
    {before after : Nat} (hbefore : earlier.seconds? = some before)
    (hafter : later.seconds? = some after) : before ≤ after := by
  simp only [seconds?, sinceEpoch, Option.map_eq_some_iff, Option.ite_none_right_eq_some,
    Option.some.injEq] at hbefore hafter
  obtain ⟨_, ⟨_, rfl⟩, rfl⟩ := hbefore
  obtain ⟨_, ⟨_, rfl⟩, rfl⟩ := hafter
  apply Nat.div_le_div_right
  exact Int.toNat_le_toNat hle

/-! ## Header values -/

@[ext]
structure HeaderValue where
  text : String
deriving DecidableEq

/-- `HeaderValue::try_from` of the `http` library, which keeps the texts that it accepts. -/
structure HeaderParser where
  tryFrom : String → Except String HeaderValue
  text_of_tryFrom : ∀ {text : String} {value : HeaderValue},
    tryFrom text = .ok value → value.text = text

/-! ## The middleware -/

structure AddJwtToken where
  cachedToken : Option HeaderValue
  validUntil : Option Nat
  duration : Nat
deriving DecidableEq

/-- The layer has a provider and a duration in seconds. -/
structure AddJwtLayer (Provider : Type) where
  provider : Provider
  duration : Nat

def AddJwtLayer.layer {Provider : Type} (layer : AddJwtLayer Provider) : AddJwtToken :=
  ⟨none, none, layer.duration⟩

/-- A call of `get_token`: what the clock shows, what the provider answers if it is asked, unless
    it panics, and how the header is parsed. -/
structure TokenCall where
  time : SystemTime
  answer : Except Panic (Except AuthError String)
  parser : HeaderParser

namespace AddJwtToken

/-- The token that is returned without asking the provider. -/
def fromCache (build : Build) (s : AddJwtToken) (now : Nat) : Except Panic (Option HeaderValue) :=
  match s.cachedToken, s.validUntil with
  | some cachedToken, some validUntil => do
      let remaining ← build.sub validUntil now
      let doubled ← build.mul s.duration 2
      .ok (if doubled / 3 < remaining then some cachedToken else none)
  | _, _ => .ok none

/-- The token is cached before the time of its end is computed. -/
def renew (build : Build) (s : AddJwtToken) (now : Nat) (call : TokenCall) :
    Except Panic (Except AuthError HeaderValue) × AddJwtToken :=
  match call.answer with
  | .error panic => (.error panic, s)
  | .ok (.error error) => (.ok (.error (.getTokenError error.display)), s)
  | .ok (.ok token) =>
      match call.parser.tryFrom ("Bearer " ++ token) with
      | .error error => (.ok (.error (.invalidHeader error)), s)
      | .ok headerValue =>
          let cached := { s with cachedToken := some headerValue }
          match build.add now s.duration with
          | .error panic => (.error panic, cached)
          | .ok validUntil => (.ok (.ok headerValue), { cached with validUntil := some validUntil })

def getToken (build : Build) (s : AddJwtToken) (call : TokenCall) :
    Except Panic (Except AuthError HeaderValue) × AddJwtToken :=
  match call.time.seconds? with
  | none => (.ok (.error (.configError "Failed to get current time: ")), s)
  | some now =>
      match s.fromCache build now with
      | .error panic => (.error panic, s)
      | .ok (some cachedToken) => (.ok (.ok cachedToken), s)
      | .ok none => s.renew build now call

def step (build : Build) (s : AddJwtToken) (call : TokenCall) : AddJwtToken :=
  (s.getToken build call).2

end AddJwtToken

/-- The value of the authorization header of a request, if there is one. -/
structure Request where
  authorization : Option HeaderValue
deriving DecidableEq

/-- `Service::call` up to the inner service: without a token the request goes on as it is. -/
def AddJwtToken.call (build : Build) (s : AddJwtToken) (req : Request) (tokenCall : TokenCall) :
    Except Panic Request × AddJwtToken :=
  match s.getToken build tokenCall with
  | (.error panic, left) => (.error panic, left)
  | (.ok (.ok token), left) => (.ok { req with authorization := some token }, left)
  | (.ok (.error _), left) => (.ok req, left)

/-! ## When the provider should be asked -/

/-- The header that comes of the answer of the provider. -/
def TokenCall.header? (call : TokenCall) : Option HeaderValue :=
  match call.answer with
  | .error _ | .ok (.error _) => none
  | .ok (.ok token) =>
      match call.parser.tryFrom ("Bearer " ++ token) with
      | .error _ => none
      | .ok headerValue => some headerValue

theorem TokenCall.answer_of_header {call : TokenCall} {headerValue : HeaderValue}
    (hheader : call.header? = some headerValue) :
    ∃ token, call.answer = .ok (.ok token) ∧
      call.parser.tryFrom ("Bearer " ++ token) = .ok headerValue := by
  unfold header? at hheader
  rcases hanswer : call.answer with panic | error | token
  · simp [hanswer] at hheader
  · simp [hanswer] at hheader
  · rcases htry : call.parser.tryFrom ("Bearer " ++ token) with error | value
    · simp [hanswer, htry] at hheader
    · simp only [hanswer, htry, Option.some.injEq] at hheader
      exact ⟨token, rfl, htry.trans (congrArg _ hheader)⟩

namespace AddJwtToken

/-- The call puts another token into the cache. -/
def renews (build : Build) (s : AddJwtToken) (call : TokenCall) : Bool :=
  match call.time.seconds? with
  | none => false
  | some now =>
      match s.fromCache build now with
      | .ok none => call.header?.isSome
      | _ => false

theorem cachedToken_of_fromCache {build : Build} {s : AddJwtToken} {now : Nat}
    {token : HeaderValue} (hcache : s.fromCache build now = .ok (some token)) :
    s.cachedToken = some token := by
  unfold fromCache at hcache
  split at hcache
  · rename_i hcached _
    obtain ⟨remaining, -, hcache⟩ := bind_eq_ok hcache
    obtain ⟨doubled, -, hcache⟩ := bind_eq_ok hcache
    have hreturned := Except.ok.inj hcache
    rw [Option.ite_none_right_eq_some] at hreturned
    rw [hcached, hreturned.2]
  · cases hcache

theorem renew_of_header (build : Build) (s : AddJwtToken) (now : Nat) {call : TokenCall}
    {headerValue : HeaderValue} (hheader : call.header? = some headerValue) :
    (s.renew build now call).2.cachedToken = some headerValue ∧
      ∀ token, (s.renew build now call).1 = .ok (.ok token) → token = headerValue := by
  obtain ⟨token, hanswer, htry⟩ := TokenCall.answer_of_header hheader
  rcases hadd : build.add now s.duration with panic | validUntil
  · simp [renew, hanswer, htry, hadd]
  · simp [renew, hanswer, htry, hadd, eq_comm]

/-- The end of the token is a number. -/
theorem renew_of_fits (build : Build) (s : AddJwtToken) {now : Nat} {call : TokenCall}
    {headerValue : HeaderValue} (hheader : call.header? = some headerValue)
    (hfits : now + s.duration ≤ USIZE_MAX) :
    s.renew build now call = (.ok (.ok headerValue),
      ⟨some headerValue, some (now + s.duration), s.duration⟩) := by
  obtain ⟨token, hanswer, htry⟩ := TokenCall.answer_of_header hheader
  simp only [renew, hanswer, htry, build.add_ok hfits]

theorem renew_of_no_header (build : Build) (s : AddJwtToken) (now : Nat)
    {call : TokenCall} (hheader : call.header? = none) :
    (s.renew build now call).2 = s ∧
      ∀ token, (s.renew build now call).1 ≠ .ok (.ok token) := by
  unfold TokenCall.header? at hheader
  rcases hanswer : call.answer with panic | error | token
  · simp [renew, hanswer]
  · simp [renew, hanswer]
  · rcases htry : call.parser.tryFrom ("Bearer " ++ token) with error | value
    · simp [renew, hanswer, htry]
    · simp [hanswer, htry] at hheader

/-- What a call can do: leave everything as it is, or cache the header of the answer. -/
theorem getToken_cases (build : Build) (s : AddJwtToken) (call : TokenCall) :
    (s.renews build call = false ∧ (s.getToken build call).2 = s ∧
      ∀ token, (s.getToken build call).1 = .ok (.ok token) → s.cachedToken = some token) ∨
    (s.renews build call = true ∧ ∃ headerValue, call.header? = some headerValue ∧
      (s.getToken build call).2.cachedToken = some headerValue ∧
      ∀ token, (s.getToken build call).1 = .ok (.ok token) → token = headerValue) := by
  unfold renews getToken
  rcases htime : call.time.seconds? with _ | now
  · exact .inl ⟨rfl, rfl, fun token hok => by cases hok⟩
  · dsimp only
    rcases hcache : s.fromCache build now with panic | _ | cached
    · exact .inl ⟨rfl, rfl, fun token hok => by cases hok⟩
    · dsimp only
      rcases hheader : call.header? with _ | headerValue
      · obtain ⟨hleft, hnot⟩ := renew_of_no_header build s now hheader
        exact .inl ⟨rfl, hleft, fun token hok => absurd hok (hnot token)⟩
      · obtain ⟨hleft, heq⟩ := renew_of_header build s now hheader
        exact .inr ⟨rfl, headerValue, rfl, hleft, heq⟩
    · exact .inl ⟨rfl, rfl, fun token hok => by
        cases hok
        exact cachedToken_of_fromCache hcache⟩

/-- After a call that returns a token this token is in the cache. -/
theorem cachedToken_of_getToken {build : Build} {s : AddJwtToken} {call : TokenCall}
    {token : HeaderValue} (hok : (s.getToken build call).1 = .ok (.ok token)) :
    (s.getToken build call).2.cachedToken = some token := by
  rcases s.getToken_cases build call with ⟨-, hleft, hcached⟩ | ⟨-, headerValue, -, hleft, heq⟩
  · rw [hleft, hcached token hok]
  · rw [hleft, heq token hok]

theorem call_left (build : Build) (s : AddJwtToken) (req : Request) (tokenCall : TokenCall) :
    (s.call build req tokenCall).2 = (s.getToken build tokenCall).2 := by
  unfold call
  rcases s.getToken build tokenCall with ⟨panic | error | token, left⟩ <;> rfl

/-- A request that has the header of a token got it from `get_token`. -/
theorem getToken_of_call {build : Build} {s : AddJwtToken} {tokenCall : TokenCall}
    {token : HeaderValue} (hok : (s.call build ⟨none⟩ tokenCall).1 = .ok ⟨some token⟩) :
    (s.getToken build tokenCall).1 = .ok (.ok token) := by
  unfold call at hok
  rcases hget : s.getToken build tokenCall with ⟨panic | error | cached, left⟩
  · simp [hget] at hok
  · simp [hget] at hok
  · simpa [hget] using hok

end AddJwtToken

/-- A third of the lifetime has passed since the last renewal. -/
def due (duration : Nat) (last : Option Nat) (now : Nat) : Bool :=
  match last with
  | none => true
  | some renewed => decide (duration ≤ 3 * (now - renewed))

/-- The time of the last renewal. -/
def renewal (duration : Nat) (last : Option Nat) (call : TokenCall) : Option Nat :=
  match call.time.seconds? with
  | none => last
  | some now => if due duration last now && call.header?.isSome then some now else last

theorem renewal_cases {duration renewed : Nat} {last : Option Nat} {call : TokenCall}
    (hrenewed : renewal duration last call = some renewed) :
    last = some renewed ∨ call.time.seconds? = some renewed := by
  unfold renewal at hrenewed
  split at hrenewed
  · exact .inl hrenewed
  · rename_i now htime
    split at hrenewed
    · exact .inr (htime.trans hrenewed)
    · exact .inl hrenewed

/-- The call comes within the lifetime of the last token. -/
def InTime (duration : Nat) (last : Option Nat) (call : TokenCall) : Prop :=
  ∀ renewed now, last = some renewed → call.time.seconds? = some now → now ≤ renewed + duration

instance (duration : Nat) (last : Option Nat) (call : TokenCall) :
    Decidable (InTime duration last call) :=
  decidable_of_iff (∀ renewed ∈ last, ∀ now ∈ call.time.seconds?, now ≤ renewed + duration)
    ⟨fun hall renewed now hlast htime => hall renewed hlast now htime,
      fun hinTime renewed hlast now htime => hinTime renewed now hlast htime⟩

namespace AddJwtToken

/-- The cache is that of the last renewal. -/
structure Tracks (duration : Nat) (s : AddJwtToken) (last : Option Nat) : Prop where
  duration_eq : s.duration = duration
  cached : s.cachedToken.isSome = last.isSome
  validUntil_eq : s.validUntil = last.map (· + duration)

variable {build : Build} {duration : Nat} {s : AddJwtToken} {last : Option Nat} {call : TokenCall}

theorem fromCache_of_none (hnone : s.cachedToken = none) (now : Nat) :
    s.fromCache build now = .ok none := by
  simp only [fromCache, hnone]

theorem fromCache_of_some {token : HeaderValue} {validUntil now : Nat}
    (hcached : s.cachedToken = some token) (hvalid : s.validUntil = some validUntil)
    (hin : now ≤ validUntil) (hdouble : s.duration * 2 ≤ USIZE_MAX) :
    s.fromCache build now =
      .ok (if s.duration * 2 / 3 < validUntil - now then some token else none) := by
  simp only [fromCache, hcached, hvalid, build.sub_ok hin, build.mul_ok hdouble, bind_ok]

/-- Within the lifetime the cache is used unless a renewal is due. -/
theorem fromCache_tracks (htracks : s.Tracks duration last) {now : Nat}
    (hdouble : duration * 2 ≤ USIZE_MAX) (hlast : ∀ renewed, last = some renewed →
      renewed ≤ now ∧ now ≤ renewed + duration) :
    s.fromCache build now = .ok (if due duration last now then none else s.cachedToken) := by
  obtain ⟨rfl, hcached, hvalid⟩ := htracks
  rcases last with _ | renewed
  · have hnone : s.cachedToken = none := by simpa using hcached
    rw [fromCache_of_none hnone, due, if_pos rfl]
  · obtain ⟨token, htoken⟩ := Option.isSome_iff_exists.1 hcached
    obtain ⟨hbefore, hin⟩ := hlast renewed rfl
    rw [fromCache_of_some htoken hvalid hin hdouble, htoken]
    have hdue : s.duration * 2 / 3 < renewed + s.duration - now ↔
        ¬ s.duration ≤ 3 * (now - renewed) := by omega
    by_cases hthird : s.duration ≤ 3 * (now - renewed)
    · simp [due, hdue, hthird]
    · simp [due, hdue, hthird]

/-- The cache follows the renewals as long as the calls come in time. -/
theorem Tracks.step (htracks : s.Tracks duration last) (hdouble : duration * 2 ≤ USIZE_MAX)
    (hfits : ∀ now, call.time.seconds? = some now → now + duration ≤ USIZE_MAX)
    (hlast : ∀ renewed now, last = some renewed → call.time.seconds? = some now →
      renewed ≤ now ∧ now ≤ renewed + duration) :
    (s.step build call).Tracks duration (renewal duration last call) := by
  unfold AddJwtToken.step getToken renewal
  rcases htime : call.time.seconds? with _ | now
  · exact htracks
  · have hcache : s.fromCache build now = _ :=
      fromCache_tracks htracks hdouble fun renewed hrenewed => hlast renewed now hrenewed htime
    dsimp only
    rcases hdue : due duration last now with _ | _
    · -- the cached token is returned
      have hsome : s.cachedToken.isSome = true := by
        rw [htracks.cached]
        rcases last with _ | renewed
        · cases hdue
        · rfl
      obtain ⟨token, htoken⟩ := Option.isSome_iff_exists.1 hsome
      rw [hdue, htoken] at hcache
      simpa [hcache] using htracks
    · rw [hdue] at hcache
      simp only [hcache, if_true]
      rcases hheader : call.header? with _ | headerValue
      · obtain ⟨hleft, -⟩ := renew_of_no_header build s now hheader
        simpa [hleft] using htracks
      · have hrenew := renew_of_fits build s hheader
          (by rw [htracks.duration_eq]; exact hfits now htime)
        simp only [hrenew, htracks.duration_eq]
        exact ⟨rfl, rfl, rfl⟩

/-! ## The cached token at a call -/

/-- The time that is left is not negative, and if the cached token is returned it is more than
    two thirds of the lifetime. -/
structure NotStale (build : Build) (s : AddJwtToken) (call : TokenCall) : Prop where
  no_underflow : ∀ token validUntil now, s.cachedToken = some token →
    s.validUntil = some validUntil → call.time.seconds? = some now → now ≤ validUntil
  remains : ∀ token validUntil now, s.fromCache build now = .ok (some token) →
    s.validUntil = some validUntil → call.time.seconds? = some now →
      2 * s.duration + 3 * now < 3 * validUntil ∧ now < validUntil

theorem notStale_iff_inTime (htracks : s.Tracks duration last)
    (hdouble : duration * 2 ≤ USIZE_MAX) :
    s.NotStale build call ↔ InTime duration last call := by
  constructor
  · intro hnotStale renewed now hlast htime
    have hcached := htracks.cached
    have hvalid := htracks.validUntil_eq
    rw [hlast] at hcached hvalid
    obtain ⟨token, htoken⟩ := Option.isSome_iff_exists.1 hcached
    exact hnotStale.no_underflow token _ now htoken hvalid htime
  · intro hinTime
    have hin : ∀ validUntil now, s.validUntil = some validUntil →
        call.time.seconds? = some now → now ≤ validUntil := by
      intro validUntil now hvalid htime
      rw [htracks.validUntil_eq, Option.map_eq_some_iff] at hvalid
      obtain ⟨renewed, hlast, rfl⟩ := hvalid
      exact hinTime renewed now hlast htime
    constructor
    · intro _ validUntil now _ hvalid htime
      exact hin validUntil now hvalid htime
    · intro token validUntil now hcache hvalid htime
      rcases hcached : s.cachedToken with _ | cached
      · rw [fromCache_of_none hcached] at hcache
        cases hcache
      · rw [fromCache_of_some hcached hvalid (hin validUntil now hvalid htime)
          (by rwa [htracks.duration_eq])] at hcache
        by_cases hleft : s.duration * 2 / 3 < validUntil - now
        · omega
        · simp [hleft] at hcache

/-- No call reuses a token that has expired exactly if every call comes within the lifetime of
    the token of the last renewal. -/
theorem along_notStale_iff (build : Build) (duration : Nat) (hdouble : 2 * duration < 2 ^ 64) :
    ∀ (calls : List TokenCall) (s : AddJwtToken) (last : Option Nat), s.Tracks duration last →
      (∀ call ∈ calls, ∀ now, call.time.seconds? = some now → now + duration < 2 ^ 64) →
      calls.Pairwise (fun earlier later => earlier.time.nanos ≤ later.time.nanos) →
      (∀ renewed, last = some renewed → ∀ call ∈ calls, ∀ now,
        call.time.seconds? = some now → renewed ≤ now) →
      (Runs.Along (step build) (NotStale build) s calls ↔
        Runs.Along (renewal duration) (InTime duration) last calls) := by
  have hfitsDouble : duration * 2 ≤ USIZE_MAX := by
    unfold USIZE_MAX
    omega
  intro calls
  induction calls with
  | nil =>
      intro s last _ _ _ _
      exact Iff.rfl
  | cons call calls ih =>
      intro s last htracks hfits hsorted hlast
      obtain ⟨hfirst, hsorted⟩ := List.pairwise_cons.1 hsorted
      rw [Runs.Along, Runs.Along, notStale_iff_inTime htracks hfitsDouble]
      apply and_congr_right
      intro hinTime
      have hcallFits : ∀ now, call.time.seconds? = some now → now + duration ≤ USIZE_MAX := by
        intro now htime
        exact Nat.le_sub_one_of_lt (hfits call List.mem_cons_self now htime)
      apply ih _ _ (htracks.step hfitsDouble hcallFits ?_)
      · intro later hlater
        exact hfits later (List.mem_cons_of_mem _ hlater)
      · exact hsorted
      · -- a renewal at this call is not later than the next calls
        intro renewed hrenewed later hlater now htime
        rcases renewal_cases hrenewed with hbefore | hcall
        · exact hlast renewed hbefore later (List.mem_cons_of_mem _ hlater) now htime
        · exact SystemTime.seconds?_mono (hfirst later hlater) hcall htime
      · intro renewed now hrenewed htime
        exact ⟨hlast renewed hrenewed call List.mem_cons_self now htime,
          hinTime renewed now hrenewed htime⟩

/-- The calls on the middleware of a layer, in a release build. -/
theorem never_reuses_expired_iff {Provider : Type} (layer : AddJwtLayer Provider)
    (calls : List TokenCall) (hdouble : 2 * layer.duration < 2 ^ 64)
    (hfits : ∀ call ∈ calls, ∀ now, call.time.seconds? = some now → now + layer.duration < 2 ^ 64)
    (hsorted : calls.Pairwise fun earlier later => earlier.time.nanos ≤ later.time.nanos) :
    Runs.Along (step .release) (NotStale .release) layer.layer calls ↔
      Runs.Along (renewal layer.duration) (InTime layer.duration) none calls := by
  apply along_notStale_iff .release layer.duration hdouble calls layer.layer none ⟨rfl, rfl, rfl⟩
    hfits hsorted
  intro renewed hnone
  cases hnone

def sampleTime (seconds : UInt32) : SystemTime where
  nanos := seconds.toNat * 1000000000
  inRange := by
    have hlt := seconds.toNat_lt
    omega

/-- A layer for tokens of an hour. -/
def sampleLayer : AddJwtLayer Unit := ⟨(), 3600⟩

/-- Every text is accepted. -/
def sampleParser : HeaderParser where
  tryFrom text := .ok ⟨text⟩
  text_of_tryFrom := by
    rintro text value ⟨⟩
    rfl

/-- A call for which the provider has a token. -/
def sampleCall (seconds : UInt32) (token : String) : TokenCall :=
  ⟨sampleTime seconds, .ok (.ok token), sampleParser⟩

/-- A second after the end of the first token the provider is not asked for another one. -/
theorem reuses_expired :
    let first := sampleCall 0 "t"
    let second := sampleCall 3601 "u"
    let s := sampleLayer.layer.step .release first
    s.validUntil = some 3600 ∧
      (s.getToken .release second).1 = .ok (.ok ⟨"Bearer t"⟩) ∧
      ¬ Runs.Along (step .release) (NotStale .release) sampleLayer.layer [first, second] := by
  refine ⟨by decide, by decide, fun halong => ?_⟩
  have hlate : 3601 ≤ 3600 := by
    apply halong.2.1.no_underflow ⟨"Bearer t"⟩
    · decide
    · decide
    · rfl
  exact absurd hlate (by decide)

/-- The second call uses the cache, the third renews the token, and the fourth comes in time for
    the token of the third. -/
theorem never_reuses_expired_sample :
    let calls := [sampleCall 0 "t", sampleCall 1000 "u", sampleCall 1300 "v", sampleCall 4900 "w"]
    Runs.Along (renewal 3600) (InTime 3600) none calls ∧
      Runs.Along (step .release) (NotStale .release) sampleLayer.layer calls := by
  intro calls
  have hfits : ∀ call ∈ calls, ∀ now, call.time.seconds? = some now → now + 3600 < 2 ^ 64 := by
    have hbound : ∀ call ∈ calls, call.time.seconds?.getD 0 + 3600 < 2 ^ 64 := by decide
    intro call hcall now htime
    have hcallBound := hbound call hcall
    rwa [htime] at hcallBound
  have hsorted : calls.Pairwise fun earlier later => earlier.time.nanos ≤ later.time.nanos := by
    decide
  have hinTime : Runs.Along (renewal 3600) (InTime 3600) none calls :=
    ⟨by decide, by decide, by decide, by decide, trivial⟩
  exact ⟨hinTime, (never_reuses_expired_iff sampleLayer calls (by decide) hfits hsorted).2 hinTime⟩

/-! ## After the end of the token -/

section Expired

variable {token : HeaderValue} {validUntil now : Nat}

/-- In a release build the time that is left is then more than any lifetime. -/
theorem getToken_release_of_expired (hcached : s.cachedToken = some token)
    (hvalid : s.validUntil = some validUntil) (hdouble : 2 * s.duration < 2 ^ 64)
    (htime : call.time.seconds? = some now) (hexpired : validUntil < now)
    (hfits : now + s.duration < 2 ^ 64) : s.getToken .release call = (.ok (.ok token), s) := by
  have hmul : Build.release.mul s.duration 2 = .ok (s.duration * 2) := by
    apply Build.mul_ok
    unfold USIZE_MAX
    omega
  have hleft : s.duration * 2 / 3 < validUntil + 2 ^ 64 - now := by omega
  simp only [getToken, htime, fromCache, hcached, hvalid, Build.sub_release hexpired, hmul, bind_ok,
    hleft, if_true]

/-- A token that has expired is returned for ever. -/
theorem stale_forever (hcached : s.cachedToken = some token)
    (hvalid : s.validUntil = some validUntil) (hdouble : 2 * s.duration < 2 ^ 64)
    (calls : List TokenCall)
    (hcalls : ∀ call ∈ calls, ∃ now, call.time.seconds? = some now ∧ validUntil < now ∧
      now + s.duration < 2 ^ 64) :
    Runs.run (step .release) s calls = s ∧
      ∀ call ∈ calls, s.getToken .release call = (.ok (.ok token), s) := by
  have hreturns : ∀ call ∈ calls, s.getToken .release call = (.ok (.ok token), s) := by
    intro call hcall
    obtain ⟨now, htime, hexpired, hfits⟩ := hcalls call hcall
    exact getToken_release_of_expired hcached hvalid hdouble htime hexpired hfits
  refine ⟨?_, hreturns⟩
  clear hcalls
  induction calls with
  | nil => rfl
  | cons call calls ih =>
      obtain ⟨hcall, hcalls⟩ := List.forall_mem_cons.1 hreturns
      rw [Runs.run_cons, step, hcall]
      exact ih hcalls

/-- In a debug build the same calls panic. -/
theorem getToken_debug_of_expired (hcached : s.cachedToken = some token)
    (hvalid : s.validUntil = some validUntil) (htime : call.time.seconds? = some now)
    (hexpired : validUntil < now) : s.getToken .debug call = (.error .overflow, s) := by
  have hsub : Build.debug.sub validUntil now = .error .overflow := if_neg (Nat.not_le.2 hexpired)
  simp only [getToken, htime, fromCache, hcached, hvalid, hsub]
  rfl

end Expired

end AddJwtToken

end Auth

end Slim
