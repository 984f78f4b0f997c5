import Slim.Session

/-!
# The session layer: `session_layer.rs`

The sessions of an application are kept in a pool under their ids.  `create_session`
picks an id that is free, builds the session, and puts it into the pool.  For a
bidirectional streaming session the id is then computed once more, from the topic.
-/

namespace Slim

open HashKey Machine

/-! ## The pool -/

/-- `SESSION_RANGE.contains`: the range is `0..(u32::MAX - 1000)`. -/
def inSessionRange (id : UInt32) : Bool := decide (id.toNat < 4294967295 - 1000)

structure SessionLayer where
  pool : HashMap UInt32 Common
  agentName : Agent
  identity : Option String
  defaultFfConf : FireAndForgetConfiguration
  defaultRrConf : RequestResponseConfiguration
  defaultStreamConf : StreamingConfiguration

/-- How a call of `create_session` ends: with `Ok`, with `Err`, in the panic for a session
    that exists already, or not at all so far, because every id drawn is in the pool. -/
inductive CreateResult where
  | created (info : Info)
  | refused (error : SessionError)
  | panicked
  | drawing

/-- The topic of a configuration whose session takes its id from the topic. -/
def SessionConfig.sharedTopic : SessionConfig → Option AgentType
  | streaming config => if config.direction = .Bidirectional then some config.topic else none
  | _ => none

namespace SessionLayer

def new (agentName : Agent) (identity : Option String) : SessionLayer where
  pool := HashMap.empty
  agentName := agentName
  identity := identity
  defaultFfConf := .default
  defaultRrConf := .default
  defaultStreamConf := .default

/-- The id of the new session as it is chosen first.  `draws` are the random ids, which
    are drawn until one is free. -/
def chooseId (layer : SessionLayer) (id : Option UInt32) (draws : List UInt32) :
    Except CreateResult UInt32 :=
  match id with
  | some id =>
      if !inSessionRange id then .error (.refused (.invalidSessionId (toString id)))
      else if layer.pool.contains id then .error (.refused (.sessionIdAlreadyUsed (toString id)))
      else .ok id
  | none =>
      match draws.find? fun id => !layer.pool.contains id with
      | some id => .ok id
      | none => .error .drawing

section Create

variable [NameHash]

/-- The id that all agents of a topic use. -/
def topicId (topic : AgentType) : UInt32 :=
  UInt32.ofNat ((NameHash.ofTypeKey (key topic)).toNat % 4294967295) -- u32::MAX

/-- The session that is built, with its id. -/
def buildSession (layer : SessionLayer) (config : SessionConfig) (id : UInt32) : Common :=
  match config with
  | .fireAndForget _ => Common.new id .Bidirectional config layer.agentName layer.identity
  | .requestResponse _ => Common.new id .Bidirectional config layer.agentName layer.identity
  | .streaming conf =>
      let id := if conf.direction = .Bidirectional then topicId conf.topic else id
      Common.new id conf.direction config layer.agentName layer.identity

/-- The pool is changed before the panic. -/
def createSession (layer : SessionLayer) (config : SessionConfig) (id : Option UInt32)
    (draws : List UInt32) : CreateResult × SessionLayer :=
  match layer.chooseId id draws with
  | .error result => (result, layer)
  | .ok id =>
      let session := layer.buildSession config id
      let left := { layer with pool := layer.pool.insert session.id session }
      match layer.pool.get? session.id with
      | some _ => (.panicked, left)
      | none => (.created (Info.new session.id), left)

end Create

def removeSession (layer : SessionLayer) (id : UInt32) : Bool × SessionLayer :=
  ((layer.pool.get? id).isSome, { layer with pool := layer.pool.remove id })

def setSessionConfig (layer : SessionLayer) (config : SessionConfig)
    (sessionId : Option UInt32) : Except SessionError Unit × SessionLayer :=
  match sessionId with
  | none =>
      match config with
      | .fireAndForget _ =>
          match layer.defaultFfConf.replace config with
          | .error e => (.error e, layer)
          | .ok conf => (.ok (), { layer with defaultFfConf := conf })
      | .requestResponse _ =>
          match layer.defaultRrConf.replace config with
          | .error e => (.error e, layer)
          | .ok conf => (.ok (), { layer with defaultRrConf := conf })
      | .streaming _ =>
          match layer.defaultStreamConf.replace config with
          | .error e => (.error e, layer)
          | .ok conf => (.ok (), { layer with defaultStreamConf := conf })
  | some id =>
      match layer.pool.get? id with
      | none => (.error (.sessionNotFound (toString id)), layer)
      | some session =>
          match session.setSessionConfig config with
          | .error e => (.error e, layer)
          | .ok changed => (.ok (), { layer with pool := layer.pool.insert id changed })

def addSessionInterceptor (layer : SessionLayer) (id : UInt32)
    (interceptor : SessionInterceptor) : Except SessionError Unit × SessionLayer :=
  match layer.pool.get? id with
  | none => (.error (.sessionNotFound (toString id)), layer)
  | some session =>
      (.ok (), { layer with pool := layer.pool.insert id (session.addInterceptor interceptor) })

/-! ## What `create_session` does -/

/-- An id that is given is refused, or it is in the range and free. -/
theorem chooseId_some (layer : SessionLayer) (given : UInt32) (draws : List UInt32) :
    (∃ error, layer.chooseId (some given) draws = .error (.refused error) ∧
        (inSessionRange given = false ∨ layer.pool.contains given = true)) ∨
      layer.chooseId (some given) draws = .ok given ∧ inSessionRange given = true ∧
        layer.pool.contains given = false := by
  rcases hrange : inSessionRange given with _ | _
  · refine Or.inl ⟨_, if_pos ?_, Or.inl rfl⟩
    rw [hrange]
    rfl
  have hpass : ¬ (!inSessionRange given) = true := by simp [hrange]
  rcases hused : layer.pool.contains given with _ | _
  · refine Or.inr ⟨(if_neg hpass).trans (if_neg ?_), rfl, rfl⟩
    simp [hused]
  · exact Or.inl ⟨_, (if_neg hpass).trans (if_pos hused), Or.inr rfl⟩

/-- An id that is drawn is free, and one is drawn as soon as a draw is free. -/
theorem chooseId_none {layer : SessionLayer} {draws : List UInt32}
    (hfree : ∃ draw ∈ draws, layer.pool.contains draw = false) :
    ∃ chosen ∈ draws, layer.chooseId none draws = .ok chosen ∧
      layer.pool.contains chosen = false := by
  unfold chooseId
  rcases hfind : draws.find? fun id => !layer.pool.contains id with _ | chosen
  · obtain ⟨draw, hdraw, hfree⟩ := hfree
    have hused := List.find?_eq_none.mp hfind draw hdraw
    rw [hfree] at hused
    exact absurd rfl hused
  · have hfree := List.find?_some hfind
    exact ⟨chosen, List.mem_of_find?_eq_some hfind, rfl, by simpa using hfree⟩

/-- A pool in which the first `n` ids are all used has at least `n` sessions. -/
theorem le_len_of_used (pool : HashMap UInt32 Common) {n : Nat} (hn : n ≤ 4294967296)
    (hused : ∀ k < n, pool.contains (UInt32.ofNat k) = true) : n ≤ pool.len := by
  have hsubset : (List.range n).map UInt32.ofNat ⊆ pool.entries.map Prod.fst := by
    intro id hid
    obtain ⟨k, hk, rfl⟩ := List.mem_map.mp hid
    obtain ⟨entry, hentry, hkey⟩ := (HashMap.contains_iff _ _).1 (hused k (List.mem_range.mp hk))
    exact List.mem_map.mpr ⟨entry, hentry, hkey⟩
  have hnodup : ((List.range n).map UInt32.ofNat).Nodup := by
    apply List.Nodup.map_on _ List.nodup_range
    intro first hfirst second hsecond hsame
    rw [List.mem_range] at hfirst hsecond
    have hfits : ∀ k < n, (UInt32.ofNat k).toNat = k := by
      intro k hk
      exact UInt32.toNat_ofNat_of_lt' (Nat.lt_of_lt_of_le hk hn)
    rw [← hfits first hfirst, hsame, hfits second hsecond]
  have hle := (List.subperm_of_subset hnodup hsubset).length_le
  rw [List.length_map, List.length_range, List.length_map] at hle
  exact hle

/-- The loop that draws an id can end: unless the pool is as large as the range, some id
    of the range is free. -/
theorem exists_free {layer : SessionLayer} (hlen : layer.pool.len < 4294967295 - 1000) :
    ∃ id, inSessionRange id = true ∧ layer.pool.contains id = false := by
  by_contra hnone
  have hle : 4294967295 - 1000 ≤ layer.pool.len := by
    apply le_len_of_used _ (by omega)
    intro k hk
    by_contra hfree
    apply hnone
    have hfits : k < UInt32.size := Nat.lt_trans hk (by decide)
    refine ⟨UInt32.ofNat k, decide_eq_true ?_, by simpa using hfree⟩
    rw [UInt32.toNat_ofNat_of_lt' hfits]
    exact hk
  omega

section Create

variable [NameHash] {layer : SessionLayer} {config : SessionConfig} {id : Option UInt32}
  {draws : List UInt32}

/-- The id of the built session is the chosen one, or that of the shared topic. -/
theorem id_buildSession (layer : SessionLayer) (config : SessionConfig) (chosen : UInt32) :
    (layer.buildSession config chosen).id = (config.sharedTopic.map topicId).getD chosen := by
  cases config with
  | fireAndForget conf => rfl
  | requestResponse conf => rfl
  | streaming conf =>
      simp only [buildSession, SessionConfig.sharedTopic, Common.new]
      by_cases hshared : conf.direction = .Bidirectional
      · rw [if_pos hshared, if_pos hshared]
        rfl
      · rw [if_neg hshared, if_neg hshared]
        rfl

theorem config_buildSession (layer : SessionLayer) (config : SessionConfig) (chosen : UInt32) :
    (layer.buildSession config chosen).sessionConfig = config := by
  cases config with
  | fireAndForget conf => rfl
  | requestResponse conf => rfl
  | streaming conf => rfl

/-- Once an id is chosen the session is in the pool under its id; the call panics if there
    was one before. -/
theorem createSession_of_chosen {chosen : UInt32} (hchosen : layer.chooseId id draws = .ok chosen) :
    layer.createSession config id draws =
      (if (layer.pool.get? (layer.buildSession config chosen).id).isSome then
          CreateResult.panicked
        else .created (Info.new (layer.buildSession config chosen).id),
        { layer with
          pool := layer.pool.insert (layer.buildSession config chosen).id
            (layer.buildSession config chosen) }) := by
  simp only [createSession, hchosen]
  rcases layer.pool.get? (layer.buildSession config chosen).id with _ | session
  · rfl
  · rfl

theorem createSession_of_refused {result : CreateResult}
    (hrefused : layer.chooseId id draws = .error result) :
    layer.createSession config id draws = (result, layer) := by
  simp only [createSession, hrefused]

end Create

/-! ## Creation without loss -/

/-- The call has failed and changed nothing, or it has added a session under an id of the
    range that was free. -/
def AddsOne (layer : SessionLayer) : CreateResult × SessionLayer → Prop
  | (.refused _, left) => left = layer
  | (.created info, left) =>
      inSessionRange info.id = true ∧ layer.pool.get? info.id = none ∧
        ∃ session, left = { layer with pool := layer.pool.insert info.id session }
  | (.panicked, _) => False
  | (.drawing, _) => False

section Create

variable [NameHash]

/-- Once an id is chosen, the id of the built session decides. -/
theorem addsOne_of_chosen {layer : SessionLayer} {config : SessionConfig} {id : Option UInt32}
    {draws : List UInt32} {chosen : UInt32} (hchosen : layer.chooseId id draws = .ok chosen) :
    AddsOne layer (layer.createSession config id draws) ↔
      inSessionRange (layer.buildSession config chosen).id = true ∧
        layer.pool.get? (layer.buildSession config chosen).id = none := by
  rw [createSession_of_chosen hchosen]
  rcases hget : layer.pool.get? (layer.buildSession config chosen).id with _ | session
  · constructor
    · rintro ⟨hrange, -⟩
      exact ⟨hrange, rfl⟩
    · rintro ⟨hrange, -⟩
      exact ⟨hrange, hget, _, rfl⟩
  · constructor
    · intro hpanicked
      cases hpanicked
    · rintro ⟨-, hnone⟩
      cases hnone

/-- A call adds one session under a free id of the range, or fails and changes nothing,
    exactly if the id it was given is refused, or the configuration does not take its id
    from a topic, or the id of the topic is free and in the range.  An id that is drawn
    is drawn from the range, and a free one turns up. -/
theorem createSession_addsOne_iff (layer : SessionLayer) (config : SessionConfig)
    (id : Option UInt32) (draws : List UInt32)
    (hdraws : ∀ draw ∈ draws, inSessionRange draw = true)
    (hfree : id = none → ∃ draw ∈ draws, layer.pool.contains draw = false) :
    AddsOne layer (layer.createSession config id draws) ↔
      (∃ given, id = some given ∧
          (inSessionRange given = false ∨ layer.pool.contains given = true)) ∨
        ∀ topic, config.sharedTopic = some topic →
          inSessionRange (topicId topic) = true ∧ layer.pool.get? (topicId topic) = none := by
  have hdecides : ∀ chosen, layer.chooseId id draws = .ok chosen →
      inSessionRange chosen = true → layer.pool.contains chosen = false →
      (AddsOne layer (layer.createSession config id draws) ↔
        ∀ topic, config.sharedTopic = some topic →
          inSessionRange (topicId topic) = true ∧ layer.pool.get? (topicId topic) = none) := by
    intro chosen hchosen hrange hunused
    rw [addsOne_of_chosen hchosen, id_buildSession]
    rcases config.sharedTopic with _ | topic
    · constructor
      · intro _ topic htopic
        cases htopic
      · intro _
        exact ⟨hrange, (HashMap.contains_eq_false_iff _ _).1 hunused⟩
    · constructor
      · rintro htopic _ ⟨⟩
        exact htopic
      · intro htopic
        exact htopic topic rfl
  cases id with
  | none =>
      obtain ⟨chosen, hmem, hchosen, hunused⟩ := chooseId_none (hfree rfl)
      rw [hdecides chosen hchosen (hdraws chosen hmem) hunused]
      constructor
      · exact Or.inr
      · rintro (⟨given, hgiven, -⟩ | htopic)
        · cases hgiven
        · exact htopic
  | some given =>
      rcases layer.chooseId_some given draws with ⟨error, hrefused, hwhy⟩ | ⟨hchosen, hrange,
        hunused⟩
      · rw [createSession_of_refused hrefused]
        constructor
        · intro _
          exact Or.inl ⟨given, rfl, hwhy⟩
        · intro _
          rfl
      · rw [hdecides given hchosen hrange hunused]
        constructor
        · exact Or.inr
        · rintro (⟨other, hother, hwhy⟩ | htopic)
          · cases hother
            rcases hwhy with hout | hin
            · rw [hrange] at hout
              cases hout
            · rw [hunused] at hin
              cases hin
          · exact htopic

end Create

/-! ### Two sessions for one topic -/

def sampleTopic : AgentType := @AgentType.fromStrings sampleHash "org" "ns" "type"

def sampleLayer : SessionLayer := new ⟨sampleTopic, 7⟩ none

/-- A bidirectional streaming session on the topic. -/
def groupConfig (maxRetries : UInt32) : SessionConfig :=
  .streaming ⟨.Bidirectional, sampleTopic, maxRetries, Duration.fromMillis 1000⟩

/-- The pool with one session on the topic. -/
def sampleLayerAfter : SessionLayer :=
  (@createSession sampleHash sampleLayer (groupConfig 10) none [5]).2

/-- The second call draws a free id, computes the id of the topic in its place, and panics
    after it has replaced the first session. -/
theorem topic_session_replaced :
    let second := @createSession sampleHash sampleLayerAfter (groupConfig 3) none [6]
    (@createSession sampleHash sampleLayer (groupConfig 10) none [5]).1 =
        .created (Info.new 2874509699) ∧
      (sampleLayerAfter.pool.get? 2874509699).map Common.sessionConfig = some (groupConfig 10) ∧
      second.1 = .panicked ∧
      (second.2.pool.get? 2874509699).map Common.sessionConfig = some (groupConfig 3) ∧
      ¬ AddsOne sampleLayerAfter second :=
  ⟨rfl, rfl, rfl, rfl, fun hadds => hadds⟩

theorem createSession_addsOne_iff_sample :
    AddsOne sampleLayer (@createSession sampleHash sampleLayer (groupConfig 10) none [5]) := by
  apply (@createSession_addsOne_iff sampleHash sampleLayer (groupConfig 10) none [5] ?_ ?_).2
  · refine Or.inr ?_
    rintro topic ⟨⟩
    exact ⟨rfl, rfl⟩
  · intro draw hdraw
    rw [List.mem_singleton.mp hdraw]
    rfl
  · intro _
    exact ⟨5, List.mem_cons_self, rfl⟩

end SessionLayer

end Slim
