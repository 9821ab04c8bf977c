import BearerAuth.Config.FromYaml
import BearerAuth.Proofs.Yaml.SlotReading

/-! # Settings that are text

Five settings are text: the secret, where the cache server is and which keys there are ours, and how logs are written.
In a document with a slot each of them is the text in the slot or always the same, and every other setting is always
the same. So two texts are enough to tell which setting the slot is for.
-/

namespace BearerAuth.Config

open BearerAuth.Yaml

/-- A setting that is text. -/
inductive TextSetting where
  | secret
  | url
  | keyspace
  | level
  | format
deriving DecidableEq, Repr

/-- The configuration with some text as the setting. A cache server that was not set has its defaults otherwise. -/
def TextSetting.set (c : Config) (text : String) : TextSetting → Config
  | secret => { c with tokens.secret := text }
  | url => { c with cache.redis := some { c.cache.redis.getD {} with url := text } }
  | keyspace => { c with cache.redis := some { c.cache.redis.getD {} with keyspace := text } }
  | level => { c with logs.level := text }
  | format => { c with logs.format := text }

/-! ## Sections -/

section

variable {base : String} (draft : Draft) {node : String → Node}

theorem told_tokens (holds : Holds node) :
    Told base (fun text => tokens? (draft.filled text) (node text)) fun values =>
      ∃ secret access refresh, Given secret ∧ values = fun text => ⟨secret text, access, refresh⟩ := by
  refine .bind (told_fields draft _ holds) ?_
  rintro _ ⟨known, listed, rfl⟩
  refine .bind (told_field listed _ _ (.inl ⟨_, rfl⟩) fun _ => told_text draft) fun secret given => ?_
  refine .bind (told_field listed _ _ ⟨_, rfl⟩ fun _ => told_nat draft) ?_
  rintro _ ⟨access, rfl⟩
  refine .bind (told_field listed _ _ ⟨_, rfl⟩ fun _ => told_nat draft) ?_
  rintro _ ⟨refresh, rfl⟩
  exact .pure ⟨secret, access, refresh, given, rfl⟩

theorem told_sessions (holds : Holds node) :
    Told base (fun text => sessions? (draft.filled text) (node text)) Constant := by
  refine .bind (told_fields draft _ holds) ?_
  rintro _ ⟨known, listed, rfl⟩
  refine .bind (told_field listed _ _ ⟨_, rfl⟩ fun _ => told_nat draft) ?_
  rintro _ ⟨clients, rfl⟩
  refine .bind (told_field listed _ _ ⟨_, rfl⟩ fun _ => told_nat draft) ?_
  rintro _ ⟨users, rfl⟩
  refine .bind (told_field listed _ _ ⟨_, rfl⟩ fun _ => told_nat draft) ?_
  rintro _ ⟨timeout, rfl⟩
  exact .pure ⟨⟨clients, users, timeout⟩, rfl⟩

theorem told_redis (holds : Holds node) :
    Told base (fun text => redis? (draft.filled text) (node text)) fun values =>
      ∃ url keyspace, Given url ∧ Given keyspace ∧
        values = fun text => ⟨url text, keyspace text⟩ := by
  refine .bind (told_fields draft _ holds) ?_
  rintro _ ⟨known, listed, rfl⟩
  refine .bind (told_field listed _ _ (.inl ⟨_, rfl⟩) fun _ => told_text draft) fun url given => ?_
  refine .bind (told_field listed _ _ (.inl ⟨_, rfl⟩) fun _ => told_text draft) fun keyspace given' => ?_
  exact .pure ⟨url, keyspace, given, given', rfl⟩

/-- The settings of a cache server, or none. -/
def GivenServer (values : String → Option RemoteConfig) : Prop :=
  (values = fun _ => none) ∨ ∃ url keyspace, Given url ∧ Given keyspace ∧
    values = fun text => some ⟨url text, keyspace text⟩

/-- A text that names a backend would be told from others. -/
theorem told_cache (unnamed : Backend.ofName? base = none) (holds : Holds node) :
    Told base (fun text => cache? (draft.filled text) (node text)) fun values =>
      ∃ backend redis, GivenServer redis ∧ values = fun text => ⟨backend, redis text⟩ := by
  have server (node : String → Node) (holds : Holds node) :
      Told base (fun text => (draft.filled text).optional? (redis? (draft.filled text)) (node text))
        GivenServer := by
    refine (told_optional draft (told_redis draft holds) holds).mono ?_
    rintro _ (rfl | ⟨_, ⟨url, keyspace, given, given', rfl⟩, rfl⟩)
    · exact .inl rfl
    · exact .inr ⟨url, keyspace, given, given', rfl⟩
  refine .bind (told_fields draft _ holds) ?_
  rintro _ ⟨known, listed, rfl⟩
  refine .bind (told_field listed _ _ ⟨_, rfl⟩ fun _ => told_named draft unnamed) ?_
  rintro _ ⟨backend, rfl⟩
  refine .bind (told_field listed _ _ (.inl rfl) server) fun redis given => ?_
  exact .pure ⟨backend, redis, given, rfl⟩

theorem told_rateLimits (holds : Holds node) :
    Told base (fun text => rateLimits? (draft.filled text) (node text)) Constant := by
  refine .bind (told_fields draft _ holds) ?_
  rintro _ ⟨known, listed, rfl⟩
  refine .bind (told_field listed _ _ ⟨_, rfl⟩ fun _ => told_float draft) ?_
  rintro _ ⟨capacity, rfl⟩
  refine .bind (told_field listed _ _ ⟨_, rfl⟩ fun _ => told_float draft) ?_
  rintro _ ⟨refill, rfl⟩
  refine .bind (told_field listed _ _ ⟨_, rfl⟩ fun _ => told_nat draft) ?_
  rintro _ ⟨idle, rfl⟩
  refine .bind (told_field listed _ _ ⟨_, rfl⟩ fun _ => told_nat draft) ?_
  rintro _ ⟨sweep, rfl⟩
  exact .pure ⟨⟨capacity, refill, idle, sweep⟩, rfl⟩

theorem told_logs (holds : Holds node) :
    Told base (fun text => logs? (draft.filled text) (node text)) fun values =>
      ∃ level format, Given level ∧ Given format ∧
        values = fun text => ⟨level text, format text⟩ := by
  refine .bind (told_fields draft _ holds) ?_
  rintro _ ⟨known, listed, rfl⟩
  refine .bind (told_field listed _ _ (.inl ⟨_, rfl⟩) fun _ => told_text draft) fun level given => ?_
  refine .bind (told_field listed _ _ (.inl ⟨_, rfl⟩) fun _ => told_text draft) fun format given' => ?_
  exact .pure ⟨level, format, given, given', rfl⟩

end

/-! ## The whole configuration -/

/-- A configuration for each text in the slot, which depends on it in settings that are text only. -/
inductive Depends : (String → Config) → Prop
  | intro {secret level format : String → String} {redis : String → Option RemoteConfig}
    (access refresh : Nat) (sessions : Sessions) (backend : Backend) (limits : RateLimits)
    (given_secret : Given secret) (given_redis : GivenServer redis) (given_level : Given level)
    (given_format : Given format) :
    Depends fun text => ⟨⟨secret text, access, refresh⟩, sessions, ⟨backend, redis text⟩, limits,
      ⟨level text, format text⟩⟩

theorem told_config {base : String} (unnamed : Backend.ofName? base = none) (draft : Draft) : Told base (fun text => ofDocument? (draft.filled text)) Depends := by
  refine .bind (told_fields draft _ fun _ => draft.root_varies) ?_
  rintro _ ⟨known, listed, rfl⟩
  refine .bind (told_field listed _ _ ⟨_, 900, 604800, .inl ⟨_, rfl⟩, rfl⟩ fun _ => told_tokens draft) ?_
  rintro _ ⟨secret, access, refresh, given, rfl⟩
  refine .bind (told_field listed _ _ ⟨_, rfl⟩ fun _ => told_sessions draft) ?_
  rintro _ ⟨sessions, rfl⟩
  refine .bind (told_field listed _ _ ⟨.memory, _, .inl rfl, rfl⟩ fun _ => told_cache draft unnamed) ?_
  rintro _ ⟨backend, redis, server, rfl⟩
  refine .bind (told_field listed _ _ ⟨_, rfl⟩ fun _ => told_rateLimits draft) ?_
  rintro _ ⟨limits, rfl⟩
  refine .bind (told_field listed _ _ ⟨_, _, .inl ⟨_, rfl⟩, .inl ⟨_, rfl⟩, rfl⟩ fun _ => told_logs draft) ?_
  rintro _ ⟨level, format, given_level, given_format, rfl⟩
  exact .pure ⟨access, refresh, sessions, backend, limits, given, server, given_level, given_format⟩

variable {first second : String}

theorem GivenServer.eq_const {values : String → Option RemoteConfig} (given : GivenServer values)
    {server : Option RemoteConfig} (other : first ≠ second) (at_first : values first = server)
    (at_second : values second = server) : values = fun _ => server := by
  obtain rfl | ⟨url, keyspace, given, given', rfl⟩ := given
  · rw [← at_first]
  · subst at_first
    simp only [Option.some.injEq, RemoteConfig.mk.injEq] at at_second
    funext text
    rw [congrFun (given.eq_const other rfl at_second.1) text, congrFun (given'.eq_const other rfl at_second.2) text]

theorem GivenServer.eq_url {values : String → Option RemoteConfig} (given : GivenServer values)
    {server : RemoteConfig} (other : first ≠ second) (at_first : values first = some { server with url := first })
    (at_second : values second = some { server with url := second }) :
    values = fun text => some { server with url := text } := by
  obtain rfl | ⟨url, keyspace, given, given', rfl⟩ := given
  · cases at_first
  · simp only [Option.some.injEq, RemoteConfig.mk.injEq] at at_first at_second
    simp only [given.eq_id other at_first.1 at_second.1, given'.eq_const other at_first.2 at_second.2, id]

theorem GivenServer.eq_keyspace {values : String → Option RemoteConfig} (given : GivenServer values)
    {server : RemoteConfig} (other : first ≠ second)
    (at_first : values first = some { server with keyspace := first })
    (at_second : values second = some { server with keyspace := second }) :
    values = fun text => some { server with keyspace := text } := by
  obtain rfl | ⟨url, keyspace, given, given', rfl⟩ := given
  · cases at_first
  · simp only [Option.some.injEq, RemoteConfig.mk.injEq] at at_first at_second
    simp only [given.eq_const other at_first.1 at_second.1, given'.eq_id other at_first.2 at_second.2, id]

/-- If a setting is the text in the slot for two texts there, it is so for every text. -/
theorem Depends.eq_set {values : String → Config} (depends : Depends values) {setting : TextSetting}
    {c : Config} (other : first ≠ second) (at_first : values first = setting.set c first)
    (at_second : values second = setting.set c second) : values = (setting.set c ·) := by
  obtain ⟨access, refresh, sessions, backend, limits, secret, redis, level, format⟩ := depends
  obtain ⟨⟨secret', access', refresh'⟩, sessions', ⟨backend', redis'⟩, limits', ⟨level', format'⟩⟩ := c
  cases setting <;>
    simp only [TextSetting.set, Config.mk.injEq, Tokens.mk.injEq, Cache.mk.injEq, Logs.mk.injEq]
      at at_first at_second ⊢ <;>
    obtain ⟨⟨secret_first, rfl, rfl⟩, rfl, ⟨rfl, redis_first⟩, rfl, level_first, format_first⟩ := at_first <;>
    obtain ⟨⟨secret_second, -, -⟩, -, ⟨-, redis_second⟩, -, level_second, format_second⟩ := at_second
  case secret =>
    rw [secret.eq_id other secret_first secret_second, redis.eq_const other redis_first redis_second,
      level.eq_const other level_first level_second, format.eq_const other format_first format_second]
    rfl
  case url =>
    rw [secret.eq_const other secret_first secret_second, redis.eq_url other redis_first redis_second,
      level.eq_const other level_first level_second, format.eq_const other format_first format_second]
  case keyspace =>
    rw [secret.eq_const other secret_first secret_second,
      redis.eq_keyspace other redis_first redis_second,
      level.eq_const other level_first level_second, format.eq_const other format_first format_second]
  case level =>
    rw [secret.eq_const other secret_first secret_second, redis.eq_const other redis_first redis_second,
      level.eq_id other level_first level_second, format.eq_const other format_first format_second]
    rfl
  case format =>
    rw [secret.eq_const other secret_first secret_second, redis.eq_const other redis_first redis_second,
      level.eq_const other level_first level_second, format.eq_id other format_first format_second]
    rfl

end BearerAuth.Config
