import BearerAuth.Proofs.Config.TextSettings
import BearerAuth.Proofs.Yaml.EntryLine
import BearerAuth.Proofs.Yaml.Omission

/-! # Settings without their entry

Each setting that is text has a key of its own, which no other setting and no section has. So without its entry, or the
section that holds nothing else, every other setting is what it was.
-/

namespace BearerAuth.Config

open BearerAuth.Yaml

namespace TextSetting

/-- The key that the setting has in its section. -/
def key : TextSetting → String
  | secret => "secret"
  | url => "url"
  | keyspace => "namespace"
  | level => "level"
  | format => "format"

/-- The key of the section that the setting stands in. -/
def parent : TextSetting → String
  | secret => "jwt"
  | url | keyspace => "redis"
  | level | format => "logging"

theorem key_ne_key {setting other : TextSetting} (unlike : other ≠ setting) : other.key ≠ setting.key := by
  revert unlike
  cases setting <;> cases other <;> decide

/-- All keys of settings and of their sections. -/
def names : List String := ["secret", "url", "namespace", "level", "format", "jwt", "redis", "logging"]

theorem key_mem_names (setting : TextSetting) : setting.key ∈ names := by
  cases setting <;> decide

theorem parent_mem_names (setting : TextSetting) : setting.parent ∈ names := by
  cases setting <;> decide

theorem key_ne_parent (setting other : TextSetting) : other.key ≠ setting.parent := by
  cases setting <;> cases other <;> decide

theorem isWord_key (setting : TextSetting) : IsWord setting.key.toList := by
  cases setting <;> exact ⟨by decide, List.all_eq_true.mp (by decide), by decide⟩

/-- An entry for the setting. -/
def entry (setting : TextSetting) (text : List Char) : Entry := ⟨setting.parent.toList, setting.key.toList, text⟩

/-- Of two texts that are put there, the later one stays. -/
theorem set_set (setting : TextSetting) (c : Config) (text text' : String) :
    setting.set (setting.set c text) text' = setting.set c text' := by
  cases setting <;> rfl

end TextSetting

/-! ## Sections but for one setting -/

variable (setting : TextSetting)

/-- All settings but the one are the same. -/
def Tokens.SameBut (a b : Tokens) : Prop :=
  (setting ≠ .secret → a.secret = b.secret) ∧ a.accessTtlSecs = b.accessTtlSecs ∧ a.refreshTtlSecs = b.refreshTtlSecs

/-- Both settings are the same, unless they are the one. -/
def ServerSameBut (a b : RemoteConfig) : Prop :=
  (setting ≠ .url → a.url = b.url) ∧ (setting ≠ .keyspace → a.keyspace = b.keyspace)

/-- All settings but the one are the same. For the settings of a server, one that was not set has its defaults. -/
def ServersSameBut (a b : Option RemoteConfig) : Prop :=
  ServerSameBut setting (a.getD {}) (b.getD {}) ∧ (setting ≠ .url → setting ≠ .keyspace → a = b)

def Cache.SameBut (a b : Cache) : Prop := a.backend = b.backend ∧ ServersSameBut setting a.redis b.redis

def Logs.SameBut (a b : Logs) : Prop :=
  (setting ≠ .level → a.level = b.level) ∧ (setting ≠ .format → a.format = b.format)

def SameBut (a b : Config) : Prop :=
  a.tokens.SameBut setting b.tokens ∧ a.sessions = b.sessions ∧ a.cache.SameBut setting b.cache ∧
    a.rateLimits = b.rateLimits ∧ a.logs.SameBut setting b.logs

variable {setting}

theorem ServersSameBut.refl (server : Option RemoteConfig) : ServersSameBut setting server server :=
  ⟨⟨fun _ => rfl, fun _ => rfl⟩, fun _ _ => rfl⟩

theorem ServersSameBut.of_rel {a b : Option RemoteConfig} (rel : Option.Rel (ServerSameBut setting) a b) :
    ServersSameBut setting a b := by
  cases rel with
  | none => exact .refl none
  | @some a b same =>
    refine ⟨same, fun noUrl noKeyspace => ?_⟩
    obtain ⟨url, keyspace⟩ := a
    obtain ⟨url', keyspace'⟩ := b
    obtain rfl : url = url' := same.1 noUrl
    obtain rfl : keyspace = keyspace' := same.2 noKeyspace
    rfl

/-- With the same text as the one setting, such configurations are the same. -/
theorem SameBut.set {a b : Config} (same : a.SameBut setting b) (text : String) :
    setting.set a text = setting.set b text := by
  obtain ⟨⟨secret, access, refresh⟩, sessions, ⟨backend, redis⟩, limits, ⟨level, format⟩⟩ := a
  obtain ⟨⟨secret', access', refresh'⟩, sessions', ⟨backend', redis'⟩, limits', ⟨level', format'⟩⟩ := b
  simp only [SameBut, Tokens.SameBut, Cache.SameBut, ServersSameBut, ServerSameBut, Logs.SameBut] at same
  cases setting <;> simp_all [TextSetting.set]

/-! ## Reading -/

section

variable {text : List Char} {known known' : List (String × Node)}
  (without : FieldsLack (setting.entry text) known known')

include without

/-- A field that is neither the setting nor the section that it stands in. -/
theorem other_field {α : Type} {name : String} (other : name ≠ setting.key) (otherParent : name ≠ setting.parent)
    {related : α → α → Prop} {absent : α} (missing : related absent absent) {read read' : Node → Option α}
    (values : ∀ node node', Lacks (setting.entry text) node node' → Consistent related (read node) (read' node')) :
    Consistent related (field known name absent read) (field known' name absent read') := by
  have key : String.ofList (setting.entry text).key = setting.key := String.ofList_toList
  have parent : String.ofList (setting.entry text).parent = setting.parent := String.ofList_toList
  exact without.field (key ▸ other) missing values fun here => absurd (here.trans parent) otherParent

/-- A section, which may be the one that the setting stands in. -/
theorem section_field {α : Type} {d d' : Document} (lacks : d.Lacks (setting.entry text) d') {name : String}
    (other : name ≠ setting.key) {related : α → α → Prop} {absent : α} (missing : related absent absent)
    {read read' : Node → Option α}
    (values : ∀ node node', EntriesLack (setting.entry text) d d' node node' →
      Consistent related (read node) (read' node')) :
    Consistent related (field known name absent read) (field known' name absent read') := by
  have key : String.ofList (setting.entry text).key = setting.key := String.ofList_toList
  exact without.field (key ▸ other) missing (fun node node' same => values node node' (lacks.entries same))
    fun _ => values _ _ (entriesLack_whole _ d d')

variable {d d' : Document} (lacks : d.Lacks (setting.entry text) d')

include lacks

theorem text_field (own : TextSetting) (absent : String) :
    Consistent (fun a b => setting ≠ own → a = b) (field known own.key absent d.text?)
      (field known' own.key absent d'.text?) := by
  by_cases same : setting = own
  · exact fun _ _ _ _ other => absurd same other
  · refine other_field without (TextSetting.key_ne_key (Ne.symm same)) (TextSetting.key_ne_parent _ _) (fun _ => rfl) ?_
    exact fun node node' same a found b found' _ => lacks.text same a found b found'

theorem nat_field {name : String} (other : name ∉ TextSetting.names) (absent : Nat) :
    Consistent (· = ·) (field known name absent d.nat?) (field known' name absent d'.nat?) :=
  other_field without (ne_of_mem_of_not_mem setting.key_mem_names other).symm
    (ne_of_mem_of_not_mem setting.parent_mem_names other).symm rfl fun _ _ => lacks.nat

theorem float_field {name : String} (other : name ∉ TextSetting.names) (absent : Float) :
    Consistent (· = ·) (field known name absent d.float?) (field known' name absent d'.float?) :=
  other_field without (ne_of_mem_of_not_mem setting.key_mem_names other).symm
    (ne_of_mem_of_not_mem setting.parent_mem_names other).symm rfl fun _ _ => lacks.float

end

section

variable {text : List Char} {d d' : Document} (lacks : d.Lacks (setting.entry text) d')
  {node node' : Node} (lack : EntriesLack (setting.entry text) d d' node node')

include lacks lack

theorem consistent_tokens : Consistent (Tokens.SameBut setting) (tokens? d node) (tokens? d' node') := by
  refine .bind (lacks.fields _ lack) fun known known' without => ?_
  refine .bind (text_field without lacks .secret _) fun secret secret' equal => ?_
  refine .bind (nat_field without lacks (by decide) _) ?_
  rintro access _ rfl
  refine .bind (nat_field without lacks (by decide) _) ?_
  rintro refresh _ rfl
  exact .pure ⟨equal, rfl, rfl⟩

theorem consistent_sessions : Consistent (· = ·) (sessions? d node) (sessions? d' node') := by
  refine .bind (lacks.fields _ lack) fun known known' without => ?_
  refine .bind (nat_field without lacks (by decide) _) ?_
  rintro clients _ rfl
  refine .bind (nat_field without lacks (by decide) _) ?_
  rintro users _ rfl
  refine .bind (nat_field without lacks (by decide) _) ?_
  rintro timeout _ rfl
  exact .pure rfl

theorem consistent_redis : Consistent (ServerSameBut setting) (redis? d node) (redis? d' node') := by
  refine .bind (lacks.fields _ lack) fun known known' without => ?_
  refine .bind (text_field without lacks .url _) fun url url' equal => ?_
  refine .bind (text_field without lacks .keyspace _) fun keyspace keyspace' equal' => ?_
  exact .pure ⟨equal, equal'⟩

omit lack in
/-- Where the entry was alone in the section of the server, no server is set without it. -/
theorem consistent_servers {known known' : List (String × Node)}
    (without : FieldsLack (setting.entry text) known known') :
    Consistent (ServersSameBut setting) (field known "redis" none (d.optional? (redis? d)))
      (field known' "redis" none (d'.optional? (redis? d'))) := by
  have other : "redis" ≠ String.ofList (setting.entry text).key := by
    rw [TextSetting.entry, String.ofList_toList]
    exact (TextSetting.key_ne_parent .url setting).symm
  refine without.field other (.refl none) ?_ ?_
  · intro node node' same server found server' found'
    exact .of_rel (lacks.optional (consistent_redis lacks (lacks.entries same)) same server found server' found')
  · rw [TextSetting.entry, String.ofList_toList]
    intro parent server found server' found'
    obtain ⟨remote, read, ⟨⟩⟩ := Option.bind_eq_some_iff.mp found
    cases found'
    refine ⟨consistent_redis lacks (entriesLack_whole _ d d') remote read {} rfl, fun noUrl noKeyspace => ?_⟩
    cases setting
    case url => exact absurd rfl noUrl
    case keyspace => exact absurd rfl noKeyspace
    all_goals exact absurd parent (by decide)

theorem consistent_cache : Consistent (Cache.SameBut setting) (cache? d node) (cache? d' node') := by
  refine .bind (lacks.fields _ lack) fun known known' without => ?_
  refine .bind (other_field without (by cases setting <;> decide) (by cases setting <;> decide) rfl
    fun node node' => lacks.named Backend.ofName?) ?_
  rintro backend _ rfl
  exact .bind (consistent_servers lacks without) fun redis redis' same => .pure ⟨rfl, same⟩

theorem consistent_rateLimits : Consistent (· = ·) (rateLimits? d node) (rateLimits? d' node') := by
  refine .bind (lacks.fields _ lack) fun known known' without => ?_
  refine .bind (float_field without lacks (by decide) _) ?_
  rintro capacity _ rfl
  refine .bind (float_field without lacks (by decide) _) ?_
  rintro refill _ rfl
  refine .bind (nat_field without lacks (by decide) _) ?_
  rintro idle _ rfl
  refine .bind (nat_field without lacks (by decide) _) ?_
  rintro sweep _ rfl
  exact .pure rfl

theorem consistent_logs : Consistent (Logs.SameBut setting) (logs? d node) (logs? d' node') := by
  refine .bind (lacks.fields _ lack) fun known known' without => ?_
  refine .bind (text_field without lacks .level _) fun level level' equal => ?_
  refine .bind (text_field without lacks .format _) fun format format' equal' => ?_
  exact .pure ⟨equal, equal'⟩

end

/-- What documents describe that are the same but for the entry is the same but for the setting. -/
theorem consistent_config {text : List Char} {d d' : Document} (lacks : d.Lacks (setting.entry text) d') :
    Consistent (SameBut setting) (ofDocument? d) (ofDocument? d') := by
  refine .bind (lacks.fields _ (lacks.entries lacks.root)) fun known known' without => ?_
  refine .bind (section_field without lacks (by cases setting <;> decide)
    ⟨fun _ => rfl, rfl, rfl⟩ fun _ _ => consistent_tokens lacks) fun tokens tokens' sameTokens => ?_
  refine .bind (section_field without lacks (by cases setting <;> decide) rfl
    fun _ _ => consistent_sessions lacks) ?_
  rintro sessions _ rfl
  refine .bind (section_field without lacks (by cases setting <;> decide)
    ⟨rfl, .refl none⟩ fun _ _ => consistent_cache lacks) fun cache cache' sameCache => ?_
  refine .bind (section_field without lacks (by cases setting <;> decide) rfl
    fun _ _ => consistent_rateLimits lacks) ?_
  rintro limits _ rfl
  refine .bind (section_field without lacks (by cases setting <;> decide)
    ⟨fun _ => rfl, fun _ => rfl⟩ fun _ _ => consistent_logs lacks) fun logs logs' sameLogs => ?_
  exact .pure ⟨sameTokens, rfl, sameCache, rfl, sameLogs⟩

end BearerAuth.Config
