import BearerAuth.Proofs.Account.Reading
import BearerAuth.Proofs.Session.Alone
import BearerAuth.Proofs.Session.Ledger

/-! # Sessions keep to the ledger

However operations follow one another, the world stays in step with the ledger of their results, so
that what a token is answered by is told from the ledger alone.
-/

namespace BearerAuth

open BearerAuth.Time

namespace Ledger

variable {source : Nat → List UInt8} {config : SessionConfig} {l : Ledger} {w w' : World}
  {operation : Operation} {result : Except AuthError Outcome}

/-! ## Steps -/

theorem Tracks.start (source : Nat → List UInt8) (config : TokenConfig) {clock : Instant}
    (recent : Instant.epoch ≤ clock) : empty.Tracks source config (.empty clock) where
  recent := recent
  kept userId user found := by cases found
  faithful userId entry found := by cases found
  names := by rintro userId ⟨key, user, found, -⟩; cases found
  past u c p returned := by cases returned
  apart := by rintro u c t u' c' t' ⟨p, returned, -⟩; cases returned
  among u c p live := by cases live
  marked := by rintro u c t ⟨p, live, -⟩; cases live
  unmarked t _ marked := by cases marked

theorem Tracks.insertUser (tracks : l.Tracks source config.tokens w) {user : User}
    (named : Named user.id) :
    l.Tracks source config.tokens { w with directory := w.directory.insertUser user } where
  recent := tracks.recent
  kept userId other found := by
    simp only [MemoryDirectory.insertUser, Table.get?_insert] at found
    split_ifs at found with same
    · cases found
      exact same.symm
    · exact tracks.kept userId other found
  faithful := tracks.faithful
  names := by
    rintro userId ⟨key, other, found, same⟩
    simp only [MemoryDirectory.insertUser, Table.get?_insert] at found
    split_ifs at found
    · cases found
      exact same ▸ named
    · exact tracks.names userId ⟨key, other, found, same⟩
  past u c p returned := by
    have of := tracks.past u c p returned
    obtain ⟨other, found⟩ := of.record
    refine { of with record := ?_ }
    simp only [MemoryDirectory.findWithRoles, MemoryDirectory.insertUser, Table.get?_insert]
    split_ifs
    · exact ⟨user, rfl⟩
    · exact ⟨other, found⟩
  apart := tracks.apart
  among := tracks.among
  marked := tracks.marked
  unmarked := tracks.unmarked

/-- A purge drops no marker of a token that still counts. -/
theorem Tracks.purge (tracks : l.Tracks source config.tokens w) :
    l.Tracks source config.tokens { w with cache := (w.cache.purge w.clock).2 } where
  recent := tracks.recent
  kept := tracks.kept
  faithful userId entry found := by
    rw [MemoryCache.lookup?_purge] at found
    exact tracks.faithful userId entry (Option.filter_eq_some_iff.mp found).1
  names := tracks.names
  past u c p returned := { tracks.past u c p returned with }
  apart := tracks.apart
  among := tracks.among
  marked u c t live counts := by
    obtain ⟨entry, found, lasting⟩ := tracks.marked u c t live counts
    refine ⟨entry, ?_, lasting⟩
    have alive := Instant.not_lt_of_le (Int.le_trans counts lasting : w.clock ≤ entry.expiresAt)
    rw [MemoryCache.lookup?_purge, found]
    simpa [CacheEntry.isExpired, Option.filter] using alive
  unmarked t plain marked := by
    obtain ⟨entry, found⟩ := Option.isSome_iff_exists.mp marked
    rw [MemoryCache.lookup?_purge] at found
    have before := (Option.filter_eq_some_iff.mp found).1
    exact tracks.unmarked t plain (by simp [before])

theorem quiet_insertClient (w : World) (client : Client) :
    w.Quiet { w with directory := w.directory.insertClient client } :=
  ⟨⟨fun _ _ => rfl, rfl, rfl, Nat.le_refl _, Int.le_refl _, fun _ faithful => faithful⟩, rfl⟩

/-! ## Operations -/

/-- The names of an operation's target come from its own and from the record. -/
theorem Tracks.named (tracks : l.Tracks source config.tokens w) (named : operation.Named)
    {target : Target} (acts : operation.target? config.tokens w.directory = some target) :
    target.Named := by
  have byEmail {email : String} {client : Client} (named : Named client.clientType.name)
      (acts : (do
        let user ← w.directory.findByEmail email
        some (Target.session user.id client.clientType)) = some target) : target.Named := by
    obtain ⟨user, found, same⟩ := Option.bind_eq_some_iff.mp acts
    cases same
    obtain ⟨key, -, found⟩ := Option.bind_eq_some_iff.mp found
    exact ⟨tracks.names user.id ⟨key, user, found, rfl⟩, named⟩
  cases operation with
  | login client email password => exact byEmail named acts
  | loginAnonymous client email => exact byEmail named acts
  | refresh client raw =>
    obtain ⟨claims, -, acts⟩ := Option.bind_eq_some_iff.mp acts
    obtain ⟨user, found, same⟩ := Option.bind_eq_some_iff.mp acts
    cases same
    exact ⟨tracks.names user.id ⟨claims.userId, user, found, rfl⟩, named⟩
  | logout userId clientType =>
    cases acts
    exact named
  | logoutAll userId =>
    cases acts
    exact named
  | _ => cases acts

theorem after_error (l : Ledger) (target : Option Target) (e : AuthError) :
    l.after target (.error e) = l := by
  unfold after
  split <;> simp_all

/-- An operation that runs alone keeps the world in step, if the settings allow tokens. -/
theorem Tracks.operate (tracks : l.Tracks source config.tokens w) (named : operation.Named)
    (issues : config.tokens.Issues .epoch w'.clock) (apart : System.DrawsApart source w'.drawn)
    (ends : (operation.program config).Ends source w result w') :
    (l.after (operation.target? config.tokens w.directory) result).Tracks source config.tokens w' := by
  have changes := (operation.ensures source w'.clock).ends ends (Int.le_refl _)
  cases result with
  | error e =>
    rw [after_error]
    rcases changes.2 e rfl with quiet | ⟨userId, clientType, acts, -, kind, now, e', later, within, failed⟩
    · exact tracks.quiet quiet
    · have names := tracks.named named acts
      obtain ⟨expiresAt, found⟩ := issues userId clientType names.1.1 names.2.1 kind now
        (Int.le_trans tracks.recent later) within
      cases failed.symm.trans found
  | ok outcome =>
    have changed := changes.1 outcome rfl
    cases outcome with
    | pair p =>
      obtain ⟨userId, clientType, w₁, acts, records, quiet, begun⟩ := changed
      rw [acts]
      refine (tracks.quiet quiet).issue begun apart (tracks.named named acts) ?_
      rwa [MemoryDirectory.Records, quiet.users]
    | finished =>
      cases acts : operation.target? config.tokens w.directory with
      | none =>
        simp only [Operation.Changes, acts] at changed
        exact tracks.quiet changed
      | some target =>
        simp only [Operation.Changes, acts] at changed
        have cleared : l.after (some target) (.ok .finished) = l.clear target := by cases target <;> rfl
        rw [cleared]
        exact tracks.revoked (tracks.named named acts).plain changed
    | client client =>
      rw [changed.1]
      exact tracks.quiet changed.2
    | user user =>
      rw [changed.1]
      exact tracks.quiet changed.2

end Ledger

namespace Session.Runs

variable {source : Nat → List UInt8} {config : SessionConfig} {l : Ledger} {w : World}

/-- However operations follow one another, the world stays in step. -/
theorem tracks (runs : Runs config source w l) (issues : config.tokens.Issues .epoch w.clock)
    (apart : System.DrawsApart source w.drawn) : l.Tracks source config.tokens w := by
  induction runs with
  | start clock recent => exact .start source config.tokens recent
  | @operate w w' l operation result before named ends ih =>
    have leaves : w.drawn ≤ w'.drawn ∧ w.clock ≤ w'.clock := by
      cases acts : operation.target? config.tokens w.directory with
      | none => exact ⟨(Operation.quiet ends acts).drawn, (Operation.quiet ends acts).clock⟩
      | some target =>
        exact ⟨(Operation.leaves_beyond ends acts).drawn, (Operation.leaves_beyond ends acts).clock⟩
    exact (ih (issues.mono leaves.2) (apart.mono leaves.1)).operate named issues apart ends
  | insertUser before user named ih => exact (ih issues apart).insertUser named
  | insertClient before client ih => exact (ih issues apart).quiet (Ledger.quiet_insertClient _ client)
  | purge before ih => exact (ih issues apart).purge
  | wait before now later ih =>
    exact (ih (issues.mono later) apart).quiet (World.quiet_setClock later)

end Session.Runs

/-! ## Answers -/

/-- The token of that kind. -/
def TokenPair.ofKind (p : TokenPair) : TokenKind → Token
  | .access => p.access
  | .refresh => p.refresh

namespace Ledger

/-- How a token that was returned for a session is answered where a live one of that kind is asked
for, on a client type and at a time. -/
def judge (l : Ledger) (kind : TokenKind) (userId : String) (clientType : ClientType) (t : Token)
    (on : ClientType) (now : Instant) : Except AuthError Unit :=
  if t.expiresAt.instant < now then .error (.unauthorized .tokenExpired)
  else if on = clientType ∧ (l.live userId clientType).map (·.ofKind kind) = some t then .ok ()
  else .error (.unauthorized .tokenRevoked)

variable {source : Nat → List UInt8} {config : SessionConfig} {l : Ledger} {w : World}
  {userId : String} {clientType : ClientType} {t : Token}

/-- A token that counts has its marker on a client type if it is live there and of that kind. -/
theorem Tracks.holds_iff (tracks : l.Tracks source config.tokens w)
    (returned : l.Returned userId clientType t) (counts : w.clock ≤ t.expiresAt.instant)
    (kind : TokenKind) (on : ClientType) :
    w.cache.holds w.clock (markerArea kind userId on) t.id = true ↔
      on = clientType ∧ (l.live userId clientType).map (·.ofKind kind) = some t := by
  obtain ⟨p, noted, member⟩ := returned
  have of := tracks.past userId clientType p noted
  obtain ⟨user, type⟩ := of.owner t member
  have plain := of.colonFree_id member
  constructor
  · intro held
    obtain ⟨entry, found, -⟩ := MemoryCache.holds_iff.mp held
    let asked : Token := { t with kind, userId, clientType := on }
    have marked : (w.cache.lookup? asked.markerKey).isSome := by
      simp [asked, Token.markerKey, found]
    -- The marker is that of a live token, which has the same id and so is this one.
    obtain ⟨u, c, t', ⟨q, live, member'⟩, same⟩ := tracks.unmarked asked plain marked
    have of' := tracks.of live
    have plain' : ColonFree asked.id := plain
    have ids : t'.id = asked.id := Token.markerKey_inj (of'.colonFree_id member') plain' same
    obtain rfl := tracks.apart _ _ _ _ _ _ ⟨q, tracks.among _ _ _ live, member'⟩ ⟨p, noted, member⟩ ids
    have users : t'.userId = asked.userId := user
    have kinds : t'.kind = kind := Token.kind_eq_of_markerKey same
    have types : t'.clientType = on := Token.clientType_eq_of_markerKey plain plain' users same
    obtain ⟨user', type'⟩ := of'.owner t' member'
    obtain rfl := user'.symm.trans user
    obtain rfl := type'.symm.trans type
    refine ⟨types.symm.trans type, ?_⟩
    rw [live, Option.map_some, Option.some.injEq, ← kinds]
    rcases List.mem_pair.mp member' with rfl | rfl
    · rw [of'.kinds.1]
      rfl
    · rw [of'.kinds.2]
      rfl
  · rintro ⟨rfl, found⟩
    obtain ⟨q, live, rfl⟩ := Option.map_eq_some_iff.mp found
    have member' : q.ofKind kind ∈ q.tokens := by cases kind <;> simp [TokenPair.ofKind, TokenPair.tokens]
    have kinds : (q.ofKind kind).kind = kind := by
      cases kind with
      | access => exact (tracks.of live).kinds.1
      | refresh => exact (tracks.of live).kinds.2
    obtain ⟨entry, kept, lasting⟩ := tracks.marked userId on _ ⟨q, live, member'⟩ counts
    rw [Token.markerKey, kinds, user, type] at kept
    have alive := Instant.not_lt_of_le (Int.le_trans counts lasting : w.clock ≤ entry.expiresAt)
    exact MemoryCache.holds_iff.mpr ⟨entry, kept, by simpa [CacheEntry.isExpired] using alive⟩

/-- What a token is accepted for, and what it is refused with. -/
theorem Tracks.accept (tracks : l.Tracks source config.tokens w)
    (returned : l.Returned userId clientType t) {kind : TokenKind} {on : ClientType} {α : Type}
    {goal : α → World → Prop} {rest : Claims → Session α}
    (accepted : l.judge kind userId clientType t on w.clock = .ok () →
      Session.Ensures source w.clock goal
        (fun e _ => l.judge kind userId clientType t on w.clock = .error e)
        (rest (Claims.ofToken t)) w) :
    Session.Ensures source w.clock goal
      (fun e _ => l.judge kind userId clientType t on w.clock = .error e) (do
        let claims ← Session.validated config t.raw
        Session.requireMarker config kind claims.userId on claims.tokenId
        rest claims) w := by
  obtain ⟨p, noted, member⟩ := returned
  have of := tracks.past userId clientType p noted
  have user := (of.owner t member).1
  have validates := (of.genuine t member).validate of.secretSet (of.recent t member)
  have holds (counts : w.clock ≤ t.expiresAt.instant) :=
    tracks.holds_iff ⟨p, noted, member⟩ counts kind on
  refine Session.accept_ensures_still (fun e failed => ?_) (fun claims valid absent => ?_)
    fun claims valid held => ?_
  · rw [validates] at failed
    split_ifs at failed with past
    cases failed
    exact if_pos past
  · rw [validates] at valid
    split_ifs at valid with past
    cases valid
    have counts : w.clock ≤ t.expiresAt.instant := Int.not_lt.mp past
    have unmarked : w.cache.holds w.clock (markerArea kind userId on) t.id = false := user ▸ absent
    rw [judge, if_neg past, if_neg fun live => ?_]
    simp [(holds counts).mpr live] at unmarked
  · rw [validates] at valid
    split_ifs at valid with past
    cases valid
    have counts : w.clock ≤ t.expiresAt.instant := Int.not_lt.mp past
    have marked : w.cache.holds w.clock (markerArea kind userId on) t.id = true := user ▸ held
    exact accepted (by rw [judge, if_neg past, if_pos ((holds counts).mp marked)])

end Ledger

namespace Session

variable {source : Nat → List UInt8} {config : SessionConfig} {l : Ledger} {w : World}
  {userId : String} {clientType : ClientType} {t : Token}

/-- What is read from under a user's id is a copy of that user. -/
theorem copy_decodes {now : Instant} {bytes : List UInt8} (faithful : w.Faithful)
    (read : (w.cache.get now userArea userId).1 = some bytes) :
    ∃ user, user.id = userId ∧ decodeCached User.reader bytes = .ok user := by
  obtain ⟨entry, there, same⟩ := MemoryCache.lookup?_of_get read
  obtain ⟨user, id, value⟩ := faithful userId entry there
  refine ⟨{ user with credentials := [] }, id, ?_⟩
  rw [← same, value, user.decodeCached_toJson]

/-- A user on record is found, if only as an older copy. -/
theorem cachedUser_finds {latest : Instant} {user : User} (faithful : w.Faithful)
    (kept : w.directory.WellKept) (found : w.directory.findWithRoles userId = some user) :
    Ensures source latest (fun user' _ => user'.id = userId) (fun _ _ => False)
      (cachedUser config userId) w := by
  refine Ensures.bind (ensures_readCached (fun now _ _ _ => ?_) (fun now bytes copy _ _ read decoded => ?_)
    fun now bytes e _ _ read failed => ?_)
  · refine Ensures.bind ((findUser_ensures userId).weaken ?_ ?_)
    · rintro user' w₁ ⟨-, found'⟩
      exact Ensures.bind (ensures_keepCopy fun _ _ _ => ensures_pure (kept userId user' found'))
    · rintro - w₁ ⟨-, missing⟩
      cases found.symm.trans missing
  · obtain ⟨user', id, copied⟩ := copy_decodes faithful read
    obtain rfl := Except.ok.inj (copied.symm.trans decoded)
    exact ensures_pure id
  · obtain ⟨user', -, copied⟩ := copy_decodes faithful read
    cases copied.symm.trans failed

/-- What is ensured about a result is so of the result while time stands still. -/
theorem Ensures.map_runIn {α β : Type} {x : Session α} {f : α → β} {b : β}
    {judged : Except AuthError Unit}
    (ensures : Ensures source w.clock (fun a _ => judged = .ok () ∧ f a = b)
      (fun e _ => judged = .error e) x w) : (x.runIn source w).1.map f = judged.map fun _ => b := by
  obtain ⟨reached, refused⟩ := ensures.runIn
  cases result : (x.runIn source w).1 with
  | error e =>
    rw [refused e result]
    rfl
  | ok a =>
    obtain ⟨passed, same⟩ := reached a result
    rw [passed]
    exact congrArg Except.ok same

theorem authenticate_judged (client : Client) (tracks : l.Tracks source config.tokens w)
    (returned : l.Returned userId clientType t) :
    ((authenticate config client t.raw).runIn source w).1.map User.id =
      (l.judge .access userId clientType t client.clientType w.clock).map fun _ => userId := by
  refine Ensures.map_runIn (tracks.accept returned fun accepted => ?_)
  obtain ⟨p, noted, member⟩ := returned
  have of := tracks.past userId clientType p noted
  obtain ⟨user, found⟩ := of.record
  have same : (Claims.ofToken t).userId = userId := (of.owner t member).1
  rw [same]
  exact (cachedUser_finds tracks.faithful tracks.kept found).weaken (fun _ _ id => ⟨accepted, id⟩)
    fun _ _ => False.elim

theorem refresh_judged (client : Client) (active : client.isActive = true)
    (issues : config.tokens.Issues .epoch w.clock) (tracks : l.Tracks source config.tokens w)
    (returned : l.Returned userId clientType t) :
    ((refresh config client t.raw).runIn source w).1.map (fun _ => ()) =
      l.judge .refresh userId clientType t client.clientType w.clock := by
  have judged : Except.map (fun _ => ())
      (l.judge .refresh userId clientType t client.clientType w.clock) =
        l.judge .refresh userId clientType t client.clientType w.clock := by
    cases l.judge .refresh userId clientType t client.clientType w.clock <;> rfl
  rw [← judged]
  refine Ensures.map_runIn (tracks.accept returned fun accepted => ?_)
  obtain ⟨p, noted, member⟩ := returned
  have of := tracks.past userId clientType p noted
  obtain ⟨user, found⟩ := of.record
  have same : (Claims.ofToken t).userId = userId := (of.owner t member).1
  rw [same]
  refine Ensures.bind ((findUser_ensures userId).weaken ?_ ?_)
  · rintro user' w₁ ⟨quiet, found'⟩
    obtain rfl : user'.id = userId := tracks.kept userId user' found'
    have on : client.clientType = clientType := by
      simp only [Ledger.judge] at accepted
      split_ifs at accepted with past live
      exact live.1
    have serves : Serves config.tokens user'.id client.clientType w₁.clock w.clock := by
      intro kind now first last
      have recent := Int.le_trans tracks.recent (Int.le_trans quiet.clock first)
      exact issues _ _ of.names.1.1 (on ▸ of.names.2.1) kind now recent last
    exact (issueSession_succeeds active serves).weaken (fun _ _ _ => ⟨accepted, rfl⟩)
      fun _ _ => False.elim
  · rintro - w₁ ⟨-, missing⟩
    cases found.symm.trans missing

namespace Runs

/-- However operations follow one another, each token that was returned is answered by the ledger of
their results: an access token by its user where it is live and by a refusal elsewhere, and likewise a
refresh token on an active client. -/
theorem refines_ledger {now : Instant} {p : TokenPair} (runs : Runs config source w l)
    (later : w.clock ≤ now) (issues : config.tokens.Issues .epoch now)
    (apart : System.DrawsApart source w.drawn) (returned : (userId, clientType, p) ∈ l.returned)
    (token : t ∈ p.tokens) (client : Client) :
    ((authenticate config client t.raw).runIn source (w.setClock now)).1.map User.id =
        (l.judge .access userId clientType t client.clientType now).map (fun _ => userId) ∧
      (client.isActive = true →
        ((refresh config client t.raw).runIn source (w.setClock now)).1.map (fun _ => ()) =
          l.judge .refresh userId clientType t client.clientType now) := by
  have tracks : l.Tracks source config.tokens (w.setClock now) := (runs.wait now later).tracks issues apart
  have noted : l.Returned userId clientType t := ⟨p, returned, token⟩
  exact ⟨authenticate_judged client tracks noted,
    fun active => refresh_judged client active issues tracks noted⟩

/-- Ann signs in, and her access token is accepted on the client type it was issued for only. -/
theorem refines_ledger_signedIn : ∃ (w : World) (l : Ledger) (p : TokenPair),
    Runs Sample.config Sample.source w l ∧ l.live "ann" ⟨"WEB"⟩ = some p ∧
    ((authenticate Sample.config (Sample.client "WEB") p.access.raw).runIn Sample.source
      (w.setClock .epoch)).1.map User.id = .ok "ann" ∧
    ((authenticate Sample.config (Sample.client "IOS") p.access.raw).runIn Sample.source
      (w.setClock .epoch)).1.map User.id = .error (.unauthorized .tokenRevoked) := by
  let w₀ : World := { World.empty .epoch with directory := Sample.directory "ann" }
  have ann : Named "ann" := ⟨by decide, by decide⟩
  have web : Named "WEB" := ⟨by decide, by decide⟩
  have start : Runs Sample.config Sample.source w₀ .empty :=
    .insertUser (.start .epoch (Int.le_refl _)) (Sample.user "ann") ann
  have blank : (Text.trim "guest").isEmpty = false := by decide +kernel
  have found : w₀.directory.findByEmail "guest" = some (Sample.user "ann") :=
    Sample.findByEmail_directory "ann"
  have serves : Serves Sample.config.tokens (Sample.user "ann").id (Sample.client "WEB").clientType
      w₀.clock w₀.clock := Sample.serves (by decide) (by decide)
  have signIn : Ensures Sample.source w₀.clock _ _
      (loginAnonymous Sample.config (Sample.client "WEB") "guest") w₀ :=
    loginAnonymous_succeeds blank found rfl rfl serves
  obtain ⟨p, w, ends, clock, w₁, quiet, begun⟩ := signIn.ends_ok
  let operation := Operation.loginAnonymous (Sample.client "WEB") "guest"
  have whole : (operation.program Sample.config).Ends Sample.source w₀ (.ok (.pair p)) w :=
    Ends.passOn Outcome.pair ends
  have acts : operation.target? Sample.config.tokens w₀.directory = some (.session "ann" ⟨"WEB"⟩) := by
    simp only [operation, Operation.target?, found]
    rfl
  have runs : Runs Sample.config Sample.source w (Ledger.empty.issue "ann" ⟨"WEB"⟩ p) := by
    have named : operation.Named := web
    have after := start.operate named whole
    rwa [acts] at after
  have drawn : w.drawn = 2 := begun.drawn.trans (congrArg (· + 2) quiet.still)
  have apart : System.DrawsApart Sample.source w.drawn := System.drawsApart_sample (by omega)
  have issues : Sample.config.tokens.Issues .epoch .epoch := fun _ _ user type => Sample.serves user type
  have live : (Ledger.empty.issue "ann" ⟨"WEB"⟩ p).live "ann" ⟨"WEB"⟩ = some p := by
    simp only [Ledger.issue, and_self, if_true]
  have later : w.clock ≤ Instant.epoch := Int.le_of_eq (congrArg Instant.nanos clock)
  have counts : ¬p.access.expiresAt.instant < Instant.epoch :=
    Instant.not_lt_of_le (Int.le_trans quiet.clock begun.access.le_expiresAt)
  have judged (client : Client) := (runs.refines_ledger later issues apart (List.mem_cons_self ..)
    (List.mem_cons_self ..) client).1
  refine ⟨w, _, p, runs, live, (judged _).trans ?_, (judged _).trans ?_⟩
  · rw [Ledger.judge, if_neg counts, if_pos ⟨rfl, congrArg (Option.map _) live⟩]
    rfl
  · rw [Ledger.judge, if_neg counts, if_neg fun other => absurd other.1 (by decide)]
    rfl

end Runs

end Session

end BearerAuth
