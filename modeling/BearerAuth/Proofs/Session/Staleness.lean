import BearerAuth.Proofs.Session.Alone
import BearerAuth.Proofs.Session.Lookups
import BearerAuth.Proofs.Token.Issued

/-! # How old a copy may be

Operations follow one another, accounts change on record in between, and time passes. A copy is kept
for its time and no longer, since reading it does not renew it, and it is gone once it was dropped. So
what an operation shows of an account was on record not long ago, and after the last drop.
-/

namespace BearerAuth

open BearerAuth.Time

/-- What happens to a world: operations, which do not overlap, and what comes between them. -/
inductive Act where
  | operate (operation : Operation) (lapses : Nat → Option Lapse)
  | insertUser (user : User)
  | insertClient (client : Client)
  | deleteClient (secret : String) (now : Instant)
  | purge
  /-- Time passes up to a reading, unless that is over. -/
  | wait (now : Instant)

/-- What an operation results in where calls lapse. -/
def Operation.result (config : SessionConfig) (source : Nat → List UInt8) (lapses : Nat → Option Lapse)
    (operation : Operation) (w : World) : Except AuthError Outcome :=
  ((operation.program config).attemptIn source lapses w).1

/-- The world after an act. -/
def Act.change (config : SessionConfig) (source : Nat → List UInt8) (w : World) : Act → World
  | operate operation lapses => ((operation.program config).attemptIn source lapses w).2
  | insertUser user => { w with directory := w.directory.insertUser user }
  | insertClient client => { w with directory := w.directory.insertClient client }
  | deleteClient secret now => { w with directory := (w.directory.deleteClient secret now).2 }
  | purge => { w with cache := (w.cache.purge w.clock).2 }
  | wait now => if now < w.clock then w else w.setClock now

/-- The world after some acts, of which the latest stands first. -/
def World.after (config : SessionConfig) (source : Nat → List UInt8) (w : World) : List Act → World
  | [] => w
  | act :: acts => act.change config source (w.after config source acts)

/-- The acts lead on from a moment, which is told by the acts before it, and none of those since then
is of the sort. -/
inductive Since (sort : List Act → Prop) (moment : List Act) : List Act → Prop
  | now : Since sort moment moment
  | later {act : Act} {acts : List Act} (other : ¬sort (act :: acts)) (since : Since sort moment acts) :
      Since sort moment (act :: acts)

/-- If the last act of a sort was before the moment, then what has not happened since that act has not
happened up to the moment. -/
theorem Since.upTo {sort sort' : List Act → Prop} {moment last acts : List Act}
    (since : Since sort moment acts) (since' : Since sort' last acts) (act : sort last) :
    Since sort' last moment := by
  induction since with
  | now => exact since'
  | later other since ih =>
    cases since' with
    | now => exact absurd act other
    | later other' since' => exact ih since'

/-- The operation drops the copy of the account when it succeeds. -/
def Operation.Drops : Operation → Account → Prop
  | deleteClient secret, .client other | evictClient secret, .client other => secret = other
  | evictUser userId, .user other => userId = other
  | _, _ => False

theorem Operation.Drops.dropped {config : SessionConfig} {operation : Operation} {a : Account}
    {past : Trace} {outcome : Outcome} (drops : operation.Drops a)
    (tells : operation.Tells config past outcome) : past.Dropped a := by
  cases a with
  | client secret =>
    cases operation with
    | deleteClient other =>
      obtain rfl : other = secret := drops
      exact tells.1
    | evictClient other =>
      obtain rfl : other = secret := drops
      exact tells
    | _ => cases drops
  | user userId =>
    cases operation with
    | evictUser other =>
      obtain rfl : other = userId := drops
      exact tells
    | _ => cases drops

namespace World

variable (config : SessionConfig) (source : Nat → List UInt8) (w : World)

/-- The latest act is that operation, and has succeeded. -/
def Succeeds (operation : Operation) : List Act → Prop
  | .operate other lapses :: acts => other = operation ∧
      ∃ outcome, other.result config source lapses (w.after config source acts) = .ok outcome
  | _ => False

/-- The latest act has dropped the copy of the account. -/
def Drops (a : Account) (acts : List Act) : Prop :=
  ∃ operation : Operation, operation.Drops a ∧ w.Succeeds config source operation acts

/-- The latest act puts a client with that secret on record. -/
def Inserts (secret : String) : List Act → Prop
  | .insertClient client :: _ => client.secret = secret
  | _ => False

/-- The bytes are a copy of the account as it was on record at a moment, since which no copy of it was
dropped. -/
structure CopiedAt (a : Account) (acts : List Act) (copy : List UInt8) (moment : List Act) : Prop where
  since : Since (w.Drops config source a) moment acts
  copied : a.copy? (w.after config source moment).directory = some copy

variable {config source w} {acts : List Act} {a : Account}

theorem CopiedAt.later {copy : List UInt8} {moment : List Act} {act : Act}
    (copied : w.CopiedAt config source a acts copy moment)
    (kept : ¬w.Drops config source a (act :: acts)) :
    w.CopiedAt config source a (act :: acts) copy moment := ⟨.later kept copied.since, copied.copied⟩

/-- What is kept of an account was copied from its record, and is kept for its time from then on. -/
theorem copied_of_lookup? (fresh : w.cache = .empty) {entry : CacheEntry}
    (there : (w.after config source acts).cache.lookup? a.copyKey = some entry) :
    ∃ moment, w.CopiedAt config source a acts entry.value moment ∧ entry.expiresAt.nanos =
      (w.after config source moment).clock.nanos + (a.ttl config).nanos := by
  induction acts with
  | nil =>
    rw [after, fresh] at there
    cases there
  | cons act acts ih =>
    -- Only an operation writes copies; after any other act an entry is one that was there before.
    have kept (spared : ¬w.Drops config source a (act :: acts))
        (before : (w.after config source acts).cache.lookup? a.copyKey = some entry) :
        ∃ moment, w.CopiedAt config source a (act :: acts) entry.value moment ∧ entry.expiresAt.nanos =
          (w.after config source moment).clock.nanos + (a.ttl config).nanos := by
      obtain ⟨moment, copied, expiry⟩ := ih before
      exact ⟨moment, copied.later spared, expiry⟩
    cases act with
    | operate operation lapses =>
      obtain ⟨past, tells, seen⟩ := operation.seen config source lapses (w.after config source acts)
      have spared : ¬w.Drops config source a (.operate operation lapses :: acts) := by
        rintro ⟨_, drops, rfl, outcome, succeeded⟩
        have gone := seen.dropped a (drops.dropped (tells outcome succeeded))
        cases gone.symm.trans there
      rcases seen.entries a entry there with before | ⟨copied, fits⟩
      · exact kept spared before
      · obtain ⟨-, expiry⟩ := MemoryCache.expiry_eq_ok_iff.mp fits
        exact ⟨acts, ⟨.later spared .now, copied⟩, expiry⟩
    | purge =>
      apply kept
      · rintro ⟨_, _, ⟨⟩⟩
      · change (MemoryCache.purge _ _).2.lookup? _ = _ at there
        rw [MemoryCache.lookup?_purge] at there
        exact (Option.filter_eq_some_iff.mp there).1
    | wait now =>
      apply kept
      · rintro ⟨_, _, ⟨⟩⟩
      · simp only [after, Act.change] at there
        split at there
        · exact there
        · exact there
    | _ =>
      apply kept
      · rintro ⟨_, _, ⟨⟩⟩
      · exact there

/-- What an operation obtains of an account was on record not long ago. -/
theorem copied_of_obtained (fresh : w.cache = .empty) {past : Trace} {w' : World} {copy : List UInt8}
    (seen : (w.after config source acts).Seen config past w') (obtained : past.Obtained a copy) :
    ∃ moment, w.CopiedAt config source a acts copy moment ∧
      (w.after config source acts).clock.nanos ≤
        (w.after config source moment).clock.nanos + (a.ttl config).nanos := by
  have justNow (copied : a.copy? (w.after config source acts).directory = some copy) :
      ∃ moment, w.CopiedAt config source a acts copy moment ∧
        (w.after config source acts).clock.nanos ≤
          (w.after config source moment).clock.nanos + (a.ttl config).nanos :=
    ⟨acts, ⟨.now, copied⟩, by omega⟩
  rcases obtained with got | found
  · obtain ⟨entry, offered, rfl, live⟩ := seen.got a copy got
    rcases offered with there | ⟨copied, -⟩
    · obtain ⟨moment, copied, expiry⟩ := copied_of_lookup? fresh there
      refine ⟨moment, copied, ?_⟩
      have within : ¬entry.expiresAt.nanos < (w.after config source acts).clock.nanos :=
        of_decide_eq_false live
      omega
    · exact justNow copied
  · exact justNow (seen.found a copy found)

/-- A client that is deleted or not on record stays so until one with its secret is put there. -/
theorem without_since {secret : String} {moment : List Act}
    (since : Since (Inserts secret) moment acts) (without : (w.after config source moment).Without secret) :
    (w.after config source acts).Without secret := by
  induction since with
  | now => exact without
  | @later act acts other since ih =>
    cases act with
    | operate operation lapses =>
      obtain ⟨past, -, seen⟩ := operation.seen config source lapses (w.after config source acts)
      exact seen.without secret ih
    | insertClient client =>
      intro known found
      have differs : secret ≠ client.secret := fun same => other same.symm
      simp only [after, Act.change, MemoryDirectory.findClient, MemoryDirectory.insertClient,
        Table.get?_insert, if_neg differs] at found
      exact ih known found
    | deleteClient deleted now => exact without_deleteClient _ deleted now ih
    | wait now =>
      simp only [after, Act.change]
      split
      · exact ih
      · exact ih
    | _ => exact ih

/-! ## What operations show -/

variable {lapses : Nat → Option Lapse}

/-- A client that is resolved was on record not long ago. -/
theorem resolved_recently (fresh : w.cache = .empty) {secret : String} {outcome : Outcome}
    (resolved : (Operation.resolveClient secret).result config source lapses
      (w.after config source acts) = .ok outcome) :
    ∃ client, outcome = .client client ∧ client.isActive = true ∧
      ∃ moment, Since (w.Drops config source (.client secret)) moment acts ∧
        (w.after config source moment).directory.findClient secret = some client ∧
        (w.after config source acts).clock.nanos ≤
          (w.after config source moment).clock.nanos + config.clientCacheTtl.nanos := by
  obtain ⟨past, tells, seen⟩ :=
    (Operation.resolveClient secret).seen config source lapses (w.after config source acts)
  obtain ⟨client, same, active, copy, obtained, decoded⟩ := tells outcome resolved
  obtain ⟨moment, copied, recent⟩ := copied_of_obtained fresh seen obtained
  refine ⟨client, same, active, moment, copied.since, ?_, recent⟩
  obtain ⟨record, found, shown⟩ := Option.map_eq_some_iff.mp copied.copied
  obtain ⟨found, -⟩ := Option.filter_eq_some_iff.mp found
  rw [← shown, record.decodeCached_toJson] at decoded
  cases decoded
  exact found

/-- A user who is authenticated was on record not long ago, the credentials apart. -/
theorem authenticated_recently (fresh : w.cache = .empty) {client : Client} {raw : String} {user : User}
    (authenticated : (Operation.authenticate client raw).result config source lapses
      (w.after config source acts) = .ok (.user user)) :
    ∃ claims, Token.validate raw config.tokens.secret (w.after config source acts).clock = .ok claims ∧
      ∃ moment record, Since (w.Drops config source (.user claims.userId)) moment acts ∧
        (w.after config source moment).directory.findWithRoles claims.userId = some record ∧
        { user with credentials := [] } = { record with credentials := [] } ∧
        (w.after config source acts).clock.nanos ≤
          (w.after config source moment).clock.nanos + config.userCacheTtl.nanos := by
  obtain ⟨past, tells, seen⟩ :=
    (Operation.authenticate client raw).seen config source lapses (w.after config source acts)
  obtain ⟨_, claims, now, ⟨⟩, read, valid, copy, kept, obtained, decoded, shown⟩ :=
    tells _ authenticated
  obtain rfl := seen.reads now read
  obtain ⟨moment, copied, recent⟩ := copied_of_obtained fresh seen obtained
  obtain ⟨record, found, encoded⟩ := Option.map_eq_some_iff.mp copied.copied
  refine ⟨claims, valid, moment, record, copied.since, found, ?_, recent⟩
  rw [← encoded, record.decodeCached_toJson] at decoded
  cases decoded
  exact shown.symm

/-- A client that was deleted stays so until one with its secret is put on record. -/
theorem without_of_succeeds {secret : String} {deletion : List Act}
    (deleted : w.Succeeds config source (.deleteClient secret) deletion) :
    (w.after config source deletion).Without secret := by
  cases deletion with
  | nil => cases deleted
  | cons act before =>
    cases act with
    | operate operation lapses =>
      obtain ⟨rfl, outcome, succeeded⟩ := deleted
      obtain ⟨past, tells, seen⟩ :=
        (Operation.deleteClient secret).seen config source lapses (w.after config source before)
      obtain ⟨-, now, answered⟩ := tells outcome succeeded
      exact seen.deleted secret now answered
    | _ => cases deleted

/-- A client that is resolved is active, and was so on record at a moment no longer ago than copies of
clients are kept and no earlier than its copy was last dropped. The same is so of a user who is
authenticated, the credentials apart. After a client was deleted, it is not resolved until one with its
secret is put on record. -/
theorem staleness_bounded (config : SessionConfig) (source : Nat → List UInt8) {w : World}
    (fresh : w.cache = .empty) (acts : List Act) (lapses : Nat → Option Lapse) :
    let now := w.after config source acts
    (∀ secret client, (Operation.resolveClient secret).result config source lapses now =
        .ok (.client client) →
      client.isActive = true ∧ ∃ moment, Since (w.Drops config source (.client secret)) moment acts ∧
        (w.after config source moment).directory.findClient secret = some client ∧
        now.clock.nanos ≤
          (w.after config source moment).clock.nanos + config.clientCacheTtl.nanos) ∧
    (∀ client raw user, (Operation.authenticate client raw).result config source lapses now =
        .ok (.user user) →
      ∃ claims, Token.validate raw config.tokens.secret now.clock = .ok claims ∧
        ∃ moment record, Since (w.Drops config source (.user claims.userId)) moment acts ∧
          (w.after config source moment).directory.findWithRoles claims.userId = some record ∧
          { user with credentials := [] } = { record with credentials := [] } ∧
          now.clock.nanos ≤
            (w.after config source moment).clock.nanos + config.userCacheTtl.nanos) ∧
    (∀ secret deletion, w.Succeeds config source (.deleteClient secret) deletion →
      Since (Inserts secret) deletion acts →
        ∃ e, (Operation.resolveClient secret).result config source lapses now = .error e) := by
  intro now
  refine ⟨?_, ?_, ?_⟩
  · intro secret client resolved
    obtain ⟨_, ⟨⟩, shown⟩ := resolved_recently fresh resolved
    exact shown
  · intro client raw user authenticated
    exact authenticated_recently fresh authenticated
  · intro secret deletion deleted since
    cases resolved : (Operation.resolveClient secret).result config source lapses now with
    | error e => exact ⟨e, rfl⟩
    | ok outcome =>
      exfalso
      obtain ⟨client, -, active, moment, kept, found, -⟩ := resolved_recently fresh resolved
      -- The record that was shown is no older than the deletion, and so it was that of a deleted client.
      have dropped : w.Drops config source (.client secret) deletion :=
        ⟨.deleteClient secret, rfl, deleted⟩
      have without := without_since (kept.upTo since dropped) (without_of_succeeds deleted)
      cases active.symm.trans (without client found)

end World

/-- A valid token is looked for in the cache. -/
theorem Session.attemptIn_authenticate {config : SessionConfig} {source : Nat → List UInt8}
    {lapses : Nat → Option Lapse} {client : Client} {raw : String} {claims : Claims} {w : World}
    (valid : Token.validate raw config.tokens.secret w.clock = .ok claims) :
    ((Operation.authenticate client raw).program config).attemptIn source lapses w = (do
      requireMarker config .access claims.userId client.clientType claims.tokenId
      return Outcome.user (← cachedUser config claims.userId) : Session Outcome).attemptIn
        source lapses w := by
  simp only [Operation.program, authenticate, validated, bind_assoc]
  change attemptIn source lapses
    (ExceptT.mk (pure (Token.validate raw config.tokens.secret w.clock)) >>= _) w = _
  rw [valid]
  rfl

namespace Sample

/-- No call fails. -/
def sound (_ : Nat) : Option Lapse := none

/-- A client is put on record, and resolved. -/
def resolving : List Act := [.operate (.resolveClient "key") sound, .insertClient (client "WEB")]

/-- The client is deleted by someone else. -/
def behind : List Act := .deleteClient "key" .epoch :: resolving

/-- The client is deleted by an operation. -/
def deleted : List Act := .operate (.deleteClient "key") sound :: resolving

/-- The access token that is issued first. -/
def access : Token :=
  .signed (Entropy.uuid (source 0)) "ann" ⟨"WEB"⟩ .access "secret" .epoch ⟨900000000000, by decide⟩

theorem validate_access :
    Token.validate access.raw "secret" .epoch = .ok ⟨access.id, "ann", 900⟩ := by
  have issued : Token.issue access.id "ann" ⟨"WEB"⟩ .access "secret" (.ofSeconds 900) .epoch = .ok access :=
    Token.issue_eq_ok_iff.mpr ⟨_, Token.expiry_of_instant (by decide) (by decide) (by decide) (by decide)
      (by decide), rfl⟩
  exact (Token.roundTrips_of_issue issued (by decide)).counts .epoch (by decide)

/-- A user is put on record and signs in. -/
def signingIn : List Act :=
  [.operate (.loginAnonymous (client "WEB") "guest") sound, .insertUser (user "ann")]

theorem authenticate_signingIn :
    (Operation.authenticate (client "WEB") access.raw).result config source sound
      ((World.empty .epoch).after config source signingIn) = .ok (.user (user "ann")) := by
  obtain ⟨_, -, seen⟩ := (Operation.loginAnonymous (client "WEB") "guest").seen config source sound
    ((World.empty .epoch).after config source [.insertUser (user "ann")])
  have still : ((World.empty .epoch).after config source signingIn).clock = .epoch := seen.clock
  -- The signature has been settled, so that only lookups are left to evaluate.
  rw [Operation.result, Session.attemptIn_authenticate (still ▸ validate_access)]
  decide +kernel

end Sample

/-- A client that someone else has deleted is resolved from its copy for some time, and one that was
deleted by an operation is not. A user who has signed in is authenticated. -/
theorem World.staleness_bounded_deleted :
    (Operation.resolveClient "key").result Sample.config Sample.source Sample.sound
        ((World.empty .epoch).after Sample.config Sample.source Sample.behind) =
      .ok (.client (Sample.client "WEB")) ∧
    (∃ moment, Since ((World.empty .epoch).Drops Sample.config Sample.source (.client "key")) moment
        Sample.behind ∧
      ((World.empty .epoch).after Sample.config Sample.source moment).directory.findClient "key" =
        some (Sample.client "WEB")) ∧
    (∃ e, (Operation.resolveClient "key").result Sample.config Sample.source Sample.sound
      ((World.empty .epoch).after Sample.config Sample.source Sample.deleted) = .error e) ∧
    ∃ (claims : Claims) (moment : List Act) (record : User),
      Since ((World.empty .epoch).Drops Sample.config Sample.source (.user claims.userId)) moment
        Sample.signingIn ∧
      ((World.empty .epoch).after Sample.config Sample.source moment).directory.findWithRoles
        claims.userId = some record ∧
      { Sample.user "ann" with credentials := [] } = { record with credentials := [] } := by
  have resolved : (Operation.resolveClient "key").result Sample.config Sample.source Sample.sound
      ((World.empty .epoch).after Sample.config Sample.source Sample.behind) =
        .ok (.client (Sample.client "WEB")) := by
    decide +kernel
  have deleted : (Operation.deleteClient "key").result Sample.config Sample.source Sample.sound
      ((World.empty .epoch).after Sample.config Sample.source Sample.resolving) = .ok .finished := by
    decide +kernel
  have fresh : (World.empty .epoch).cache = .empty := rfl
  obtain ⟨recent, -, -⟩ := staleness_bounded Sample.config Sample.source fresh Sample.behind Sample.sound
  obtain ⟨-, -, refused⟩ := staleness_bounded Sample.config Sample.source fresh Sample.deleted Sample.sound
  obtain ⟨-, users, -⟩ := staleness_bounded Sample.config Sample.source fresh Sample.signingIn Sample.sound
  obtain ⟨-, moment, since, found, -⟩ := recent "key" (Sample.client "WEB") resolved
  obtain ⟨claims, -, moment', record, since', found', same, -⟩ :=
    users (Sample.client "WEB") Sample.access.raw (Sample.user "ann") Sample.authenticate_signingIn
  refine ⟨resolved, ⟨moment, since, found⟩, ?_, claims, moment', record, since', found', same⟩
  exact refused "key" Sample.deleted ⟨rfl, .finished, deleted⟩ .now

end BearerAuth
