import BearerAuth.Proofs.Session.Isolation

/-! # Live pairs on a ledger

Of operations that come one after the other it is enough to note which pair was returned last for
each session and not revoked since. The ledger is kept by the results of the operations alone; the
cache is in step with it as long as the settings allow tokens: a pair that the ledger has as live has
its markers for as long as its tokens count, and there is no other marker.
-/

namespace BearerAuth

open BearerAuth.Time

/-- A name that is not empty and holds no colon. -/
def Named (name : String) : Prop := name.isEmpty = false ∧ ColonFree name

/-- The names that an operation is called with are such. -/
def Operation.Named : Operation → Prop
  | login client _ _ | loginAnonymous client _ | refresh client _ =>
    BearerAuth.Named client.clientType.name
  | logout userId clientType => BearerAuth.Named userId ∧ BearerAuth.Named clientType.name
  | logoutAll userId => BearerAuth.Named userId
  | resolveClient _ | deleteClient _ | evictClient _ | evictUser _ | authenticate _ _ => True

/-- The names of the target are such. -/
def Target.Named : Target → Prop
  | session userId clientType => BearerAuth.Named userId ∧ BearerAuth.Named clientType.name
  | user userId => BearerAuth.Named userId

theorem Target.Named.plain {target : Target} (named : target.Named) : target.Plain := by
  cases target with
  | session userId clientType => exact ⟨named.1.2, named.2.2⟩
  | user userId => exact named.2

/-- The settings allow tokens for all users and client types at every reading in between. -/
def TokenConfig.Issues (config : TokenConfig) (first last : Instant) : Prop :=
  ∀ userId clientType, userId.isEmpty = false → clientType.isEmpty = false →
    Session.Serves config userId clientType first last

theorem TokenConfig.Issues.mono {config : TokenConfig} {first last last' : Instant}
    (issues : config.Issues first last') (sooner : last ≤ last') : config.Issues first last :=
  fun userId clientType user type kind now later within =>
    issues userId clientType user type kind now later (Int.le_trans within sooner)

/-- The live pairs, and all pairs that were ever returned. -/
structure Ledger where
  live : String → ClientType → Option TokenPair
  returned : List (String × ClientType × TokenPair)

namespace Ledger

def empty : Ledger := ⟨fun _ _ => none, []⟩

/-- A new pair takes the place of the one before. -/
def issue (l : Ledger) (userId : String) (clientType : ClientType) (p : TokenPair) : Ledger :=
  ⟨fun u c => if u = userId ∧ c = clientType then some p else l.live u c,
    (userId, clientType, p) :: l.returned⟩

/-- No pair of the target is live any more. -/
def clear (l : Ledger) (target : Target) : Ledger :=
  { l with live := fun u c => if target.Covers u c then none else l.live u c }

/-- The ledger after an operation on a target has ended so. -/
def after (l : Ledger) (target : Option Target) (result : Except AuthError Outcome) : Ledger :=
  match target, result with
  | some (.session userId clientType), .ok (.pair p) => l.issue userId clientType p
  | some target, .ok .finished => l.clear target
  | _, _ => l

end Ledger

namespace Session

/-- The worlds that operations lead to one after the other from an empty one, each with the ledger of
their results. Time passes at will, also before each step of an operation; in between, accounts may
be put on record and expired entries may be purged. -/
inductive Runs (config : SessionConfig) (source : Nat → List UInt8) : World → Ledger → Prop
  | start (clock : Instant) (recent : Instant.epoch ≤ clock) : Runs config source (.empty clock) .empty
  | operate {w w' : World} {l : Ledger} {operation : Operation} {result : Except AuthError Outcome}
      (before : Runs config source w l) (named : operation.Named)
      (ends : (operation.program config).Ends source w result w') :
      Runs config source w' (l.after (operation.target? config.tokens w.directory) result)
  | insertUser {w : World} {l : Ledger} (before : Runs config source w l) (user : User)
      (named : Named user.id) :
      Runs config source { w with directory := w.directory.insertUser user } l
  | insertClient {w : World} {l : Ledger} (before : Runs config source w l) (client : Client) :
      Runs config source { w with directory := w.directory.insertClient client } l
  | purge {w : World} {l : Ledger} (before : Runs config source w l) :
      Runs config source { w with cache := (w.cache.purge w.clock).2 } l
  | wait {w : World} {l : Ledger} (before : Runs config source w l) (now : Instant)
      (later : w.clock ≤ now) : Runs config source (w.setClock now) l

end Session

/-- A pair that was returned for the session of the user on the client type. -/
structure TokenPair.Of (source : Nat → List UInt8) (config : TokenConfig) (userId : String)
    (clientType : ClientType) (w : World) (p : TokenPair) : Prop where
  names : Named userId ∧ Named clientType.name
  record : ∃ user, w.directory.findWithRoles userId = some user
  kinds : p.access.kind = .access ∧ p.refresh.kind = .refresh
  secretSet : config.secret.isEmpty = false
  genuine : ∀ t ∈ p.tokens, t.Genuine config.secret
  owner : ∀ t ∈ p.tokens, t.userId = userId ∧ t.clientType = clientType
  recent : ∀ t ∈ p.tokens, Instant.epoch ≤ t.expiresAt.instant
  drawn : ∀ t ∈ p.tokens, ∃ n < w.drawn, t.id = Entropy.uuid (source n)

namespace Ledger

/-- A token of a pair that was returned for the session. -/
def Returned (l : Ledger) (userId : String) (clientType : ClientType) (t : Token) : Prop :=
  ∃ p, (userId, clientType, p) ∈ l.returned ∧ t ∈ p.tokens

/-- A token of the live pair of the session. -/
def Live (l : Ledger) (userId : String) (clientType : ClientType) (t : Token) : Prop :=
  ∃ p, l.live userId clientType = some p ∧ t ∈ p.tokens

/-- The world is in step with the ledger. -/
structure Tracks (source : Nat → List UInt8) (config : TokenConfig) (l : Ledger) (w : World) : Prop where
  recent : Instant.epoch ≤ w.clock
  kept : w.directory.WellKept
  faithful : w.Faithful
  names : ∀ userId, w.directory.Records userId → Named userId
  past : ∀ userId clientType p, (userId, clientType, p) ∈ l.returned →
    p.Of source config userId clientType w
  apart : ∀ u c t u' c' t', l.Returned u c t → l.Returned u' c' t' → t.id = t'.id → t = t'
  among : ∀ userId clientType p, l.live userId clientType = some p →
    (userId, clientType, p) ∈ l.returned
  /-- What is live has its marker for as long as it counts. -/
  marked : ∀ userId clientType t, l.Live userId clientType t → w.clock ≤ t.expiresAt.instant →
    ∃ entry, w.cache.lookup? t.markerKey = some entry ∧ t.expiresAt.instant ≤ entry.expiresAt
  /-- What has a marker is live. -/
  unmarked : ∀ t : Token, ColonFree t.id → (w.cache.lookup? t.markerKey).isSome →
    ∃ userId clientType t', l.Live userId clientType t' ∧ t'.markerKey = t.markerKey

end Ledger

theorem MemoryDirectory.WellKept.records {d : MemoryDirectory} (kept : d.WellKept) {userId : String}
    (records : d.Records userId) : ∃ user, d.findWithRoles userId = some user := by
  obtain ⟨key, user, found, rfl⟩ := records
  exact ⟨user, (kept key user found).symm ▸ found⟩

namespace TokenPair.Of

variable {source : Nat → List UInt8} {config : TokenConfig} {w w' : World} {userId : String}
  {clientType : ClientType} {p : TokenPair} {t : Token} {spared : Token → Prop}

theorem leaves (of : p.Of source config userId clientType w) (leaves : w.Leaves spared w') :
    p.Of source config userId clientType w' := by
  obtain ⟨user, found⟩ := of.record
  refine { of with record := ⟨user, (leaves.findWithRoles userId).trans found⟩, drawn := ?_ }
  intro t member
  obtain ⟨n, before, same⟩ := of.drawn t member
  exact ⟨n, Nat.lt_of_lt_of_le before leaves.drawn, same⟩

theorem colonFree_id (of : p.Of source config userId clientType w) (member : t ∈ p.tokens) :
    ColonFree t.id := by
  obtain ⟨n, -, same⟩ := of.drawn t member
  exact same ▸ Entropy.colonFree_uuid _

/-- A target reaches the markers of its own pairs, and no others. -/
theorem beyond_iff (of : p.Of source config userId clientType w) (member : t ∈ p.tokens)
    {target : Target} (plain : target.Plain) :
    World.Beyond target.areas t ↔ ¬target.Covers userId clientType := by
  obtain ⟨user, type⟩ := of.owner t member
  rw [Target.beyond_iff (of.colonFree_id member)]
  refine not_congr ⟨fun reaches => ?_, fun covers => Target.Owns.reaches ?_⟩
  · have owns := reaches.owns plain (user ▸ of.names.1.2) (type ▸ of.names.2.2)
    rwa [Target.Owns, user, type] at owns
  · rwa [Target.Owns, user, type]

end TokenPair.Of

namespace Session.Begun

variable {source : Nat → List UInt8} {config : TokenConfig} {w w' : World} {userId : String}
  {clientType : ClientType} {p : TokenPair} {t t' : Token}

/-- What is known of each token of a new pair. -/
theorem fresh (begun : Begun source config userId clientType w w' p) (member : t ∈ p.tokens) :
    ∃ kind n, w.drawn ≤ n ∧ n < w'.drawn ∧ Fresh source config kind userId clientType w w' n t := by
  have drawn := begun.drawn
  rcases List.mem_pair.mp member with rfl | rfl
  · exact ⟨.access, w.drawn, by omega, by omega, begun.access⟩
  · exact ⟨.refresh, w.drawn + 1, by omega, by omega, begun.refresh⟩

theorem of (begun : Begun source config userId clientType w w' p) (recent : Instant.epoch ≤ w.clock)
    (names : Named userId ∧ Named clientType.name)
    (record : ∃ user, w.directory.findWithRoles userId = some user) :
    p.Of source config userId clientType w' := by
  obtain ⟨user, found⟩ := record
  refine ⟨names, ⟨user, (begun.leaves.findWithRoles userId).trans found⟩,
    ⟨begun.access.fields.2.1, begun.refresh.fields.2.1⟩, begun.access.genuine.2, ?_, ?_, ?_, ?_⟩
  all_goals
    intro t member
    obtain ⟨kind, n, -, before, fresh⟩ := begun.fresh member
  · exact fresh.genuine.1
  · exact fresh.fields.2.2
  · exact Int.le_trans recent fresh.le_expiresAt
  · exact ⟨n, before, fresh.fields.1⟩

/-- The tokens of a new pair are told apart. -/
theorem apart (begun : Begun source config userId clientType w w' p)
    (apart : System.DrawsApart source w'.drawn) (member : t ∈ p.tokens) (member' : t' ∈ p.tokens)
    (same : t.id = t'.id) : t = t' := by
  have drawn := begun.drawn
  have differ : p.access.id ≠ p.refresh.id := by
    rw [begun.access.fields.1, begun.refresh.fields.1]
    intro alike
    have := apart w.drawn (by omega) (w.drawn + 1) (by omega) alike
    omega
  rcases List.mem_pair.mp member with rfl | rfl <;> rcases List.mem_pair.mp member' with rfl | rfl
  · rfl
  · exact absurd same differ
  · exact absurd same.symm differ
  · rfl

end Session.Begun

namespace Ledger

variable {source : Nat → List UInt8} {config : TokenConfig} {l : Ledger} {w w' : World}
  {spared : Token → Prop} {userId : String} {clientType : ClientType} {t : Token}

theorem returned_issue {p : TokenPair} {u : String} {c : ClientType} :
    (l.issue userId clientType p).Returned u c t ↔
      (u = userId ∧ c = clientType ∧ t ∈ p.tokens) ∨ l.Returned u c t := by
  constructor
  · rintro ⟨q, returned, member⟩
    rcases List.mem_cons.mp returned with same | earlier
    · cases same
      exact .inl ⟨rfl, rfl, member⟩
    · exact .inr ⟨q, earlier, member⟩
  · rintro (⟨rfl, rfl, member⟩ | ⟨q, returned, member⟩)
    · exact ⟨p, List.mem_cons_self .., member⟩
    · exact ⟨q, List.mem_cons_of_mem _ returned, member⟩

theorem live_issue {p : TokenPair} {u : String} {c : ClientType} :
    (l.issue userId clientType p).Live u c t ↔
      if u = userId ∧ c = clientType then t ∈ p.tokens else l.Live u c t := by
  simp only [Live, issue]
  split_ifs <;> simp

theorem live_clear {target : Target} {u : String} {c : ClientType} :
    (l.clear target).Live u c t ↔ ¬target.Covers u c ∧ l.Live u c t := by
  simp only [Live, clear]
  split_ifs with covers <;> simp [covers]

theorem Tracks.of (tracks : l.Tracks source config w) {p : TokenPair}
    (live : l.live userId clientType = some p) : p.Of source config userId clientType w :=
  tracks.past userId clientType p (tracks.among userId clientType p live)

/-- Live tokens keep their markers when the areas of another target change. -/
theorem Tracks.marked_beyond (tracks : l.Tracks source config w) {target : Target} (plain : target.Plain)
    (leaves : w.Leaves (World.Beyond target.areas) w') (other : ¬target.Covers userId clientType)
    (live : l.Live userId clientType t) (counts : w'.clock ≤ t.expiresAt.instant) :
    ∃ entry, w'.cache.lookup? t.markerKey = some entry ∧ t.expiresAt.instant ≤ entry.expiresAt := by
  obtain ⟨p, found, member⟩ := live
  rw [leaves.markers t (((tracks.of found).beyond_iff member plain).mpr other)]
  exact tracks.marked userId clientType t ⟨p, found, member⟩ (Int.le_trans leaves.clock counts)

/-- A marker outside the areas of a target is that of a live token of another. -/
theorem Tracks.unmarked_beyond (tracks : l.Tracks source config w) {target : Target}
    (plain : target.Plain) (colonFree : ColonFree t.id)
    (within : ¬target.areas.any (liesIn · t.markerKey) = true)
    (marked : (w.cache.lookup? t.markerKey).isSome) : ∃ userId clientType t',
      ¬target.Covers userId clientType ∧ l.Live userId clientType t' ∧ t'.markerKey = t.markerKey := by
  obtain ⟨userId, clientType, t', ⟨p, found, member⟩, same⟩ := tracks.unmarked t colonFree marked
  have beyond : World.Beyond target.areas t' := by simpa [World.Beyond, same] using within
  exact ⟨userId, clientType, t', ((tracks.of found).beyond_iff member plain).mp beyond,
    ⟨p, found, member⟩, same⟩

/-- Only named users are on record after a step that leaves the accounts. -/
theorem Tracks.names_leaves (tracks : l.Tracks source config w) (leaves : w.Leaves spared w') :
    ∀ userId, w'.directory.Records userId → Named userId := by
  rintro userId ⟨key, user, found, same⟩
  exact tracks.names userId ⟨key, user, leaves.users ▸ found, same⟩

/-- The tokens of a new pair have other ids than those that were returned before. -/
theorem Tracks.unlike (tracks : l.Tracks source config w) {p : TokenPair} {u : String} {c : ClientType}
    {t' : Token} (begun : Session.Begun source config userId clientType w w' p)
    (apart : System.DrawsApart source w'.drawn) (member : t ∈ p.tokens) (earlier : l.Returned u c t') :
    t.id ≠ t'.id := by
  obtain ⟨q, returned, member'⟩ := earlier
  obtain ⟨n, before, same⟩ := (tracks.past u c q returned).drawn t' member'
  obtain ⟨kind, m, later, bound, fresh⟩ := begun.fresh member
  rw [fresh.fields.1, same]
  intro alike
  have := apart m bound n (by omega) alike
  omega

/-! ## Steps of the ledger -/

/-- What changes no marker keeps the world in step. -/
theorem Tracks.quiet (tracks : l.Tracks source config w) (quiet : w.Quiet w') :
    l.Tracks source config w' where
  recent := Int.le_trans tracks.recent quiet.clock
  kept := quiet.wellKept tracks.kept
  faithful := quiet.faithful tracks.kept tracks.faithful
  names := tracks.names_leaves quiet.toLeaves
  past u c p returned := (tracks.past u c p returned).leaves quiet.toLeaves
  apart := tracks.apart
  among := tracks.among
  marked u c t live counts := by
    rw [quiet.markers t trivial]
    exact tracks.marked u c t live (Int.le_trans quiet.clock counts)
  unmarked t plain marked := by
    rw [quiet.markers t trivial] at marked
    exact tracks.unmarked t plain marked

/-- Evicting the areas of a target clears it. -/
theorem Tracks.revoked (tracks : l.Tracks source config w) {target : Target} (plain : target.Plain)
    (revoked : w.Revoked target.areas w') : (l.clear target).Tracks source config w' where
  recent := Int.le_trans tracks.recent revoked.leaves.clock
  kept := revoked.leaves.wellKept tracks.kept
  faithful := revoked.leaves.faithful tracks.kept tracks.faithful
  names := tracks.names_leaves revoked.leaves
  past u c p returned := (tracks.past u c p returned).leaves revoked.leaves
  apart := tracks.apart
  among u c p live := by
    simp only [clear] at live
    split_ifs at live
    exact tracks.among u c p live
  marked u c t live counts := by
    obtain ⟨other, live⟩ := live_clear.mp live
    exact tracks.marked_beyond plain revoked.leaves other live counts
  unmarked t colonFree marked := by
    rw [revoked.entries] at marked
    split_ifs at marked with within
    · cases marked
    obtain ⟨u, c, t', other, live, same⟩ := tracks.unmarked_beyond plain colonFree within marked
    exact ⟨u, c, t', live_clear.mpr ⟨other, live⟩, same⟩

/-- A new pair is noted. -/
theorem Tracks.issue (tracks : l.Tracks source config w) {p : TokenPair}
    (begun : Session.Begun source config userId clientType w w' p) (apart : System.DrawsApart source w'.drawn)
    (names : (Target.session userId clientType).Named) (records : w.directory.Records userId) :
    (l.issue userId clientType p).Tracks source config w' := by
  have plain := names.plain
  have new := begun.of tracks.recent names (tracks.kept.records records)
  have here {t : Token} (member : t ∈ p.tokens) :
      (l.issue userId clientType p).Live userId clientType t :=
    live_issue.mpr ((if_pos ⟨rfl, rfl⟩).mpr member)
  refine ⟨Int.le_trans tracks.recent begun.leaves.clock, begun.leaves.wellKept tracks.kept,
    begun.leaves.faithful tracks.kept tracks.faithful, tracks.names_leaves begun.leaves, ?past, ?apart,
    ?among, ?marked, ?unmarked⟩
  case past =>
    intro u c q returned
    rcases List.mem_cons.mp returned with same | earlier
    · cases same
      exact new
    · exact (tracks.past u c q earlier).leaves begun.leaves
  case apart =>
    intro u c t u' c' t' returned returned' same
    -- Each of the two is new or was returned before; a new id is unlike all those before it.
    rcases returned_issue.mp returned with ⟨-, -, member⟩ | earlier <;>
      rcases returned_issue.mp returned' with ⟨-, -, member'⟩ | earlier'
    · exact begun.apart apart member member' same
    · exact absurd same (tracks.unlike begun apart member earlier')
    · exact absurd same.symm (tracks.unlike begun apart member' earlier)
    · exact tracks.apart u c t u' c' t' earlier earlier' same
  case among =>
    intro u c q live
    simp only [Ledger.issue] at live
    split_ifs at live with here
    · obtain ⟨rfl, rfl⟩ := here
      cases live
      exact List.mem_cons_self ..
    · exact List.mem_cons_of_mem _ (tracks.among u c q live)
  case marked =>
    intro u c t live counts
    rw [live_issue] at live
    split_ifs at live with here
    · exact begun.marked t live
    · exact tracks.marked_beyond plain begun.leaves here live counts
  case unmarked =>
    intro t colonFree marked
    -- A marker is one of the two new ones, or lies beyond what was evicted and was there before.
    by_cases access : t.markerKey = p.access.markerKey
    · exact ⟨userId, clientType, p.access, here (List.mem_cons_self ..), access.symm⟩
    by_cases refresh : t.markerKey = p.refresh.markerKey
    · exact ⟨userId, clientType, p.refresh, here (by simp [TokenPair.tokens]), refresh.symm⟩
    rw [begun.others t access refresh] at marked
    split_ifs at marked with within
    · cases marked
    obtain ⟨u, c, t', other, live, same⟩ := tracks.unmarked_beyond plain colonFree within marked
    exact ⟨u, c, t', live_issue.mpr ((if_neg other).mpr live), same⟩

end Ledger

end BearerAuth
