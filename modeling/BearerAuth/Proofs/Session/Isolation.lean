import BearerAuth.Proofs.Session.Outcomes
import BearerAuth.Proofs.Session.Revocation

/-! # How far revocations reach

Whose markers an eviction drops is decided by the joined text of a user's id and a client type. With
colons inside these, a target's areas can reach the markers of another user or client type, and then
an operation on the one revokes the tokens of the other. `Target.Reaches` tells exactly when.
-/

namespace BearerAuth

open BearerAuth.Time

namespace Target

variable {target : Target} {t : Token}

/-- What the paths of the markers begin with that lie in the target's areas. -/
def reach : Target → String
  | session userId clientType => markerPath userId clientType
  | user userId => areaStart userId

/-- The token's marker lies in one of the target's areas. -/
def Reaches (target : Target) (t : Token) : Prop :=
  target.reach.toList <+: (markerPath t.userId t.clientType).toList

/-- The session of the user on the client type is one of the target's. -/
def Covers : Target → String → ClientType → Prop
  | session userId clientType, u, c => u = userId ∧ c = clientType
  | user userId, u, _ => u = userId

instance (target : Target) (userId : String) (clientType : ClientType) :
    Decidable (target.Covers userId clientType) := by
  cases target
  · exact inferInstanceAs (Decidable (_ ∧ _))
  · exact inferInstanceAs (Decidable (_ = _))

/-- The token is one of the target's own. -/
def Owns (target : Target) (t : Token) : Prop := target.Covers t.userId t.clientType

/-- The target's names hold no colon. -/
def Plain : Target → Prop
  | session userId clientType => ColonFree userId ∧ ColonFree clientType.name
  | user userId => ColonFree userId

theorem beyond_iff (plain : ColonFree t.id) : World.Beyond target.areas t ↔ ¬target.Reaches t := by
  have either (area : TokenKind → String)
      (lies : ∀ kind, liesIn (area kind) t.markerKey = true ↔ kind = t.kind ∧ target.Reaches t) :
      World.Beyond [area .access, area .refresh] t ↔ ¬target.Reaches t := by
    have decided (kind : TokenKind) : liesIn (area kind) t.markerKey = false ↔
        ¬(kind = t.kind ∧ target.Reaches t) := by rw [← lies kind, Bool.not_eq_true]
    simp only [World.Beyond, List.forall_mem_cons, List.not_mem_nil, false_implies, implies_true,
      and_true, decided]
    cases t.kind <;> simp
  cases target with
  | session userId clientType =>
    exact either (markerArea · userId clientType) fun kind => liesIn_markerArea plain
  | user userId => exact either (userMarkerArea · userId) fun kind => liesIn_userMarkerArea plain

theorem Owns.reaches (owns : target.Owns t) : target.Reaches t := by
  cases target with
  | session userId clientType =>
    obtain ⟨rfl, rfl⟩ := owns
    exact List.prefix_rfl
  | user userId =>
    obtain rfl := owns
    exact areaStart_markerPath _ _

/-- Without colons in their names, targets reach their own tokens only. -/
theorem Reaches.owns (reaches : target.Reaches t) (plain : target.Plain) (user : ColonFree t.userId)
    (type : ColonFree t.clientType.name) : target.Owns t := by
  cases target with
  | session userId clientType =>
    obtain ⟨users, types⟩ := eq_of_markerPath plain.1 user plain.2 type reaches
    exact ⟨users.symm, types.symm⟩
  | user userId => exact (eq_of_areaStart plain user reaches).symm

end Target

namespace Operation

variable {source : Nat → List UInt8} {config : SessionConfig} {w w' : World} {operation : Operation}
  {target : Target} {result : Except AuthError Outcome} {t : Token}

/-- However it ends, an operation leaves the markers that lie beyond its target's areas. -/
theorem leaves_beyond (ends : (operation.program config).Ends source w result w')
    (acts : operation.target? config.tokens w.directory = some target) :
    w.Leaves (World.Beyond target.areas) w' := by
  have changes := (operation.ensures source w'.clock).ends ends (Int.le_refl _)
  cases result with
  | error e =>
    rcases changes.2 e rfl with quiet | ⟨userId, clientType, same, leaves, -⟩
    · exact quiet.leaves
    · obtain rfl := Option.some.inj (acts.symm.trans same)
      exact leaves
  | ok outcome =>
    have changed := changes.1 outcome rfl
    cases outcome with
    | pair p =>
      obtain ⟨userId, clientType, w₁, same, -, quiet, begun⟩ := changed
      obtain rfl := Option.some.inj (acts.symm.trans same)
      exact quiet.leaves.trans begun.leaves
    | finished =>
      simp only [Changes, acts] at changed
      exact changed.leaves
    | client client => exact changed.2.leaves
    | user user => exact changed.2.leaves

/-- An operation that succeeds leaves none of the earlier markers in its target's areas. -/
theorem gone_within (ends : (operation.program config).Ends source w result w')
    (acts : operation.target? config.tokens w.directory = some target) {outcome : Outcome}
    (succeeded : result = .ok outcome) (within : ¬World.Beyond target.areas t)
    (earlier : ∀ n, w.drawn ≤ n → n < w'.drawn → t.id ≠ Entropy.uuid (source n))
    (plain : ColonFree t.id) : w'.cache.lookup? t.markerKey = none := by
  have changes := (operation.ensures source w'.clock).ends ends (Int.le_refl _)
  have changed := changes.1 outcome succeeded
  have reached : target.areas.any (liesIn · t.markerKey) = true := by
    simpa [World.Beyond] using within
  cases outcome with
  | pair p =>
    obtain ⟨userId, clientType, w₁, same, -, quiet, begun⟩ := changed
    obtain rfl := Option.some.inj (acts.symm.trans same)
    have drawn := begun.drawn
    have before := quiet.drawn
    have other {n : Nat} {t' : Token} (id : t'.id = Entropy.uuid (source n)) (new : w.drawn ≤ n)
        (bound : n < w'.drawn) : t.markerKey ≠ t'.markerKey := fun same =>
      earlier n new bound ((Token.markerKey_inj plain (id ▸ Entropy.colonFree_uuid _) same).trans id)
    rw [begun.others t (other begun.access.fields.1 before (by omega))
      (other begun.refresh.fields.1 (by omega) (by omega))]
    exact if_pos reached
  | finished =>
    simp only [Changes, acts] at changed
    exact (changed.entries t.markerKey).trans (if_pos reached)
  | client client => cases acts.symm.trans changed.1
  | user user => cases acts.symm.trans changed.1

end Operation

namespace System

variable {config : SessionConfig} {source : Nat → List UInt8} {s : System} {w' : World}

/-- In every state that can be reached, an operation on one target leaves a token that was returned
as live as it was, unless the target reaches the token's marker, and then the token is no longer live
if the operation succeeds. Without colons in the names, only the target's own tokens are reached. -/
theorem live_unless_reached {directory : MemoryDirectory} {clock : Instant} {events : List Event}
    {issuing : Nat} {p : TokenPair} {t : Token} {operation : Operation} {target : Target}
    {result : Except AuthError Outcome} (apart : DrawsApart source w'.drawn)
    (run : (initial directory clock).replay? config source events = some s)
    (returned : s.result? issuing = some (.ok (.pair p))) (token : t ∈ p.tokens)
    (acts : operation.target? config.tokens s.world.directory = some target)
    (ends : (operation.program config).Ends source s.world result w') :
    (¬target.Reaches t → ∀ now, t.liveIn w'.cache now = t.liveIn s.world.cache now) ∧
      (target.Reaches t → ∀ outcome, result = .ok outcome → ∀ now, t.liveIn w'.cache now = false) ∧
      (target.Plain → ColonFree t.userId → ColonFree t.clientType.name →
        (target.Reaches t ↔ target.Owns t)) := by
  have leaves := operation.leaves_beyond ends acts
  obtain ⟨sound, drawn⟩ := sound_of_run apart run leaves.drawn
  obtain ⟨past, userId, clientType, issued⟩ := sound.returned returned
  obtain ⟨-, settled⟩ := issued t token
  have plain := settled.colonFree
  refine ⟨fun unreached now => ?_, fun reached outcome succeeded now => ?_, fun names user type => ?_⟩
  · have same := leaves.markers t ((Target.beyond_iff plain).mpr unreached)
    rw [Token.liveIn_eq, same, Token.liveIn_eq]
  · obtain ⟨n, before, same⟩ := drawn.among _ settled.mem_ids
    have earlier (m : Nat) (new : s.world.drawn ≤ m) (bound : m < w'.drawn) :
        t.id ≠ Entropy.uuid (source m) := by
      rw [same]
      intro alike
      have := apart n (by omega) m bound alike
      omega
    have within := mt (Target.beyond_iff plain).mp (not_not_intro reached)
    rw [Token.liveIn_eq, operation.gone_within ends acts succeeded within earlier plain]
    rfl
  · exact ⟨fun reaches => reaches.owns names user type, Target.Owns.reaches⟩

/-- User `a:b` is signed in on client type `x` when user `a` signs out on client type `b`. -/
theorem live_unless_reached_colon : ∃ (s : System) (events : List Event) (p : TokenPair) (w' : World),
    (initial (Sample.directory "a:b") .epoch).replay? Sample.config Sample.source events = some s ∧
    s.result? 0 = some (.ok (.pair p)) ∧
    ((Operation.logout "a" ⟨"b"⟩).program Sample.config).Ends Sample.source s.world (.ok .finished) w' ∧
    ¬(Target.session "a" ⟨"b"⟩).Owns p.access ∧ p.access.liveIn s.world.cache s.world.clock = true ∧
    ∀ now, p.access.liveIn w'.cache now = false := by
  obtain ⟨events, past, p, v, w, run, clock, quiet, begun⟩ :=
    Sample.signIn "a:b" "x" (by decide) (by decide)
  let s : System := ⟨w, [⟨.loginAnonymous (Sample.client "x") "guest", past,
    .done (.ok (.pair p)), none⟩], []⟩
  have signOut : Session.Ensures Sample.source w.clock _ _ (Session.logout Sample.config "a" ⟨"b"⟩) w :=
    Session.logout_succeeds ⟨"b"⟩ (by decide)
  obtain ⟨_, w', ends, -, revoked⟩ := signOut.ends_ok
  have whole : ((Operation.logout "a" ⟨"b"⟩).program Sample.config).Ends Sample.source s.world
      (.ok .finished) w' := Session.Ends.passOn (fun _ => Outcome.finished) ends
  have returned : s.result? 0 = some (.ok (.pair p)) := rfl
  have drawn : w'.drawn = 2 := by
    rw [revoked.drawn]
    exact begun.drawn.trans (congrArg (· + 2) quiet.still)
  have apart : DrawsApart Sample.source w'.drawn := drawsApart_sample (by omega)
  obtain ⟨-, -, user, type⟩ := begun.access.fields
  have reaches : (Target.session "a" ⟨"b"⟩).Reaches p.access := by
    rw [Target.Reaches, user, type]
    decide
  have gone := (live_unless_reached apart run returned (List.mem_cons_self ..) rfl whole).2.1
  refine ⟨s, events, p, w', run, returned, whole, ?_, ?_, gone reaches _ rfl⟩
  · rintro ⟨same, -⟩
    exact absurd (user.symm.trans same) (by decide)
  · have early : w.clock ≤ v.clock := clock ▸ quiet.clock
    exact begun.live (List.mem_cons_self ..) (Int.le_trans early begun.access.le_expiresAt)

end System

end BearerAuth
