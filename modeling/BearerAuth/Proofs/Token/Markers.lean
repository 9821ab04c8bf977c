import BearerAuth.Entropy
import BearerAuth.Session.Operations
import Mathlib.Data.List.Basic

/-! # Marker keys

A whole key is only told apart by its text. No part of a token id is a colon, so the id can be read
off the end of a marker's key and its kind off the front; the user and the client type in between
run together where they hold colons, and an eviction reaches as far as the joined text lets it. From
the digits of an id the draw that it was made from can be read, except for the six bits that are fixed.
-/

namespace BearerAuth

/-- The text holds no colon, which parts the names in a key. -/
def ColonFree (text : String) : Prop := ':' ∉ text.toList

instance (text : String) : Decidable (ColonFree text) := inferInstanceAs (Decidable (_ ∉ _))

namespace Text

theorem hexValue?_hexDigit : ∀ n < 16, hexValue? (hexDigit n) = some n := by decide

theorem ofHex?_hex (bytes : List UInt8) : ofHex? (hex bytes) = some bytes := by
  induction bytes with
  | nil => rfl
  | cons b bytes ih =>
    have high := hexValue?_hexDigit (b.toNat / 16) (by have := b.toNat_lt; omega)
    have low := hexValue?_hexDigit (b.toNat % 16) (by omega)
    have whole : b.toNat / 16 * 16 + b.toNat % 16 = b.toNat := by omega
    change ofHex? (hexDigit (b.toNat / 16) :: hexDigit (b.toNat % 16) :: hex bytes) = some (b :: bytes)
    simp only [ofHex?, high, low, ih, whole, Option.bind_eq_bind, Option.bind_some, UInt8.ofNat_toNat]

theorem not_mem_hex {c : Char} (other : ∀ n < 16, c ≠ hexDigit n) (bytes : List UInt8) :
    c ∉ hex bytes := by
  intro found
  obtain ⟨b, -, digit⟩ := List.mem_flatMap.mp found
  have high := other (b.toNat / 16) (by have := b.toNat_lt; omega)
  have low := other (b.toNat % 16) (by omega)
  simp [hexByte, high, low] at digit

end Text

namespace Entropy

theorem colonFree_uuid (draw : List UInt8) : ColonFree (uuid draw) := by
  simp [ColonFree, uuid, uuidText, Text.not_mem_hex (by decide : ∀ n < 16, ':' ≠ Text.hexDigit n)]

/-- Without its hyphens the text of a UUID is that of its bytes. -/
private theorem filter_uuidText {bytes : List UInt8} (sized : bytes.length = 16) :
    (uuidText bytes).toList.filter (· ≠ '-') = Text.hex bytes := by
  have digits (part : List UInt8) : (Text.hex part).filter (· ≠ '-') = Text.hex part := by
    refine List.filter_eq_self.mpr fun c member => decide_eq_true ?_
    rintro rfl
    exact Text.not_mem_hex (by decide) part member
  have cut (start length : Nat) : Text.hex (bytes.drop start) =
      Text.hex ((bytes.drop start).take length) ++ Text.hex (bytes.drop (start + length)) := by
    rw [← List.drop_drop, Text.hex, Text.hex, Text.hex, ← List.flatMap_append, List.take_append_drop]
  have last : (bytes.drop 10).take 6 = bytes.drop 10 := List.take_of_length_le (by simp [sized])
  change _ = Text.hex (bytes.drop 0)
  rw [cut 0 4, cut 4 2, cut 6 2, cut 8 2]
  have hyphen (rest : List Char) : ('-' :: rest).filter (· ≠ '-') = rest.filter (· ≠ '-') :=
    List.filter_cons_of_neg (by decide)
  simp only [uuidText, String.toList_ofList, List.filter_append, hyphen, digits, last, Nat.reduceAdd,
    List.append_assoc]

/-- The id keeps every random bit of a draw. -/
theorem uuid_inj {draw draw' : List UInt8} (sized : draw.length = 16) (sized' : draw'.length = 16) :
    uuid draw = uuid draw' ↔ markUuid draw = markUuid draw' := by
  constructor
  · intro same
    have digits : Text.hex (markUuid draw) = Text.hex (markUuid draw') := by
      rw [← filter_uuidText (by simpa [markUuid]), ← filter_uuidText (by simpa [markUuid])]
      exact congrArg (fun text => text.toList.filter (· ≠ '-')) same
    have read := congrArg Text.ofHex? digits
    rw [Text.ofHex?_hex, Text.ofHex?_hex] at read
    exact Option.some.inj read
  · exact congrArg uuidText

end Entropy

private theorem toList_cacheKey (area key : String) :
    (cacheKey area key).toList = area.toList ++ ':' :: key.toList := by
  simp [cacheKey, keySeparator]

private theorem toList_areaStart (area : String) :
    (areaStart area).toList = area.toList ++ [':'] := by
  simp [areaStart, keySeparator]

private theorem toList_markerArea (kind : TokenKind) (userId : String) (clientType : ClientType) :
    (markerArea kind userId clientType).toList =
      kind.marker.toList ++ ':' :: (userId.toList ++ ':' :: clientType.name.toList) := by
  simp [markerArea, keySeparator]

/-- Text parts at its first colon. -/
private theorem append_colon_inj {x x' y y' : List Char} (plain : ':' ∉ x) (plain' : ':' ∉ x')
    (same : x ++ ':' :: y = x' ++ ':' :: y') : x = x' ∧ y = y' := by
  induction x generalizing x' with
  | nil =>
    cases x' with
    | nil => exact ⟨rfl, (List.cons.inj same).2⟩
    | cons c x' =>
      obtain ⟨head, -⟩ := List.cons.inj same
      exact absurd (head ▸ List.mem_cons_self ..) plain'
  | cons c x ih =>
    cases x' with
    | nil =>
      obtain ⟨head, -⟩ := List.cons.inj same
      exact absurd (head ▸ List.mem_cons_self ..) plain
    | cons c' x' =>
      obtain ⟨rfl, tail⟩ := List.cons.inj same
      obtain ⟨rfl, rest⟩ := ih (List.not_mem_of_not_mem_cons plain)
        (List.not_mem_of_not_mem_cons plain') tail
      exact ⟨rfl, rest⟩

/-- A text that ends in a colon reaches into one only up to the last colon there. -/
private theorem prefix_colon {p q x : List Char} (plain : ':' ∉ x) :
    p ++ [':'] <+: q ++ ':' :: x ↔ p ++ [':'] <+: q ++ [':'] := by
  have split : q ++ ':' :: x = q ++ [':'] ++ x := by simp
  constructor
  · rintro ⟨rest, whole⟩
    rw [split] at whole
    obtain ⟨more, shorter, -⟩ | ⟨excess, longer, rfl⟩ := List.append_eq_append_iff.mp whole
    · exact ⟨more, shorter.symm⟩
    · obtain rfl | ⟨front, c, rfl⟩ := List.eq_nil_or_concat excess
      · exact ⟨[], by simpa using longer⟩
      · rw [List.concat_eq_append, ← List.append_assoc] at longer
        obtain ⟨-, last⟩ := List.append_inj' longer rfl
        obtain rfl := (List.cons.inj last).1
        exact absurd (by simp) plain
  · intro within
    rw [split]
    exact within.trans (List.prefix_append _ _)

/-- Keys without a colon are told apart, and so are their areas. -/
theorem cacheKey_inj {area area' key key' : String} (plain : ColonFree key)
    (plain' : ColonFree key') (same : cacheKey area key = cacheKey area' key') :
    area = area' ∧ key = key' := by
  have lists := congrArg (List.reverse ∘ String.toList) same
  simp only [Function.comp_apply, toList_cacheKey, List.reverse_append, List.reverse_cons,
    List.append_assoc, List.singleton_append] at lists
  obtain ⟨keys, areas⟩ := append_colon_inj (List.mem_reverse.not.mpr plain)
    (List.mem_reverse.not.mpr plain') lists
  exact ⟨String.toList_inj.mp (List.reverse_inj.mp areas),
    String.toList_inj.mp (List.reverse_inj.mp keys)⟩

/-! ## Markers -/

/-- The whole key of a token's marker. -/
def Token.markerKey (t : Token) : String :=
  cacheKey (markerArea t.kind t.userId t.clientType) t.id

/-- The part of a marker's key between its kind and the id. -/
def markerPath (userId : String) (clientType : ClientType) : String :=
  areaStart (cacheKey userId clientType.name)

private theorem toList_markerPath (userId : String) (clientType : ClientType) :
    (markerPath userId clientType).toList =
      userId.toList ++ ':' :: clientType.name.toList ++ [':'] := by
  rw [markerPath, toList_areaStart, toList_cacheKey]

private theorem colonFree_marker (kind : TokenKind) : ':' ∉ kind.marker.toList := by
  cases kind <;> decide

private theorem marker_inj {kind kind' : TokenKind} (same : kind.marker.toList = kind'.marker.toList) :
    kind = kind' := by
  cases kind <;> cases kind' <;> first | rfl | exact absurd same (by decide)

/-- Evicting what starts with a text drops the marker if the text reaches into its path. -/
private theorem liesIn_marker {area : String} {kind : TokenKind} {reach : List Char}
    (shown : area.toList = kind.marker.toList ++ ':' :: reach) {t : Token} (plain : ColonFree t.id) :
    liesIn area t.markerKey = true ↔
      kind = t.kind ∧ reach ++ [':'] <+: (markerPath t.userId t.clientType).toList := by
  have key : t.markerKey.toList = t.kind.marker.toList ++ ':' ::
      (t.userId.toList ++ ':' :: t.clientType.name.toList ++ ':' :: t.id.toList) := by
    rw [Token.markerKey, toList_cacheKey, toList_markerArea]
    simp
  rw [liesIn, List.isPrefixOf_iff_prefix, toList_areaStart, shown, key, toList_markerPath,
    ← prefix_colon plain]
  constructor
  · rintro ⟨rest, whole⟩
    obtain ⟨kinds, tail⟩ := append_colon_inj (y := reach ++ [':'] ++ rest) (colonFree_marker kind)
      (colonFree_marker t.kind) (by simpa using whole)
    exact ⟨marker_inj kinds, rest, by simpa using tail⟩
  · rintro ⟨rfl, rest, tail⟩
    exact ⟨rest, by simp [← tail]⟩

/-- Revoking a user's tokens on a client type reaches the markers whose path begins with theirs. -/
theorem liesIn_markerArea {kind : TokenKind} {userId : String} {clientType : ClientType} {t : Token}
    (plain : ColonFree t.id) :
    liesIn (markerArea kind userId clientType) t.markerKey = true ↔
      kind = t.kind ∧ (markerPath userId clientType).toList <+:
        (markerPath t.userId t.clientType).toList := by
  rw [liesIn_marker (toList_markerArea kind userId clientType) plain,
    toList_markerPath userId clientType]

/-- Revoking a user's tokens reaches the markers whose path begins with the user's name. -/
theorem liesIn_userMarkerArea {kind : TokenKind} {userId : String} {t : Token}
    (plain : ColonFree t.id) :
    liesIn (userMarkerArea kind userId) t.markerKey = true ↔
      kind = t.kind ∧ (areaStart userId).toList <+: (markerPath t.userId t.clientType).toList := by
  have shown : (userMarkerArea kind userId).toList = kind.marker.toList ++ ':' :: userId.toList := by
    simp [userMarkerArea, keySeparator]
  rw [liesIn_marker shown plain, toList_areaStart]

/-- Without colons in their names, only the same user and client type are reached. -/
theorem eq_of_markerPath {userId otherId : String} {clientType otherType : ClientType}
    (plainUser : ColonFree userId) (plainOther : ColonFree otherId)
    (plainType : ColonFree clientType.name) (plainOtherType : ColonFree otherType.name)
    (reached : (markerPath userId clientType).toList <+: (markerPath otherId otherType).toList) :
    userId = otherId ∧ clientType = otherType := by
  obtain ⟨rest, whole⟩ := reached
  simp only [toList_markerPath, List.append_assoc, List.cons_append] at whole
  obtain ⟨users, types⟩ := append_colon_inj plainUser plainOther whole
  have types : clientType.name.toList ++ ':' :: rest = otherType.name.toList ++ ':' :: [] := types
  obtain ⟨types, -⟩ := append_colon_inj plainType plainOtherType types
  refine ⟨String.toList_inj.mp users, ?_⟩
  cases clientType
  cases otherType
  exact congrArg ClientType.mk (String.toList_inj.mp types)

/-- The path of a marker begins with its user. -/
theorem areaStart_markerPath (userId : String) (clientType : ClientType) :
    (areaStart userId).toList <+: (markerPath userId clientType).toList := by
  refine ⟨clientType.name.toList ++ [':'], ?_⟩
  rw [toList_areaStart, toList_markerPath]
  simp

/-- Without colons in their names, only the same user is reached. -/
theorem eq_of_areaStart {userId otherId : String} {otherType : ClientType}
    (plainUser : ColonFree userId) (plainOther : ColonFree otherId)
    (reached : (areaStart userId).toList <+: (markerPath otherId otherType).toList) :
    userId = otherId := by
  obtain ⟨rest, whole⟩ := reached
  simp only [toList_markerPath, toList_areaStart, List.append_assoc, List.cons_append] at whole
  exact String.toList_inj.mp (append_colon_inj plainUser plainOther whole).1

private theorem lookup_ne_marker {area : String} (plain : ColonFree area)
    (other : ∀ kind : TokenKind, area.toList ≠ kind.marker.toList) (key : String) (t : Token) :
    cacheKey area key ≠ t.markerKey := by
  intro same
  have lists := congrArg String.toList same
  rw [Token.markerKey, toList_cacheKey, toList_cacheKey, toList_markerArea, List.append_assoc,
    List.cons_append] at lists
  exact other t.kind (append_colon_inj plain (colonFree_marker t.kind) lists).1

/-- The copies of clients are kept apart from the markers. -/
theorem clientKey_ne_marker (secret : String) (t : Token) :
    cacheKey Session.clientArea secret ≠ t.markerKey :=
  lookup_ne_marker (by decide) (by intro kind; cases kind <;> decide) secret t

/-- The copies of users are kept apart from the markers. -/
theorem userKey_ne_marker (userId : String) (t : Token) :
    cacheKey Session.userArea userId ≠ t.markerKey :=
  lookup_ne_marker (by decide) (by intro kind; cases kind <;> decide) userId t

/-- The copies of users are kept apart from those of clients. -/
theorem userKey_ne_clientKey (userId secret : String) :
    cacheKey Session.userArea userId ≠ cacheKey Session.clientArea secret := by
  intro same
  have lists := congrArg String.toList same
  rw [toList_cacheKey, toList_cacheKey] at lists
  exact absurd (append_colon_inj (by decide) (by decide) lists).1 (by decide)

/-- Markers of tokens of both kinds are kept apart. -/
theorem Token.kind_eq_of_markerKey {t t' : Token} (same : t.markerKey = t'.markerKey) :
    t.kind = t'.kind := by
  have lists := congrArg String.toList same
  simp only [Token.markerKey, toList_cacheKey, toList_markerArea, List.append_assoc,
    List.cons_append] at lists
  exact marker_inj (append_colon_inj (colonFree_marker _) (colonFree_marker _) lists).1

/-- Markers of one user's tokens on different client types are kept apart. -/
theorem Token.clientType_eq_of_markerKey {t t' : Token} (plain : ColonFree t.id)
    (plain' : ColonFree t'.id) (users : t.userId = t'.userId) (same : t.markerKey = t'.markerKey) :
    t.clientType = t'.clientType := by
  have lists := congrArg String.toList (cacheKey_inj plain plain' same).1
  rw [toList_markerArea, toList_markerArea, users] at lists
  obtain ⟨-, paths⟩ := append_colon_inj (colonFree_marker _) (colonFree_marker _) lists
  have names := (List.cons.inj (List.append_cancel_left paths)).2
  cases h : t.clientType
  cases h' : t'.clientType
  rw [h, h'] at names
  exact congrArg ClientType.mk (String.toList_inj.mp names)

/-- Copies of users are kept by their ids. -/
theorem userKey_inj {userId otherId : String}
    (same : cacheKey Session.userArea userId = cacheKey Session.userArea otherId) :
    userId = otherId := by
  have lists := congrArg String.toList same
  rw [toList_cacheKey, toList_cacheKey] at lists
  exact String.toList_inj.mp (append_colon_inj (by decide) (by decide) lists).2

/-- Copies of clients are kept by their secrets. -/
theorem clientKey_inj {secret other : String}
    (same : cacheKey Session.clientArea secret = cacheKey Session.clientArea other) :
    secret = other := by
  have lists := congrArg String.toList same
  rw [toList_cacheKey, toList_cacheKey] at lists
  exact String.toList_inj.mp (append_colon_inj (by decide) (by decide) lists).2

/-- Markers of tokens with ids of their own have keys of their own. -/
theorem Token.markerKey_inj {t t' : Token} (plain : ColonFree t.id) (plain' : ColonFree t'.id)
    (same : t.markerKey = t'.markerKey) : t.id = t'.id := (cacheKey_inj plain plain' same).2

end BearerAuth
