import BearerAuth.Proofs.Json.Reading
import Mathlib.Data.List.Forall2

/-! # Reading lists and records

The items of a list and the members of an object are read one after the other, each up to the comma
or the closing mark behind it. The readers bound their recursion by the length of the input, which
is more than the number of parts, as each part takes a byte.
-/

namespace BearerAuth.Json.Reader

variable {α β : Type}

/-- The bytes of texts that each follow a comma. -/
def behindCommas (texts : List String) : List UInt8 := texts.flatMap fun t => 0x2C :: Text.utf8 t

theorem utf8_joined (first : String) (texts : List String) :
    Text.utf8 (Value.joined "," (first :: texts)) = Text.utf8 first ++ behindCommas texts := by
  induction texts generalizing first with
  | nil => simp [Value.joined, behindCommas]
  | cons second texts ih =>
    rw [Value.joined, Text.utf8_append, Text.utf8_append, ih]
    · simp [behindCommas]
      rfl
    · simp

theorem length_le_behindCommas (texts : List String) :
    texts.length ≤ (behindCommas texts).length := by
  induction texts with
  | nil => exact Nat.zero_le _
  | cons t texts ih =>
    simp only [behindCommas, List.flatMap_cons, List.length_append, List.length_cons] at ih ⊢
    omega

/-! ## Objects -/

/-- The members take a record from one state of its slots to another, one after the other. -/
inductive Fills (step : β → String → Reader β) : β → List (String × Value) → β → Prop
  | nil {state : β} : Fills step state [] state
  | cons {state final : β} (next : β) {key : String} {value : Value} {rest : List (String × Value)} :
      Reads (step state key) (Text.utf8 value.compact) next → Fills step next rest final →
        Fills step state ((key, value) :: rest) final

private theorem utf8_member (key : String) (value : Value) (rest : List UInt8) :
    Text.utf8 (String.ofList (quote key) ++ ":" ++ value.compact) ++ rest =
      0x22 :: ((key.toList.flatMap escape).flatMap String.utf8EncodeChar ++
        0x22 :: 0x3A :: (Text.utf8 value.compact ++ rest)) := by
  have colon : Text.utf8 ":" = [0x3A] := rfl
  rw [Text.utf8_append, Text.utf8_append, utf8_quote, colon]
  simp

/-- The part of reading a key that comes behind the comma, if there is one. -/
private def quotedKey : Reader (Option String) := do
  match ← peekToken with
  | some 0x22 =>
    drop
    let name ← stringTail
    token 0x3A
    return some name
  | _ => fail

private theorem quotedKey_member (name : String) (value : Value) (rest : List UInt8) :
    quotedKey (Text.utf8 (String.ofList (quote name) ++ ":" ++ value.compact) ++ rest) =
      .ok (some name) (Text.utf8 value.compact ++ rest) := by
  rw [utf8_member, quotedKey, bind_ok (peekToken_cons rfl _)]
  refine (bind_ok (stringTail_quote name (0x3A :: (Text.utf8 value.compact ++ rest)))).trans ?_
  rw [bind_ok (token_cons rfl _)]
  rfl

theorem key_first (name : String) (value : Value) (rest : List UInt8) :
    key true (Text.utf8 (String.ofList (quote name) ++ ":" ++ value.compact) ++ rest) =
      .ok (some name) (Text.utf8 value.compact ++ rest) := by
  have quoted := quotedKey_member name value rest
  rw [utf8_member] at quoted ⊢
  rw [key, bind_ok (peekToken_cons rfl _)]
  simp only [Bool.not_true, Bool.false_eq_true, ↓reduceIte]
  exact quoted

theorem key_behind_comma (name : String) (value : Value) (rest : List UInt8) :
    key false (0x2C :: (Text.utf8 (String.ofList (quote name) ++ ":" ++ value.compact) ++ rest)) =
      .ok (some name) (Text.utf8 value.compact ++ rest) := by
  have quoted := quotedKey_member name value rest
  generalize Text.utf8 (String.ofList (quote name) ++ ":" ++ value.compact) ++ rest = text
    at quoted ⊢
  rw [key, bind_ok (peekToken_cons rfl _)]
  simp only [Bool.not_false, ↓reduceIte]
  exact quoted

theorem key_end (first : Bool) (rest : List UInt8) :
    key first (0x7D :: rest) = .ok none (0x7D :: rest) := by
  rw [key, bind_ok (peekToken_cons rfl _)]
  rfl

private theorem delimited_behindCommas (texts : List String) {rest : List UInt8}
    (ends : Delimited rest) : Delimited (behindCommas texts ++ rest) := by
  cases texts with
  | nil => exact ends
  | cons t texts => exact delimited_comma _

/-- Further members, each behind a comma, are read up to the brace. -/
theorem members_behindCommas {step : β → String → Reader β} {state final : β}
    {ms : List (String × Value)} (fills : Fills step state ms final) (rest : List UInt8) {fuel : Nat}
    (enough : ms.length < fuel) :
    members step state false fuel (behindCommas (Value.compactMembers ms) ++ 0x7D :: rest) =
      .ok final (0x7D :: rest) := by
  induction fills generalizing fuel with
  | nil =>
    obtain ⟨fuel, rfl⟩ := Nat.exists_eq_succ_of_ne_zero (Nat.ne_zero_of_lt enough)
    change members step _ false (fuel + 1) (0x7D :: rest) = _
    rw [members, bind_ok (key_end false rest)]
    rfl
  | @cons state next final name value ms reads _ ih =>
    obtain ⟨fuel, rfl⟩ := Nat.exists_eq_succ_of_ne_zero (Nat.ne_zero_of_lt enough)
    rw [List.length_cons] at enough
    have text : behindCommas (Value.compactMembers ((name, value) :: ms)) ++ 0x7D :: rest =
        0x2C :: (Text.utf8 (String.ofList (quote name) ++ ":" ++ value.compact) ++
          (behindCommas (Value.compactMembers ms) ++ 0x7D :: rest)) := by
      simp [Value.compactMembers, behindCommas]
    rw [text, members, bind_ok (key_behind_comma name value _)]
    simp only
    rw [bind_ok (reads _ (delimited_behindCommas _ (delimited_brace rest)))]
    exact ih (by omega)

/-- The members of a written object fill a record. -/
theorem members_object {step : β → String → Reader β} {state final : β}
    {ms : List (String × Value)} (fills : Fills step state ms final) (rest : List UInt8) {fuel : Nat}
    (enough : ms.length < fuel) :
    members step state true fuel
        (Text.utf8 (Value.joined "," (Value.compactMembers ms)) ++ 0x7D :: rest) =
      .ok final (0x7D :: rest) := by
  obtain ⟨fuel, rfl⟩ := Nat.exists_eq_succ_of_ne_zero (Nat.ne_zero_of_lt enough)
  cases fills with
  | nil =>
    change members step _ true (fuel + 1) (0x7D :: rest) = _
    rw [members, bind_ok (key_end true rest)]
    rfl
  | @cons _ next _ name value ms reads tail =>
    rw [List.length_cons] at enough
    rw [Value.compactMembers, utf8_joined, List.append_assoc, members,
      bind_ok (key_first name value _)]
    simp only
    rw [bind_ok (reads _ (delimited_behindCommas _ (delimited_brace rest)))]
    exact members_behindCommas tail rest (by omega)

private theorem length_compactMembers (ms : List (String × Value)) :
    (Value.compactMembers ms).length = ms.length := by
  induction ms with
  | nil => rfl
  | cons m ms ih => simp [Value.compactMembers, ih]

private theorem length_le_compactMembers (ms : List (String × Value)) :
    ms.length ≤ (Text.utf8 (Value.joined "," (Value.compactMembers ms))).length := by
  cases ms with
  | nil => exact Nat.zero_le _
  | cons m ms =>
    rw [Value.compactMembers, utf8_joined, List.length_append, Text.utf8_append, Text.utf8_append,
      utf8_quote]
    have others := length_le_behindCommas (Value.compactMembers ms)
    have same := length_compactMembers ms
    simp only [List.length_append, List.length_cons]
    omega

theorem field_reads {r : Reader α} {text : List UInt8} {a : α} (reads : Reads r text a) :
    Reads (field none r) text (some a) :=
  reads.bind fun _ => rfl

/-- A written object is read as a record if its members fill the record and that is finished. -/
theorem record_reads {start : β} (final : β) {step : β → String → Reader β} {finish : β → Reader α}
    {inOrder : Reader α} {ms : List (String × Value)} {a : α} (fills : Fills step start ms final)
    (finished : ∀ rest, finish final rest = .ok a rest) :
    Reads (record start step finish inOrder) (Text.utf8 (Value.object ms).compact) a := by
  intro rest _
  have text : Text.utf8 (Value.object ms).compact ++ rest =
      0x7B :: (Text.utf8 (Value.joined "," (Value.compactMembers ms)) ++ 0x7D :: rest) := by
    rw [Value.compact, Text.utf8_append, Text.utf8_append]
    simp
    rfl
  have enough := length_le_compactMembers ms
  rw [text, record, bind_ok (peekToken_cons rfl _)]
  generalize inside : Text.utf8 (Value.joined "," (Value.compactMembers ms)) ++ 0x7D :: rest = body
  have filled : ∀ fuel, ms.length < fuel → members step start true fuel body =
      .ok final (0x7D :: rest) := fun fuel more => inside ▸ members_object fills rest more
  have length : ms.length < body.length + 1 := by
    rw [← inside, List.length_append]
    omega
  change closing (do finish (← members step start true ((← get).length + 1))) closeObject body = _
  have got : (get : Reader (List UInt8)) body = .ok body body := rfl
  have whole : (do finish (← members step start true ((← get).length + 1)) : Reader α) body =
      .ok a (0x7D :: rest) := by
    rw [bind_ok got, bind_ok (filled _ length), finished]
  have closed : closeObject (0x7D :: rest) = .ok () rest := token_cons rfl rest
  simp only [closing, whole, closed]

/-! ## Lists -/

/-- The text of the value begins as an item of a list can. -/
def BeginsItem (v : Value) : Prop :=
  ∃ b text, Text.utf8 v.compact = b :: text ∧ isBlankByte b = false ∧ b ≠ 0x5D

theorem beginsItem_object (ms : List (String × Value)) : BeginsItem (.object ms) := by
  refine ⟨0x7B, Text.utf8 (Value.joined "," (Value.compactMembers ms)) ++ [0x7D], ?_, rfl, by decide⟩
  rw [Value.compact, Text.utf8_append, Text.utf8_append]
  simp
  rfl

private theorem hasItem_first {b : UInt8} (dark : isBlankByte b = false) (more : b ≠ 0x5D)
    (rest : List UInt8) : hasItem true (b :: rest) = .ok true (b :: rest) := by
  rw [hasItem, bind_ok (peekToken_cons dark rest)]
  simp only [↓reduceIte]
  rfl

/-- What `hasItem` does behind a comma. -/
private def itemBehindComma : Reader Bool := do
  match ← peekToken with
  | none | some 0x5D => fail
  | some _ => pure true

private theorem hasItem_behind_comma {b : UInt8} (dark : isBlankByte b = false) (more : b ≠ 0x5D)
    (rest : List UInt8) : hasItem false (0x2C :: b :: rest) = .ok true (b :: rest) := by
  have item : itemBehindComma (b :: rest) = .ok true (b :: rest) := by
    rw [itemBehindComma, bind_ok (peekToken_cons dark rest)]
    simp only
    rfl
  generalize b :: rest = text at item ⊢
  rw [hasItem, bind_ok (peekToken_cons rfl _)]
  simp only [Bool.false_eq_true, ↓reduceIte]
  exact item

private theorem hasItem_end (first : Bool) (rest : List UInt8) :
    hasItem first (0x5D :: rest) = .ok false (0x5D :: rest) := by
  rw [hasItem, bind_ok (peekToken_cons rfl _)]
  rfl

/-- Further items, each behind a comma, are read up to the bracket. -/
theorem items_behindCommas {r : Reader α} {vs : List Value} {as : List α}
    (reads : List.Forall₂ (fun v a => BeginsItem v ∧ Reads r (Text.utf8 v.compact) a) vs as)
    (rest : List UInt8) {fuel : Nat} (enough : vs.length < fuel) :
    items r false fuel (behindCommas (Value.compactItems vs) ++ 0x5D :: rest) =
      .ok as (0x5D :: rest) := by
  induction reads generalizing fuel with
  | nil =>
    obtain ⟨fuel, rfl⟩ := Nat.exists_eq_succ_of_ne_zero (Nat.ne_zero_of_lt enough)
    change items r false (fuel + 1) (0x5D :: rest) = _
    rw [items, bind_ok (hasItem_end false rest)]
    rfl
  | @cons v a vs as read _ ih =>
    obtain ⟨fuel, rfl⟩ := Nat.exists_eq_succ_of_ne_zero (Nat.ne_zero_of_lt enough)
    rw [List.length_cons] at enough
    obtain ⟨⟨b, text, shown, dark, more⟩, reads⟩ := read
    have read := reads _ (delimited_behindCommas (Value.compactItems vs) (delimited_bracket rest))
    have whole : behindCommas (Value.compactItems (v :: vs)) ++ 0x5D :: rest =
        0x2C :: b :: (text ++ (behindCommas (Value.compactItems vs) ++ 0x5D :: rest)) := by
      simp [Value.compactItems, behindCommas, shown]
    rw [shown, List.cons_append] at read
    rw [whole, items, bind_ok (hasItem_behind_comma dark more _)]
    simp only [↓reduceIte]
    rw [bind_ok read, bind_ok (ih (by omega))]
    rfl

private theorem length_compactItems (vs : List Value) :
    (Value.compactItems vs).length = vs.length := by
  induction vs with
  | nil => rfl
  | cons v vs ih => simp [Value.compactItems, ih]

/-- A written list is read if each of its items is. -/
theorem list_reads {r : Reader α} {vs : List Value} {as : List α}
    (reads : List.Forall₂ (fun v a => BeginsItem v ∧ Reads r (Text.utf8 v.compact) a) vs as) :
    Reads (list r) (Text.utf8 (Value.list vs).compact) as := by
  intro rest _
  have text : Text.utf8 (Value.list vs).compact ++ rest =
      0x5B :: (Text.utf8 (Value.joined "," (Value.compactItems vs)) ++ 0x5D :: rest) := by
    rw [Value.compact, Text.utf8_append, Text.utf8_append]
    simp
    rfl
  have closed : closeList (0x5D :: rest) = .ok () rest := by
    rw [closeList, bind_ok (peekToken_cons rfl _)]
    rfl
  rw [text, list, bind_ok (token_cons rfl _)]
  -- The reader of items is bounded by the length of what is left, which has a byte for each item.
  generalize inside : Text.utf8 (Value.joined "," (Value.compactItems vs)) ++ 0x5D :: rest = body
  have got : (get : Reader (List UInt8)) body = .ok body body := rfl
  have whole : items r true (body.length + 1) body = .ok as (0x5D :: rest) := by
    cases reads with
    | nil =>
      subst inside
      exact (bind_ok (hasItem_end true rest)).trans rfl
    | @cons v a vs as read tail =>
      obtain ⟨⟨b, text, shown, dark, more⟩, reads⟩ := read
      have read := reads _ (delimited_behindCommas (Value.compactItems vs) (delimited_bracket rest))
      have others := length_le_behindCommas (Value.compactItems vs)
      have same := length_compactItems vs
      rw [Value.compactItems, utf8_joined, shown, List.append_assoc, List.cons_append] at inside
      rw [shown, List.cons_append] at read
      have length : vs.length < body.length := by
        rw [← inside]
        simp only [List.length_cons, List.length_append]
        omega
      rw [items, ← inside, bind_ok (hasItem_first dark more _)]
      simp only [↓reduceIte]
      rw [bind_ok read, inside, bind_ok (items_behindCommas tail rest length)]
      rfl
  rw [listTail, closing, bind_ok got, whole]
  simp only [closed]

end BearerAuth.Json.Reader
