import BearerAuth.Proofs.Yaml.QuotedValue

/-! # Values of the same size

A scanner never looks at the tokens that it has found; it only counts them to tell where a key may have begun. So with
another text of the same size as the value beside a key, the same tokens are found around it, whatever else follows on
the line.
-/

namespace BearerAuth.Yaml

open Cursor

/-! ## Tokens in between -/

/-- Puts a token where only that many were before it. -/
def insertAt (tokens : List Token) (before : Nat) (token : Token) : List Token :=
  tokens.take (tokens.length - before) ++ token :: tokens.drop (tokens.length - before)

theorem length_insertAt (tokens : List Token) (before : Nat) (token : Token) :
    (insertAt tokens before token).length = tokens.length + 1 := by
  simp only [insertAt, List.length_append, List.length_cons, List.length_take, List.length_drop]
  omega

theorem insertAt_early {later earlier : List Token} {before : Nat} (early : before ≤ earlier.length) (token : Token) :
    insertAt (later ++ earlier) before token = later ++ insertAt earlier before token := by
  have split : (later ++ earlier).length - before = later.length + (earlier.length - before) := by
    rw [List.length_append, Nat.add_sub_assoc early]
  rw [insertAt, split, List.take_length_add_append, List.drop_length_add_append, List.append_assoc, insertAt]

theorem insertAt_late {later earlier : List Token} {before : Nat} (late : earlier.length ≤ before) (token : Token) :
    insertAt (later ++ earlier) before token = insertAt later (before - earlier.length) token ++ earlier := by
  have split : (later ++ earlier).length - before = later.length - (before - earlier.length) := by
    rw [List.length_append]
    omega
  have within : later.length - (before - earlier.length) ≤ later.length := Nat.sub_le _ _
  rw [insertAt, split, List.take_append_of_le_length within, List.drop_append_of_le_length within, insertAt,
    List.append_assoc, List.cons_append]

/-- Keys that may have begun, the innermost first: some behind the two tokens that follow so many others, then those in
front of the two, and none between them. -/
inductive KeysApart (place : Nat) : List (Option KeyStart) → Prop
  | before {keys : List (Option KeyStart)} (all : ∀ key ∈ keys, ∀ start ∈ key, start.tokensBefore ≤ place) :
    KeysApart place keys
  | behind {key : Option KeyStart} {keys : List (Option KeyStart)}
    (late : ∀ start ∈ key, place + 2 ≤ start.tokensBefore) (apart : KeysApart place keys) :
    KeysApart place (key :: keys)

namespace KeysApart

variable {place : Nat} {key : Option KeyStart} {keys : List (Option KeyStart)}

theorem tail (apart : KeysApart place (key :: keys)) : KeysApart place keys := by
  cases apart with
  | before all => exact .before fun key member => all key (List.mem_cons_of_mem _ member)
  | behind late apart => exact apart

theorem cons_none (apart : KeysApart place keys) : KeysApart place (none :: keys) :=
  .behind (by simp) apart

theorem fresh (apart : KeysApart place keys) (c : Cursor) : KeysApart place (keys.map (Scanner.fresh c)) := by
  induction apart with
  | before all =>
    refine .before (List.forall_mem_map.mpr fun key member start kept => ?_)
    exact all key member start (Scanner.mem_of_mem_fresh kept)
  | behind late apart ih => exact .behind (fun start kept => late start (Scanner.mem_of_mem_fresh kept)) ih

end KeysApart

/-! ## Steps around a value -/

/-- A scanner behind the value of a key, whatever that value is. -/
structure Holding where
  /-- The scanner, with the tokens behind the value only. -/
  state : Scanner
  /-- The tokens in front of the value, up to the one that says that it is a value. -/
  earlier : List Token
  apart : KeysApart earlier.length (state.keyStart :: state.outerKeys)

/-- The scanner with a token as the value. -/
def Holding.around (h : Holding) (held : Token) : Scanner :=
  { h.state with tokens := h.state.tokens ++ held :: .value :: h.earlier }

/-- What comes out is the same around all values. -/
def Alike {α β : Type} (view : β → Token → α) (out : Scanner → α) : Prop :=
  ∀ h : Holding, ∃ b, ∀ held, out (h.around held) = view b held

/-- What may be missing, around a value. -/
def possibly {α β : Type} (view : β → Token → α) (b : Option β) (held : Token) : Option α := b.map (view · held)

/-- The change is the same for all values. -/
abbrev Adds : (Scanner → Scanner) → Prop := Alike Holding.around

/-- The step is the same for all values. -/
abbrev Blind : (Scanner → Option Scanner) → Prop := Alike (possibly Holding.around)

/-- The same is read for all values. -/
def Unseen {α : Type} (read : Scanner → α) : Prop := ∀ (h : Holding) held, read (h.around held) = read h.state

namespace Alike

variable {α β : Type} {view : β → Token → α}

theorem ite {out other : Scanner → α} {p : Scanner → Prop} [DecidablePred p] (unseen : Unseen p)
    (yes : Alike view out) (no : Alike view other) : Alike view fun s => if p s then out s else other s := by
  intro h
  by_cases holds : p h.state
  · obtain ⟨b, same⟩ := yes h
    exact ⟨b, fun held => (if_pos ((unseen h held).mpr holds)).trans (same held)⟩
  · obtain ⟨b, same⟩ := no h
    exact ⟨b, fun held => (if_neg (mt (unseen h held).mp holds)).trans (same held)⟩

theorem behind {out : Scanner → α} (alike : Alike view out) {change : Scanner → Scanner} (adds : Adds change) :
    Alike view fun s => out (change s) := by
  intro h
  obtain ⟨h', same⟩ := adds h
  obtain ⟨b, same'⟩ := alike h'
  exact ⟨b, fun held => (congrArg out (same held)).trans (same' held)⟩

theorem bind {step : Scanner → Option Scanner} {out : Scanner → Option α} (blind : Blind step)
    (alike : Alike (possibly view) out) : Alike (possibly view) fun s => step s >>= out := by
  intro h
  obtain ⟨- | h', same⟩ := blind h
  · exact ⟨none, fun held => congrArg (Option.bind · out) (same held)⟩
  · obtain ⟨b, same'⟩ := alike h'
    exact ⟨b, fun held => (congrArg (Option.bind · out) (same held)).trans (same' held)⟩

theorem none : Alike (possibly view) fun _ => Option.none := fun _ => ⟨Option.none, fun _ => rfl⟩

theorem some {out : Scanner → α} (alike : Alike view out) : Alike (possibly view) fun s => Option.some (out s) := by
  intro h
  obtain ⟨b, same⟩ := alike h
  exact ⟨Option.some b, fun held => congrArg Option.some (same held)⟩

/-- What is read from the text may decide how to go on. -/
theorem read {γ : Type} {reads : Scanner → Option γ} {out : Scanner → γ → Option α} (unseen : Unseen reads)
    (goesOn : ∀ c, Alike (possibly view) (out · c)) : Alike (possibly view) fun s => reads s >>= out s := by
  intro h
  cases found : reads h.state with
  | none => exact ⟨Option.none, fun held => congrArg (Option.bind · _) ((unseen h held).trans found)⟩
  | some c =>
    obtain ⟨b, same⟩ := goesOn c h
    exact ⟨b, fun held => (congrArg (Option.bind · _) ((unseen h held).trans found)).trans (same held)⟩

end Alike

namespace Scanner

/-! ### Changes -/

/-- A change of the cursor, the blocks and the permission for a key, with some tokens more. -/
theorem adds_update (found : Scanner → List Token) {cursor : Scanner → Cursor} {blocks : Scanner → List Nat}
    {keyAllowed : Scanner → Bool} (unseen : Unseen fun s => (cursor s, found s, blocks s, keyAllowed s)) :
    Adds fun s => { s with
      cursor := cursor s, tokens := found s ++ s.tokens, blocks := blocks s, keyAllowed := keyAllowed s } := by
  intro h
  refine ⟨⟨{ h.state with
    cursor := cursor h.state, tokens := found h.state ++ h.state.tokens, blocks := blocks h.state
    keyAllowed := keyAllowed h.state }, h.earlier, h.apart⟩, fun held => ?_⟩
  have same := unseen h held
  simp only [Prod.mk.injEq] at same
  simp only [same]
  simp [Holding.around]

theorem adds_openBlock_here (start : Token) :
    Adds fun s => s.openBlock s.cursor.column s.tokens.length start := by
  have opened (s : Scanner) : s.openBlock s.cursor.column s.tokens.length start =
      if !s.inFlow ∧ s.margin ≤ s.cursor.column then
        { s with tokens := [start] ++ s.tokens, blocks := s.cursor.column :: s.blocks }
      else s := by
    have here : s.insert s.tokens.length start = s.push start := by simp [insert, push]
    simp only [openBlock, here]
    rfl
  simp only [opened]
  exact .ite (fun _ _ => rfl) (adds_update (fun _ => [start]) fun _ _ => rfl) fun h => ⟨h, fun _ => rfl⟩

theorem adds_closeBlocks (deeper : Nat → Bool) : Adds (closeBlocks · deeper) :=
  .ite (fun _ _ => rfl) (fun h => ⟨h, fun _ => rfl⟩)
    (adds_update (fun s => (s.blocks.takeWhile deeper).map fun _ => Token.blockEnd) fun _ _ => rfl)

theorem adds_skipGaps (fuel : Nat) : Adds (skipGaps fuel) := by
  induction fuel with
  | zero => exact fun h => ⟨h, fun _ => rfl⟩
  | succ fuel ih =>
    rw [funext (skipGaps_succ · fuel)]
    exact .ite (fun _ _ => rfl) (.behind ih (adds_update (fun _ => []) fun _ _ => rfl))
      (adds_update (fun _ => []) fun _ _ => rfl)

/-! ### Keys -/

theorem adds_giveUp : Adds fun s => { s with keyStart := none } :=
  fun h => ⟨⟨{ h.state with keyStart := none }, h.earlier, h.apart.tail.cons_none⟩, fun _ => rfl⟩

theorem blind_dropKey : Blind dropKey :=
  .ite (fun _ _ => rfl) .none (.some adds_giveUp)

/-- A key that begins here has the value before it. -/
theorem blind_rememberKey : Blind rememberKey := by
  have step : rememberKey = fun s => if s.keyAllowed then
      if s.keyStart.any (·.required) then none
      else some { s with
        keyStart := some ⟨s.tokens.length, s.cursor, !s.inFlow && s.blocks.head? == some s.cursor.column⟩ }
      else some s := by
    funext s
    unfold rememberKey dropKey
    split
    · split <;> rfl
    · rfl
  rw [step]
  refine .ite (fun _ _ => rfl) (.ite (fun _ _ => rfl) .none (.some fun h => ?_)) (.some fun h => ⟨h, fun _ => rfl⟩)
  let key : KeyStart := ⟨h.state.tokens.length + (h.earlier.length + 2), h.state.cursor,
    !h.state.inFlow && h.state.blocks.head? == some h.state.cursor.column⟩
  have late : ∀ start ∈ some key, h.earlier.length + 2 ≤ start.tokensBefore := by
    rintro _ ⟨⟩
    exact Nat.le_add_left _ _
  refine ⟨⟨{ h.state with keyStart := some key }, h.earlier, .behind late h.apart.tail⟩, fun held => ?_⟩
  simp [Holding.around, key, inFlow]

theorem blind_dropStaleKeys : Blind dropStaleKeys := by
  rw [funext dropStaleKeys_eq]
  refine .ite (fun _ _ => rfl) .none (.some fun h => ?_)
  exact ⟨⟨{ h.state with
    keyStart := fresh h.state.cursor h.state.keyStart
    outerKeys := h.state.outerKeys.map (fresh h.state.cursor) }, h.earlier, h.apart.fresh h.state.cursor⟩,
    fun _ => rfl⟩

theorem blind_openFlow (token : Token) : Blind (openFlow · token) := by
  refine blind_rememberKey.bind (.some fun h => ?_)
  exact ⟨⟨{ h.state.take 1 token with
    keyStart := none, outerKeys := h.state.keyStart :: h.state.outerKeys, keyAllowed := true },
    h.earlier, h.apart.cons_none⟩, fun _ => rfl⟩

theorem blind_closeFlow (token : Token) : Blind (closeFlow · token) := by
  refine blind_dropKey.bind fun h => ?_
  cases outer : h.state.outerKeys with
  | nil =>
    refine ⟨some ⟨h.state.takeLast 1 token, h.earlier, h.apart⟩, fun held => ?_⟩
    have same : ((h.around held).takeLast 1 token).outerKeys = [] := outer
    simp only [same]
    rfl
  | cons key keys =>
    have apart : KeysApart h.earlier.length (key :: keys) := by
      rw [← outer]
      exact h.apart.tail
    refine ⟨some ⟨{ h.state.takeLast 1 token with keyStart := key, outerKeys := keys }, h.earlier, apart⟩,
      fun held => ?_⟩
    have same : ((h.around held).takeLast 1 token).outerKeys = key :: keys := outer
    simp only [same]
    rfl

/-- The tokens for a key never come between a value and the token that says so. -/
theorem exists_insert (h : Holding) {key : KeyStart} (begun : h.state.keyStart = some key) (token : Token) :
    ∃ h' : Holding, h'.state.keyStart = some key ∧
      ∀ held, (h.around held).insert key.tokensBefore token = h'.around held := by
  have around (held : Token) : (h.around held).insert key.tokensBefore token =
      { h.state with
        tokens := insertAt (h.state.tokens ++ [held, .value] ++ h.earlier) key.tokensBefore token } := by
    simp [Scanner.insert, insertAt, Holding.around]
  have apart := h.apart
  rw [begun] at apart
  -- a key from in front of the value moves it on, with all keys further out; one from behind leaves it where it is
  cases apart with
  | before all =>
    have early : key.tokensBefore ≤ h.earlier.length := all _ (List.mem_cons_self ..) key rfl
    refine ⟨⟨h.state, insertAt h.earlier key.tokensBefore token, ?_⟩, begun, fun held => ?_⟩
    · rw [begun, length_insertAt]
      exact .before fun other member start some => Nat.le_succ_of_le (all other member start some)
    · rw [around, insertAt_early early]
      simp [Holding.around]
  | behind late apart =>
    have late : h.earlier.length + 2 ≤ key.tokensBefore := late key rfl
    refine ⟨⟨{ h.state with
      tokens := insertAt h.state.tokens (key.tokensBefore - (h.earlier.length + 2)) token }, h.earlier, h.apart⟩,
      begun, fun held => ?_⟩
    have split : insertAt (h.state.tokens ++ held :: .value :: h.earlier) key.tokensBefore token =
        insertAt h.state.tokens (key.tokensBefore - (h.earlier.length + 2)) token ++ held :: .value :: h.earlier :=
      insertAt_late late token
    rw [around, List.append_assoc]
    exact congrArg (fun tokens => ({ h.state with tokens := tokens } : Scanner)) split

theorem exists_openBlock (h : Holding) {key : KeyStart} (begun : h.state.keyStart = some key) (column : Nat)
    (token : Token) : ∃ h' : Holding,
      ∀ held, (h.around held).openBlock column key.tokensBefore token = h'.around held := by
  obtain ⟨⟨state, earlier, apart⟩, -, inserted⟩ := exists_insert h begun token
  by_cases opens : !h.state.inFlow ∧ h.state.margin ≤ column
  · refine ⟨⟨{ state with blocks := column :: h.state.blocks }, earlier, apart⟩, fun held => ?_⟩
    have opens : !(h.around held).inFlow ∧ (h.around held).margin ≤ column := opens
    rw [openBlock, if_pos opens, inserted]
    rfl
  · exact ⟨h, fun held => if_neg opens⟩

theorem adds_takeLast (width : Nat) (token : Token) : Adds (takeLast · width token) :=
  adds_update (fun _ => [token]) fun _ _ => rfl

/-- A token behind which a key may begin, but for one between brackets. -/
theorem adds_takeAllowing (token : Token) : Adds fun s => { s.take 1 token with keyAllowed := !s.inFlow } :=
  adds_update (fun _ => [token]) fun _ _ => rfl

theorem blind_value : Blind value := by
  intro h
  cases begun : h.state.keyStart with
  | none =>
    have taking : Adds fun s => { (s.openBlock s.cursor.column s.tokens.length .blockMappingStart).take 1 .value with
        keyAllowed := !(s.openBlock s.cursor.column s.tokens.length .blockMappingStart).inFlow } :=
      .behind (adds_takeAllowing .value) (adds_openBlock_here _)
    have unkeyed : Blind fun s => if !s.inFlow ∧ !s.keyAllowed then none
        else some { (s.openBlock s.cursor.column s.tokens.length .blockMappingStart).take 1 .value with
          keyAllowed := !(s.openBlock s.cursor.column s.tokens.length .blockMappingStart).inFlow } :=
      .ite (fun _ _ => rfl) .none (.some taking)
    obtain ⟨h', same⟩ := unkeyed h
    refine ⟨h', fun held => ?_⟩
    have noKey : (h.around held).keyStart = none := begun
    simp only [value, noKey]
    exact same held
  | some key =>
    obtain ⟨h', begun', inserted⟩ := exists_insert h begun .key
    obtain ⟨h'', opened⟩ := exists_openBlock h' begun' key.start.column .blockMappingStart
    obtain ⟨last, took⟩ := adds_giveUp.behind (adds_takeLast 1 .value) h''
    refine ⟨some last, fun held => ?_⟩
    have keyed : (h.around held).keyStart = some key := begun
    simp only [value, keyed, inserted, opened]
    exact congrArg some (took held)

/-! ### Tokens -/

theorem blind_flowEntry : Blind flowEntry := by
  have taking : Adds fun s => { s.take 1 .flowEntry with keyAllowed := true } :=
    adds_update (fun _ => [.flowEntry]) fun _ _ => rfl
  exact blind_dropKey.bind (.some taking)

theorem blind_blockEntry : Blind blockEntry := by
  have taking : Adds fun s => { s.take 1 .blockEntry with keyAllowed := true } :=
    adds_update (fun _ => [.blockEntry]) fun _ _ => rfl
  exact .ite (fun _ _ => rfl) .none (.behind (blind_dropKey.bind (.some taking)) (adds_openBlock_here _))

theorem blind_explicitKey : Blind explicitKey := by
  have taking : Blind fun s => s.dropKey >>= fun t => some { t.take 1 .key with keyAllowed := !s.inFlow } := by
    have same : (fun s : Scanner => s.dropKey >>= fun t => some { t.take 1 .key with keyAllowed := !s.inFlow }) =
        fun s => s.dropKey >>= fun s => some { s.take 1 .key with keyAllowed := !s.inFlow } := by
      funext s
      unfold dropKey
      split <;> rfl
    rw [same]
    exact blind_dropKey.bind (.some (adds_takeAllowing .key))
  exact .ite (fun _ _ => rfl) .none (taking.behind (adds_openBlock_here _))

theorem blind_directiveLine : Blind directiveLine := by
  refine .behind (blind_dropKey.bind (.read (fun _ _ => rfl) fun read => .some ?_)) (adds_closeBlocks _)
  exact adds_update (fun _ => [.directive read.1]) fun _ _ => rfl

theorem blind_documentMark (token : Token) : Blind (documentMark · token) :=
  .behind (blind_dropKey.bind (.some (adds_takeLast 3 token))) (adds_closeBlocks _)

theorem blind_named (token : List Char → Token) : Blind (named · token) := by
  refine blind_rememberKey.bind (.read (fun _ _ => rfl) fun read => .some ?_)
  exact adds_update (fun _ => [token read.1]) fun _ _ => rfl

theorem blind_tag : Blind tag := by
  refine blind_rememberKey.bind (.read (fun _ _ => rfl) fun read => .some ?_)
  exact adds_update (fun _ => [.tag read.1]) fun _ _ => rfl

theorem blind_blockScalar (isLiteral : Bool) : Blind (blockScalar · isLiteral) := by
  refine blind_dropKey.bind (.read (fun _ _ => rfl) fun read => .some ?_)
  exact adds_update (fun _ => [.scalar (if isLiteral then .literal else .folded) read.1]) fun _ _ => rfl

theorem blind_quotedScalar (single : Bool) : Blind (quotedScalar · single) := by
  refine blind_rememberKey.bind (.read (fun _ _ => rfl) fun read => .some ?_)
  exact adds_update (fun _ => [.scalar (if single then .singleQuoted else .doubleQuoted) read.1]) fun _ _ => rfl

theorem blind_plainScalar : Blind plainScalar := by
  refine blind_rememberKey.bind (.read (fun _ _ => rfl) fun read => .some ?_)
  exact adds_update (fun _ => [.scalar .plain read.1]) fun _ _ => rfl

theorem blind_token (char : Char) : Blind (token · char) :=
  .ite (fun _ _ => rfl) blind_directiveLine <|
  .ite (fun _ _ => rfl) (blind_documentMark _) <|
  .ite (fun _ _ => rfl) (blind_documentMark _) <|
  .ite (fun _ _ => rfl) (blind_openFlow _) <|
  .ite (fun _ _ => rfl) (blind_openFlow _) <|
  .ite (fun _ _ => rfl) (blind_closeFlow _) <|
  .ite (fun _ _ => rfl) (blind_closeFlow _) <|
  .ite (fun _ _ => rfl) blind_flowEntry <|
  .ite (fun _ _ => rfl) blind_blockEntry <|
  .ite (fun _ _ => rfl) blind_explicitKey <|
  .ite (fun _ _ => rfl) blind_value <|
  .ite (fun _ _ => rfl) (blind_named _) <|
  .ite (fun _ _ => rfl) (blind_named _) <|
  .ite (fun _ _ => rfl) blind_tag <|
  .ite (fun _ _ => rfl) (blind_blockScalar _) <|
  .ite (fun _ _ => rfl) (blind_blockScalar _) <|
  .ite (fun _ _ => rfl) (blind_quotedScalar _) <|
  .ite (fun _ _ => rfl) (blind_quotedScalar _) <|
  .ite (fun _ _ => rfl) .none blind_plainScalar

/-! ### All tokens -/

/-- The same tokens are found around all values. -/
abbrev Surrounds : (Scanner → Option (List Token)) → Prop :=
  Alike (possibly fun (found : List Token × List Token) held => found.1 ++ .value :: held :: found.2)

theorem surrounds_tokens : Surrounds fun s => some s.tokens.reverse :=
  .some fun h => ⟨(h.earlier.reverse, h.state.tokens.reverse), fun held => by simp [Holding.around]⟩

theorem Surrounds.ahead {fuel : Nat} (surrounds : Surrounds (run fuel)) : Surrounds (ahead fuel) := by
  intro h
  cases next : h.state.cursor.peek with
  | none =>
    have ending : Surrounds fun s => (s.closeBlocks fun _ => true).dropKey >>= fun s => some s.tokens.reverse :=
      .behind (blind_dropKey.bind surrounds_tokens) (adds_closeBlocks _)
    obtain ⟨found, same⟩ := ending h
    refine ⟨found, fun held => ?_⟩
    have stands : (h.around held).cursor.peek = none := next
    rw [Scanner.ahead, stands]
    exact same held
  | some char =>
    have taking : Surrounds fun s => (s.closeBlocks (h.state.cursor.column < ·)).token char >>= run fuel :=
      .behind ((blind_token char).bind surrounds) (adds_closeBlocks _)
    obtain ⟨found, same⟩ := taking h
    refine ⟨found, fun held => ?_⟩
    have stands : (h.around held).cursor.peek = some char := next
    rw [Scanner.ahead, stands]
    exact same held

/-- From behind a value on the same tokens are found, whatever that value is. -/
theorem surrounds_run (fuel : Nat) : Surrounds (run fuel) := by
  induction fuel with
  | zero => exact .none
  | succ fuel ih =>
    rw [funext fun s => run_succ s fuel]
    intro h
    have passing : Blind fun s => (s.skipGaps (h.state.cursor.rest.length + 1)).dropStaleKeys :=
      blind_dropStaleKeys.behind (adds_skipGaps _)
    exact passing.bind ih.ahead h

/-! ### A value beside its key -/

/-- A value is about to begin here, on the line of its key or between brackets, so that it cannot be a key itself. -/
structure BesideKey (s : Scanner) : Prop where
  value : s.tokens.head? = some .value
  unkeyed : s.keyStart = none
  noKey : s.keyAllowed = false
  early : ∀ key ∈ s.outerKeys, ∀ start ∈ key, start.tokensBefore < s.tokens.length
  deep : s.inFlow = true ∨ ∀ column ∈ s.blocks.head?, column ≤ s.cursor.column

variable {s : Scanner}

/-- The place behind a text between double quotes depends on its size only. -/
theorem skip_quoted {c : Cursor} {text after : List Char} (rest : c.rest = '"' :: (text ++ '"' :: after)) :
    c.skip (text.length + 2) =
      ⟨after, c.offset + (byteCount text + 2), c.line, c.column + (text.length + 2)⟩ := by
  have split : c.rest = ('"' :: (text ++ ['"'])) ++ after := by simp [rest]
  have size : text.length + 2 = ('"' :: (text ++ ['"'])).length := by simp
  have bytes : byteCount ('"' :: (text ++ ['"'])) = byteCount text + 2 := by
    rw [byteCount, byteCount_append]
    exact Nat.add_comm 1 _
  rw [Cursor.skip, split, size, List.take_left, List.drop_left, bytes]

theorem BesideKey.token_quoted (here : s.BesideKey) {text after : List Char}
    (rest : s.cursor.rest = '"' :: (text ++ '"' :: after)) (inert : ∀ char ∈ text, isInert char = true) :
    (s.closeBlocks (s.cursor.column < ·)).token '"' = some { s with
      cursor := ⟨after, s.cursor.offset + (byteCount text + 2), s.cursor.line, s.cursor.column + (text.length + 2)⟩
      tokens := .scalar .doubleQuoted text :: s.tokens, keyAllowed := false } := by
  have stays : s.closeBlocks (s.cursor.column < ·) = s := by
    obtain flow | deep := here.deep
    · rw [closeBlocks, if_pos flow]
    · exact closeBlocks_of_le deep
  rw [stays, token_of_quote rest, quotedScalar, rememberKey, here.noKey, if_neg (by simp)]
  simp only [Option.bind_eq_bind, Option.bind_some, quoted_inert inert rest, skip_quoted rest]
  rfl

/-- The state with the keys that could still end here. -/
def refreshed (s : Scanner) : Scanner :=
  { s with keyStart := fresh s.cursor s.keyStart, outerKeys := s.outerKeys.map (fresh s.cursor) }

theorem BesideKey.refreshed (here : s.BesideKey) : s.refreshed.BesideKey where
  value := here.value
  unkeyed := by rw [Scanner.refreshed, here.unkeyed, fresh_none]
  noKey := here.noKey
  early := List.forall_mem_map.mpr fun key member start kept => here.early key member start (mem_of_mem_fresh kept)
  deep := by simpa [Scanner.refreshed, inFlow] using here.deep

theorem BesideKey.facing (here : s.BesideKey) (text : List Char) : (s.facing text).BesideKey :=
  ⟨here.value, here.unkeyed, here.noKey, here.early, here.deep⟩

/-- All texts of one size that stand for themselves have the same tokens around them. -/
theorem BesideKey.exists_found (here : s.BesideKey) (after : List Char) (length bytes fuel : Nat) :
    ∃ found : Option (List Token × List Token), ∀ text, (∀ char ∈ text, isInert char = true) →
      text.length = length → byteCount text = bytes →
        (s.facing ('"' :: (text ++ '"' :: after))).run (fuel + 1) =
          found.map fun found => found.1 ++ .value :: .scalar .doubleQuoted text :: found.2 := by
  have passing (text : List Char) : (s.facing text).dropStaleKeys =
      if (s.keyStart :: s.outerKeys).any fun key => key.any (isStale s.cursor) && key.any (·.required) then none
      else some (s.refreshed.facing text) := dropStaleKeys_eq (s.facing text)
  by_cases missed : (s.keyStart :: s.outerKeys).any fun key => key.any (isStale s.cursor) && key.any (·.required)
  · refine ⟨none, fun text inert _ _ => ?_⟩
    rw [run_succ, skipGaps_of_quote rfl, passing, if_pos missed]
    rfl
  · have here := here.refreshed
    obtain ⟨earlier, above⟩ := List.head?_eq_some_iff.mp here.value
    have outermost : ∀ key ∈ s.refreshed.keyStart :: s.refreshed.outerKeys, ∀ start ∈ key,
        start.tokensBefore ≤ earlier.length := by
      rw [here.unkeyed]
      refine List.forall_mem_cons.mpr ⟨by simp, fun key member start begun => Nat.le_of_lt_succ ?_⟩
      have early := here.early key member start begun
      rwa [above] at early
    -- behind the value only its size is left, so one state stands for all texts of that size
    let h : Holding := ⟨{ s.refreshed with
      cursor := ⟨after, s.cursor.offset + (bytes + 2), s.cursor.line, s.cursor.column + (length + 2)⟩
      tokens := [], keyAllowed := false }, earlier, .before outermost⟩
    obtain ⟨found, same⟩ := surrounds_run fuel h
    refine ⟨found, ?_⟩
    rintro text inert rfl rfl
    refine Eq.trans ?_ (same (.scalar .doubleQuoted text))
    rw [run_succ, skipGaps_of_quote rfl, passing, if_neg missed, Option.bind_some, ahead]
    have taken := (here.facing ('"' :: (text ++ '"' :: after))).token_quoted rfl inert
    simp only [Scanner.facing, peek, List.head?_cons] at taken ⊢
    rw [taken]
    simp only [above]
    rfl

end Scanner

/-- A text that begins so comes to the double quote of a value beside its key. -/
def LeadsBesideKey (before : List Char) : Prop := Reaches Scanner.BesideKey before

/-- The text is as long as the other, in characters and in bytes, and stands for itself. -/
structure Replaces (base text : List Char) : Prop where
  inert : ∀ char ∈ text, isInert char = true
  length : text.length = base.length
  bytes : byteCount text = byteCount base

/-- Beside a key, texts of the same size that stand for themselves give the same tokens but for their own. -/
theorem LeadsBesideKey.sameAround {before : List Char} (leads : LeadsBesideKey before) (after : List Char)
    {base : List Char} (stands : ∀ char ∈ base, isInert char = true) :
    SameAround before after base (Replaces base) := by
  obtain ⟨rounds, s, few, here, leads⟩ := leads
  obtain ⟨around, runs⟩ := here.exists_found after base.length (byteCount base)
    (before.length - rounds + after.length + base.length + 2)
  have scan (text : List Char) (replaces : Replaces base text) :
      (Scanner.ofChars (before ++ '"' :: (text ++ '"' :: after))).run
          ((before ++ '"' :: (text ++ '"' :: after)).length + 1) =
        around.map fun found => found.1 ++ .value :: .scalar .doubleQuoted text :: found.2 := by
    have total : (before ++ '"' :: (text ++ '"' :: after)).length + 1 =
        before.length - rounds + after.length + base.length + 2 + 1 + rounds := by
      simp only [List.length_append, List.length_cons, replaces.length]
      omega
    rw [total, leads, runs text replaces.inert replaces.length replaces.bytes]
  intro found scanned
  unfold tokens? at scanned
  split at scanned
  case isFalse => cases scanned
  case isTrue allowed =>
    rw [scan base ⟨stands, rfl, rfl⟩] at scanned
    obtain ⟨⟨earlier, later⟩, rfl, -⟩ := Option.map_eq_some_iff.mp scanned
    refine ⟨earlier, later, fun text replaces => ?_⟩
    rw [tokens?, if_pos (all_isAllowed_of_isInert allowed replaces.inert), scan text replaces]
    rfl

/-! ## Letters -/

/-- A letter, or any printable character beyond ASCII. -/
def isLetter (c : Char) : Bool := c.isAlpha || (isPrintable c && decide (0x80 ≤ c.toNat))

/-- One of two letters that take as many bytes as the character. -/
def standIn (other : Bool) (c : Char) : Char :=
  match c.utf8Size with
  | 1 => if other then 'b' else 'a'
  | 2 => if other then 'è' else 'é'
  | 3 => if other then '文' else '中'
  | _ => if other then '𐐁' else '𐐀'

theorem standIn_mem (other : Bool) (c : Char) :
    standIn other c ∈ ['a', 'b', 'é', 'è', '中', '文', '𐐀', '𐐁'] := by
  unfold standIn
  split <;> cases other <;> simp

theorem utf8Size_standIn (other : Bool) (c : Char) : (standIn other c).utf8Size = c.utf8Size := by
  unfold standIn
  split
  case h_1 size => cases other <;> exact size.symm
  case h_2 size => cases other <;> exact size.symm
  case h_3 size => cases other <;> exact size.symm
  case h_4 one two three =>
    have size : c.utf8Size = 4 := by
      have least := c.utf8Size_pos
      have most := c.utf8Size_le_four
      have others : c.utf8Size ≠ 1 ∧ c.utf8Size ≠ 2 ∧ c.utf8Size ≠ 3 := ⟨one, two, three⟩
      omega
    cases other <;> exact size.symm

theorem standIn_ne (c : Char) : standIn false c ≠ standIn true c := by
  unfold standIn
  split <;> decide

/-- A word of the same size as the text, one of two. -/
def standsFor (other : Bool) (text : List Char) : List Char := text.map (standIn other)

theorem mem_of_mem_standsFor {other : Bool} {text : List Char} {char : Char} (member : char ∈ standsFor other text) :
    char ∈ ['a', 'b', 'é', 'è', '中', '文', '𐐀', '𐐁'] := by
  obtain ⟨replaced, -, rfl⟩ := List.mem_map.mp member
  exact standIn_mem other replaced

theorem isInert_of_mem_standsFor {other : Bool} {text : List Char} :
    ∀ char ∈ standsFor other text, isInert char = true :=
  fun _ member => List.all_eq_true.mp (by decide) _ (mem_of_mem_standsFor member)

theorem isLetter_of_mem_standsFor {other : Bool} {text : List Char} :
    ∀ char ∈ standsFor other text, isLetter char = true :=
  fun _ member => List.all_eq_true.mp (by decide) _ (mem_of_mem_standsFor member)

theorem byteCount_standsFor (other : Bool) (text : List Char) : byteCount (standsFor other text) = byteCount text := by
  induction text with
  | nil => rfl
  | cons char text ih => exact congrArg₂ (· + ·) (utf8Size_standIn other char) ih

theorem standsFor_ne {text : List Char} (ne_nil : text ≠ []) : standsFor false text ≠ standsFor true text := by
  obtain ⟨char, more, rfl⟩ := List.exists_cons_of_ne_nil ne_nil
  exact fun same => standIn_ne char (List.cons.inj same).1

/-- For each other text of that size the word may stand as well. -/
theorem replaces_standsFor (other : Bool) {text same : List Char} (inert : ∀ char ∈ same, isInert char = true)
    (length : same.length = text.length) (bytes : byteCount same = byteCount text) :
    Replaces (standsFor other text) same :=
  ⟨inert, length.trans (List.length_map _).symm, bytes.trans (byteCount_standsFor other text).symm⟩

end BearerAuth.Yaml
