import BearerAuth.Proofs.Yaml.Lines
import BearerAuth.Proofs.Yaml.Removal

/-! # Lines that are entries

A line of a block may hold one entry and nothing else. Without such a line the tokens are the same but for those of the
entry, and but for the block itself where the entry is alone in it.
-/

namespace BearerAuth.Yaml

open Cursor

namespace Scanner

/-- The tokens are found from here on, in some number of rounds. -/
def Finds (s : Scanner) (found : List Token) : Prop := ∃ fuel, s.run fuel = some found

variable {c : Cursor} {tokens : List Token} {blocks : List Nat} {word after : List Char} {e : Entry} {margin : Nat}
  {below : List Char} {found found' : List Token}

/-! ## Cuts -/

theorem follows_behindKey {fuel : Nat} {found : List Token}
    (ran : (behindKey word c [] blocks).run fuel = some found) : Follows found := by
  have placed : behindKey word c [] blocks =
      (⟨c.skip (word.length + 1), [], blocks, none, [], false⟩ : Scanner).placed
        [.value, .scalar .plain word, .key] ⟨0, 0⟩ := by
    simp [behindKey, Scanner.placed, moved]
  rw [placed, run_placed] at ran
  obtain ⟨later, -, rfl⟩ := Option.map_eq_some_iff.mp ran
  exact .inl rfl

theorem Finds.both {s t : Scanner} {found found' : List Token} (finds : s.Finds found) (finds' : t.Finds found') :
    ∃ fuel, s.run (fuel + 2) = some found ∧ t.run (fuel + 2) = some found' := by
  obtain ⟨fuel, ran⟩ := finds
  obtain ⟨fuel', ran'⟩ := finds'
  refine ⟨fuel + fuel', ?_, ?_⟩
  · simpa [Nat.add_assoc] using s.run_add ran (fuel' + 2)
  · simpa [Nat.add_assoc, Nat.add_comm, Nat.add_left_comm] using t.run_add ran' (fuel + 2)

/-- In a block that is open already. -/
theorem cut_among {deeper outer : List Nat} (deep : ∀ column ∈ deeper, margin < column)
    (leaves : Leaves margin below)
    (finds : (ready (Cursor.ofChars below) (e.tokens.reverse ++ (closings deeper ++ tokens))
      (margin :: outer)).Finds found)
    (finds' : (ready (Cursor.ofChars below) tokens (deeper ++ margin :: outer)).Finds found') : Cut e found found' := by
  obtain ⟨fuel, ran, ran'⟩ := finds.both finds'
  rw [run_ready] at ran ran'
  unfold Leaves at leaves
  generalize onset below = d at leaves ran ran'
  obtain ⟨later, ahead, rfl⟩ := Option.map_eq_some_iff.mp ran
  obtain ⟨later', ahead', rfl⟩ := Option.map_eq_some_iff.mp ran'
  -- both find the same behind the ends of the deeper blocks
  suffices same : later' = closings deeper ++ later ∧ Follows later by
    obtain ⟨rfl, next⟩ := same
    simpa [reverse_closings] using ((Cut.entry next).append (closings deeper)).append tokens.reverse
  obtain ended | further | ⟨rfl, word, after, key⟩ := leaves
  · rw [ahead_of_nil ended] at ahead ahead'
    cases ahead
    cases ahead'
    exact ⟨closings_append _ _, .inr rfl⟩
  · have all : ∀ column ∈ deeper, decide (d.column < column) = true := fun column member =>
      decide_eq_true (Nat.lt_trans further (deep column member))
    rw [ahead_closings, List.takeWhile_cons_of_pos (by simpa using further),
      List.dropWhile_cons_of_pos (by simpa using further)] at ahead
    rw [ahead_closings, List.takeWhile_append_of_pos all, List.dropWhile_append_of_pos all,
      List.takeWhile_cons_of_pos (by simpa using further),
      List.dropWhile_cons_of_pos (by simpa using further)] at ahead'
    obtain ⟨beyond, found, rfl⟩ := Option.map_eq_some_iff.mp ahead
    rw [found, Option.map_some, Option.some.injEq] at ahead'
    exact ⟨by rw [← ahead', closings_append, List.append_assoc], .inr rfl⟩
  · rw [ahead_closings, takeWhile_among deep, dropWhile_among deep, ahead, Option.map_some, Option.some.injEq]
      at ahead'
    rw [ahead_key key (by simp), keyed_same rfl] at ahead
    exact ⟨ahead'.symm, follows_behindKey ahead⟩

/-- In a block that the entry opens. -/
theorem cut_alone {base : List Token} (deeper : ∀ column ∈ blocks.head?, column < margin)
    (leaves : Leaves margin below)
    (opens : tokens = .value :: .scalar .plain e.parent :: .key :: base)
    (finds : (ready (Cursor.ofChars below) (e.tokens.reverse ++ .blockMappingStart :: tokens)
      (margin :: blocks)).Finds found)
    (finds' : (ready (Cursor.ofChars below) tokens blocks).Finds found') : Cut e found found' := by
  obtain ⟨fuel, ran, ran'⟩ := finds.both finds'
  rw [run_ready] at ran ran'
  unfold Leaves at leaves
  generalize onset below = d at leaves ran ran'
  obtain ⟨later, ahead, rfl⟩ := Option.map_eq_some_iff.mp ran
  obtain ⟨later', ahead', rfl⟩ := Option.map_eq_some_iff.mp ran'
  subst opens
  -- the block ends behind the entry, or goes on and is opened by the next key
  suffices same : later = .blockEnd :: later' ∨ later' = .blockMappingStart :: later ∧ Follows later by
    obtain rfl | ⟨rfl, next⟩ := same
    · simpa [Entry.section, Entry.tokens_append] using (Cut.alone (e := e) later').append base.reverse
    · simpa using ((Cut.entry (e := e) next).append
        [.key, .scalar .plain e.parent, .value, .blockMappingStart]).append base.reverse
  obtain ended | further | ⟨rfl, word, after, key⟩ := leaves
  · rw [ahead_of_nil ended] at ahead ahead'
    cases ahead
    cases ahead'
    exact .inl rfl
  · rw [ahead_closings, List.takeWhile_cons_of_pos (by simpa using further),
      List.dropWhile_cons_of_pos (by simpa using further)] at ahead
    rw [ahead_closings] at ahead'
    obtain ⟨beyond, found, rfl⟩ := Option.map_eq_some_iff.mp ahead
    rw [found, Option.map_some, Option.some.injEq] at ahead'
    exact .inl (ahead' ▸ rfl)
  · rw [ahead_key key (by simp), keyed_same rfl] at ahead
    rw [ahead_key key fun column member => Nat.le_of_lt (deeper column member), keyed_deeper deeper,
      run_behindKey, ahead, Option.map_some, Option.some.injEq] at ahead'
    exact .inr ⟨ahead'.symm, follows_behindKey ahead⟩

/-- Behind a key the value of the entry is found, and the next line begins with the entry taken. -/
theorem run_behindKey_entry {c : Cursor} {gap trail below : List Char}
    (rest : c.rest = e.key ++ ':' :: (gap ++ '"' :: (e.text ++ '"' :: trail)))
    (blank : ∀ char ∈ gap, isBlank char = true) (inert : ∀ char ∈ e.text, isInert char = true)
    (ended : EndsBefore trail below) (fuel : Nat) :
    (behindKey e.key c tokens (c.column :: blocks)).run (fuel + 2) =
      (ready (Cursor.ofChars below) (e.tokens.reverse ++ tokens) (c.column :: blocks)).run (fuel + 1) := by
  have here := atValue_behindGap e.key gap c tokens blocks
  obtain ⟨u, same, past⟩ := here.run_quoted (rest_behindGap rest) inert ended.endsLine (fuel + 1)
  have inBlock : u.outerKeys = [] := List.length_eq_zero_iff.mp past.depth
  have below := past.toClosing.run_below inBlock past.keyAllowed (past.rest ▸ ended) fuel
  rw [past.tokens, past.blocks] at below
  rw [run_behindKey_gap rest blank, same, below]
  rfl

end Scanner

/-! ## Texts with such a line -/

/-- The line of an entry, with blanks up to the margin and behind the colon. -/
def Entry.line (e : Entry) (margin : Nat) (gap trail : List Char) : List Char :=
  keyLine margin e.key (gap ++ '"' :: (e.text ++ '"' :: trail))

/-- The key is a word, and the text stands for itself. -/
structure Entry.Plain (e : Entry) : Prop where
  isWord : IsWord e.key
  inert : ∀ char ∈ e.text, isInert char = true

/-- An entry at the margin goes on with a block that is open, or opens the block of its parent. -/
def Takes (parent : List Char) (margin : Nat) (tokens : List Token) (blocks : List Nat) : Prop :=
  (∃ deeper outer, blocks = deeper ++ margin :: outer ∧ ∀ column ∈ deeper, margin < column) ∨
    (∀ column ∈ blocks.head?, column < margin) ∧
      ∃ base, tokens = .value :: .scalar .plain parent :: .key :: base

/-- A text that begins so comes to an entry at the margin in a block that takes it. -/
def LeadsToEntry (parent : List Char) (margin : Nat) (before : List Char) : Prop :=
  ∃ tokens blocks, Takes parent margin tokens blocks ∧ LeadsTo margin tokens blocks before

section

variable {margin column : Nat} {tokens : List Token} {blocks : List Nat} {before : List Char}

theorem LeadsTo.finds (leads : LeadsTo margin tokens blocks before) {rest : List Char}
    (leaves : Leaves margin rest) {found : List Token} (scanned : tokens? (before ++ rest) = some found) :
    (Scanner.ready (Cursor.ofChars rest) tokens blocks).Finds found := by
  obtain ⟨rounds, -, leads⟩ := leads
  unfold tokens? at scanned
  split at scanned
  · exact ⟨_, (leads rest leaves _).symm.trans (Scanner.run_add _ scanned rounds)⟩
  · cases scanned

/-- Deeper than a key alone on its line its block may begin. -/
theorem LeadsTo.leadsToEntry (leads : LeadsTo margin tokens blocks before) {parent : List Char} (is : IsWord parent)
    (out : column ≤ margin) {margin' : Nat} (deeper : column < margin') :
    LeadsToEntry parent margin' (before ++ Yaml.keyLine column parent ['\n']) :=
  ⟨_, _, .inr ⟨by rintro _ ⟨⟩; exact deeper, _, rfl⟩, leads.keyLine is out margin'⟩

variable {e : Entry} {gap trail below : List Char} (ne_nil : gap ≠ []) (blank : ∀ char ∈ gap, isBlank char = true)
  (plain : e.Plain)

include ne_nil blank plain

theorem Entry.Plain.leaves_line (out : column ≤ margin) (trail : List Char) :
    Leaves margin (e.line column gap trail) :=
  plain.isWord.leaves_keyLine (gap_line ne_nil blank _) out

/-- The line of an entry adds the tokens of the entry to its block. -/
theorem Entry.Plain.run_line (ended : EndsBefore trail below) (fuel : Nat) :
    (Scanner.ready (Cursor.ofChars (e.line margin gap trail)) tokens blocks).run (fuel + 1 + 3) =
      (Scanner.ready (Cursor.ofChars below) (e.tokens.reverse ++ Scanner.opened margin tokens blocks)
        (margin :: Scanner.outside margin blocks)).run (fuel + 1) := by
  have gap := gap_line ne_nil blank ('"' :: (e.text ++ '"' :: trail))
  have key := (plain.isWord.onset_keyLine gap margin).2
  rw [Entry.line, Scanner.run_keyed key (fuel + 2), Scanner.run_behindKey_entry key.rest blank plain.inert ended,
    plain.isWord.column_keyLine gap]

/-- An entry may stand on a line further out, too. -/
theorem LeadsTo.entryLine (leads : LeadsTo margin tokens blocks before) (out : column ≤ margin)
    (ended : ∀ rest, EndsBefore (trail ++ rest) rest) (margin' : Nat) :
    LeadsTo margin' (e.tokens.reverse ++ Scanner.opened column tokens blocks)
      (column :: Scanner.outside column blocks) (before ++ e.line column gap trail) := by
  have parts (rest : List Char) : e.line column gap trail ++ rest = e.line column gap (trail ++ rest) := by
    simp [Entry.line, Yaml.keyLine]
  have few : 3 ≤ (e.line column gap trail).length := by
    simp only [Entry.line, Yaml.keyLine, List.length_append, List.length_cons]
    omega
  refine leads.line few (fun rest => parts rest ▸ plain.leaves_line ne_nil blank out _) (fun rest fuel => ?_) margin'
  rw [parts, plain.run_line ne_nil blank (ended rest)]

/-- Without a line that holds an entry, the tokens of the text are the same but for those of the entry. -/
theorem LeadsToEntry.cut (leads : LeadsToEntry e.parent margin before) (ended : EndsBefore trail below)
    (leaves : Leaves margin below) {full less : List Token}
    (scanned : tokens? (before ++ e.line margin gap trail) = some full)
    (scanned' : tokens? (before ++ below) = some less) : Cut e full less := by
  obtain ⟨tokens, blocks, takes, leads⟩ := leads
  obtain ⟨fuel, ran⟩ := leads.finds (plain.leaves_line ne_nil blank (Nat.le_refl margin) trail) scanned
  have finds := leads.finds leaves scanned'
  have full : (Scanner.ready (Cursor.ofChars below) (e.tokens.reverse ++ Scanner.opened margin tokens blocks)
      (margin :: Scanner.outside margin blocks)).Finds full :=
    ⟨_, (plain.run_line ne_nil blank ended fuel).symm.trans (Scanner.run_add _ ran 4)⟩
  obtain ⟨deeper, outer, rfl, deep⟩ | ⟨shallow, base, rfl⟩ := takes
  · rw [Scanner.opened_among deep, Scanner.outside_among deep] at full
    exact Scanner.cut_among deep leaves full finds
  · rw [Scanner.opened_alone shallow, Scanner.outside_alone shallow] at full
    exact Scanner.cut_alone shallow leaves rfl full finds

end

end BearerAuth.Yaml
