import BearerAuth.Proofs.Yaml.Keys
import BearerAuth.Proofs.Yaml.QuotedValue
import Mathlib.Data.List.Basic

/-! # Texts line by line

Where a line begins in a block, no more is known of what was before it than its tokens and the blocks that are open. A
key there ends the deeper blocks and may open one, and behind it there may be the next line or a value.
-/

namespace BearerAuth.Yaml

open Cursor

/-! ## The end of a line -/

/-- What is left of a text behind blanks and a comment. -/
def pastComment (text : List Char) : List Char :=
  let text := text.dropWhile isBlank
  if text.head? = some '#' then text.dropWhile (!isBreak ·) else text

/-- Nothing is left of a line but a comment, and with the next line that text begins. -/
def EndsBefore (text below : List Char) : Prop :=
  pastComment text = '\n' :: below ∨ pastComment text = '\r' :: '\n' :: below ∨ pastComment text = [] ∧ below = []

theorem EndsBefore.endsLine {text below : List Char} (ended : EndsBefore text below) : EndsLine text := by
  rw [← endsLine_drop_iff (p := isBlank) fun char blank => by simp [isClosing, blank]]
  simp only [EndsBefore, pastComment] at ended
  split at ended
  case isTrue comment =>
    obtain ⟨more, text⟩ := List.head?_eq_some_iff.mp comment
    simp [EndsLine, text, isClosing, isBlank]
  case isFalse =>
    obtain text | text | ⟨text, -⟩ := ended <;> simp [EndsLine, text, isClosing, isBlank, isBreak]

namespace Scanner

/-! ## Where an entry may begin -/

/-- A place in a block where an entry may begin. -/
def ready (c : Cursor) (tokens : List Token) (blocks : List Nat) : Scanner := ⟨c, tokens, blocks, none, [], true⟩

/-- The place behind all gaps. -/
def past (fuel : Nat) (c : Cursor) : Cursor := ((ready c [] []).skipGaps fuel).cursor

variable {c : Cursor} {tokens : List Token} {blocks : List Nat}

theorem pastBlanks_ready (c : Cursor) (tokens : List Token) (blocks : List Nat) :
    (ready c tokens blocks).pastBlanks = (ready c [] []).pastBlanks := rfl

theorem past_succ (fuel : Nat) (c : Cursor) : past (fuel + 1) c =
    if (ready c [] []).pastBlanks.atBreak then past fuel (ready c [] []).pastBlanks.takeBreak.2
    else (ready c [] []).pastBlanks := by
  rw [past, skipGaps_succ]
  split <;> rfl

theorem skipGaps_ready (fuel : Nat) (c : Cursor) (tokens : List Token) (blocks : List Nat) :
    (ready c tokens blocks).skipGaps fuel = ready (past fuel c) tokens blocks := by
  induction fuel generalizing c with
  | zero => rfl
  | succ fuel ih =>
    rw [skipGaps_succ, pastBlanks_ready, past_succ]
    split
    · exact ih _
    · rfl

theorem length_pastBlanks (s : Scanner) : s.pastBlanks.rest.length ≤ s.cursor.rest.length := by
  simp only [pastBlanks, skipWhile, takeWhile, Cursor.skip]
  split <;> split <;> simp only [List.length_drop] <;> omega

theorem length_takeBreak {c : Cursor} (broken : c.atBreak = true) :
    c.takeBreak.2.rest.length < c.rest.length := by
  obtain ⟨text, offset, line, column⟩ := c
  cases text with
  | nil => cases broken
  | cons char text =>
    have breaks : isBreak char = true := by simpa [atBreak, peek] using broken
    simp only [takeBreak]
    split
    case h_1 rest same =>
      cases same
      simp only [List.length_cons]
      omega
    case h_2 first rest _ same =>
      cases same
      rw [if_pos breaks]
      exact Nat.lt_succ_self _
    case h_3 empty => cases empty

/-- As many rounds as there are characters are enough for all gaps. -/
theorem past_of_lt {fuel : Nat} {c : Cursor} (enough : c.rest.length < fuel) :
    past fuel c = past (c.rest.length + 1) c := by
  induction fuel using Nat.strongRecOn generalizing c with
  | ind fuel ih =>
    obtain ⟨fuel, rfl⟩ := Nat.exists_eq_add_one.mpr (Nat.lt_of_le_of_lt (Nat.zero_le _) enough)
    rw [past_succ, past_succ]
    split
    · rename_i broken
      have fewer := Nat.lt_of_lt_of_le (length_takeBreak broken) (length_pastBlanks (ready c [] []))
      have few : (ready c [] []).pastBlanks.takeBreak.2.rest.length < fuel :=
        Nat.lt_of_lt_of_le fewer (Nat.le_of_lt_succ enough)
      rw [ih fuel (Nat.lt_succ_self fuel) few, ih c.rest.length enough fewer]
    · rfl

theorem dropStaleKeys_ready (c : Cursor) (tokens : List Token) (blocks : List Nat) :
    (ready c tokens blocks).dropStaleKeys = some (ready c tokens blocks) := rfl

/-- The place where a text begins, behind all gaps. -/
def onset (text : List Char) : Cursor := past (text.length + 1) (Cursor.ofChars text)

/-- What is found in a text does not depend on how much text and which tokens were before it. -/
theorem run_ready_moved (n : Shift) (fuel : Nat) (text : List Char) (tokens : List Token) (blocks : List Nat) :
    (ready ((Cursor.ofChars text).moved n) tokens blocks).run (fuel + 1) =
      ((ready (onset text) [] blocks).ahead fuel).map (tokens.reverse ++ ·) := by
  have placed : ready ((Cursor.ofChars text).moved n) tokens blocks =
    (ready (Cursor.ofChars text) [] blocks).placed tokens n := rfl
  rw [placed, run_succ, skipGaps_placed, dropStaleKeys_placed, cursor_placed, rest_moved, skipGaps_ready,
    dropStaleKeys_ready, Option.map_some, Option.bind_some, ahead_placed]
  rfl

theorem run_ready (fuel : Nat) (text : List Char) (tokens : List Token) (blocks : List Nat) :
    (ready (Cursor.ofChars text) tokens blocks).run (fuel + 1) =
      ((ready (onset text) [] blocks).ahead fuel).map (tokens.reverse ++ ·) :=
  run_ready_moved ⟨0, 0⟩ fuel text tokens blocks

/-- The tokens for the ends of these blocks. -/
def closings (blocks : List Nat) : List Token := List.replicate blocks.length .blockEnd

theorem closings_append (blocks more : List Nat) : closings (blocks ++ more) = closings blocks ++ closings more := by
  simp [closings]

theorem reverse_closings (blocks : List Nat) : (closings blocks).reverse = closings blocks :=
  List.reverse_replicate ..

/-- At the end of the text all blocks are closed. -/
theorem ahead_of_nil (ended : c.rest = []) (fuel : Nat) (blocks : List Nat) :
    (ready c [] blocks).ahead fuel = some (closings blocks) := by
  have none : (ready c [] blocks).cursor.peek = none := congrArg List.head? ended
  have loose : (ready c [] blocks).Loose := ⟨by simp [ready], by simp [ready]⟩
  rw [loose.ahead_of_end none]
  simp [ready, inFlow, closings, List.map_const']

/-- Behind the ends of deeper blocks the innermost one is no deeper. -/
theorem le_of_mem_dropWhile (blocks : List Nat) (margin : Nat) :
    ∀ column ∈ (blocks.dropWhile (margin < ·)).head?, column ≤ margin := by
  intro column first
  have stops := blocks.head?_dropWhile_not (margin < ·)
  simpa [Option.mem_def.mp first] using stops

/-- The deeper blocks are closed first. -/
theorem ahead_closings (fuel : Nat) (c : Cursor) (blocks : List Nat) : (ready c [] blocks).ahead fuel =
    ((ready c [] (blocks.dropWhile (c.column < ·))).ahead fuel).map
      (closings (blocks.takeWhile (c.column < ·)) ++ ·) := by
  have closed : (ready c [] blocks).closeBlocks (c.column < ·) =
      (ready c [] (blocks.dropWhile (c.column < ·))).placed (closings (blocks.takeWhile (c.column < ·))) ⟨0, 0⟩ := by
    simp [closeBlocks, ready, placed, moved, inFlow, closings, List.map_const']
  have deep := le_of_mem_dropWhile blocks c.column
  cases next : c.rest with
  | nil =>
    rw [ahead_of_nil next, ahead_of_nil next, Option.map_some, ← closings_append, List.takeWhile_append_dropWhile]
  | cons char text =>
    have peek (blocks : List Nat) : (ready c [] blocks).cursor.peek = some char := congrArg List.head? next
    have stays := closeBlocks_of_le (s := ready c [] (blocks.dropWhile (c.column < ·))) deep
    have shown (blocks : List Nat) : (ready c [] blocks).ahead fuel =
        ((ready c [] blocks).closeBlocks (c.column < ·)).token char >>= run fuel := by
      simp only [ahead, peek]
      rfl
    rw [shown, shown, closed, token_placed]
    replace stays : (ready c [] (blocks.dropWhile (c.column < ·))).closeBlocks (c.column < ·) =
      ready c [] (blocks.dropWhile (c.column < ·)) := stays
    rw [stays]
    cases (ready c [] (blocks.dropWhile (c.column < ·))).token char with
    | none => rfl
    | some t => simpa [reverse_closings] using run_placed ⟨0, 0⟩ (closings (blocks.takeWhile (c.column < ·))) t fuel

/-! ## Keys -/

/-- The place behind a key. -/
def behindKey (word : List Char) (c : Cursor) (tokens : List Token) (blocks : List Nat) : Scanner :=
  ⟨c.skip (word.length + 1), .value :: .scalar .plain word :: .key :: tokens, blocks, none, [], false⟩

variable {word after : List Char}

theorem keyed_same (same : blocks.head? = some c.column) :
    (ready c tokens blocks).keyed word = behindKey word c tokens blocks := by
  obtain ⟨outer, rfl⟩ := List.head?_eq_some_iff.mp same
  have level : ¬c.column + 1 ≤ c.column := Nat.not_succ_le_self _
  simp [keyed, openBlock, ready, margin, inFlow, behindKey, level]

theorem keyed_deeper (deeper : ∀ column ∈ blocks.head?, column < c.column) :
    (ready c tokens blocks).keyed word =
      behindKey word c (.blockMappingStart :: tokens) (c.column :: blocks) := by
  cases blocks with
  | nil => simp [keyed, openBlock, insert, ready, margin, inFlow, behindKey]
  | cons column blocks =>
    have opens : column + 1 ≤ c.column := deeper column rfl
    simp [keyed, openBlock, insert, ready, margin, inFlow, behindKey, opens]

theorem run_behindKey (fuel : Nat) : (behindKey word c tokens blocks).run fuel =
    ((behindKey word c [] blocks).run fuel).map (tokens.reverse ++ ·) := by
  have placed : behindKey word c tokens blocks = (behindKey word c [] blocks).placed tokens ⟨0, 0⟩ := by
    simp [behindKey, Scanner.placed, moved]
  rw [placed, run_placed]

/-- A key takes two rounds. -/
theorem ahead_key (key : c.AtKey word after) (deep : ∀ column ∈ blocks.head?, column ≤ c.column) (fuel : Nat) :
    (ready c tokens blocks).ahead (fuel + 1) = ((ready c tokens blocks).keyed word).run fuel := by
  have entry : (ready c tokens blocks).AtEntry := ⟨rfl, rfl, rfl, deep⟩
  obtain ⟨char, more, rfl⟩ := List.exists_cons_of_ne_nil key.ne_nil
  have next : char ∈ (ready c tokens blocks).cursor.peek := congrArg List.head? key.rest
  have solid := isSolid_of_isWordChar (key.letters char (List.mem_cons_self ..))
  rw [← entry.run_key key, run_succ, skipGaps_of_solid next solid, dropStaleKeys_ready, Option.bind_some]

/-! ## Blocks around a key -/

/-- The tokens before a key in some column: deeper blocks end, and a block begins there if none is open. -/
def opened (column : Nat) (tokens : List Token) (blocks : List Nat) : List Token :=
  let tokens := closings (blocks.takeWhile (column < ·)) ++ tokens
  if (blocks.dropWhile (column < ·)).head? = some column then tokens else .blockMappingStart :: tokens

/-- The blocks around the one that a key in some column stands in. -/
def outside (column : Nat) (blocks : List Nat) : List Nat :=
  let blocks := blocks.dropWhile (column < ·)
  if blocks.head? = some column then blocks.tail else blocks

section

variable {margin : Nat} {deeper outer : List Nat} (deep : ∀ column ∈ deeper, margin < column)

include deep

theorem takeWhile_among : (deeper ++ margin :: outer).takeWhile (margin < ·) = deeper := by
  rw [List.takeWhile_append_of_pos fun column member => decide_eq_true (deep column member),
    List.takeWhile_cons_of_neg (by simp), List.append_nil]

theorem dropWhile_among : (deeper ++ margin :: outer).dropWhile (margin < ·) = margin :: outer := by
  rw [List.dropWhile_append_of_pos fun column member => decide_eq_true (deep column member),
    List.dropWhile_cons_of_neg (by simp)]

theorem opened_among (tokens : List Token) :
    opened margin tokens (deeper ++ margin :: outer) = closings deeper ++ tokens := by
  rw [opened, takeWhile_among deep, dropWhile_among deep]
  exact if_pos rfl

theorem outside_among : outside margin (deeper ++ margin :: outer) = outer := by
  rw [outside, dropWhile_among deep]
  exact if_pos rfl

end

section

variable {margin : Nat} (shallow : ∀ column ∈ blocks.head?, column < margin)

include shallow

theorem takeWhile_alone : blocks.takeWhile (margin < ·) = [] := by
  cases blocks with
  | nil => rfl
  | cons column blocks => exact List.takeWhile_cons_of_neg (by simpa using Nat.le_of_lt (shallow column rfl))

theorem dropWhile_alone : blocks.dropWhile (margin < ·) = blocks := by
  cases blocks with
  | nil => rfl
  | cons column blocks => exact List.dropWhile_cons_of_neg (by simpa using Nat.le_of_lt (shallow column rfl))

theorem opened_alone (tokens : List Token) : opened margin tokens blocks = .blockMappingStart :: tokens := by
  rw [opened, takeWhile_alone shallow, dropWhile_alone shallow]
  exact if_neg fun same => Nat.lt_irrefl _ (shallow _ same)

theorem outside_alone : outside margin blocks = blocks := by
  rw [outside, dropWhile_alone shallow]
  exact if_neg fun same => Nat.lt_irrefl _ (shallow _ same)

end

theorem keyed_closings (c : Cursor) (tokens : List Token) (blocks : List Nat) :
    (ready c (closings (blocks.takeWhile (c.column < ·)) ++ tokens) (blocks.dropWhile (c.column < ·))).keyed word =
      behindKey word c (opened c.column tokens blocks) (c.column :: outside c.column blocks) := by
  have deep := le_of_mem_dropWhile blocks c.column
  unfold opened outside
  generalize closings (blocks.takeWhile (c.column < ·)) ++ tokens = tokens
  generalize blocks.dropWhile (c.column < ·) = blocks at deep ⊢
  by_cases same : blocks.head? = some c.column
  · obtain ⟨outer, rfl⟩ := List.head?_eq_some_iff.mp same
    rw [keyed_same same]
    simp
  · have deeper : ∀ column ∈ blocks.head?, column < c.column := fun column first =>
      Nat.lt_of_le_of_ne (deep column first) fun equal => same (equal ▸ first)
    rw [keyed_deeper deeper]
    simp [same]

/-- Past blanks and the ends of deeper blocks a key is taken. -/
theorem run_keyed {text : List Char} (key : (onset text).AtKey word after) (fuel : Nat) :
    (ready (Cursor.ofChars text) tokens blocks).run (fuel + 2) =
      (behindKey word (onset text) (opened (onset text).column tokens blocks)
        ((onset text).column :: outside (onset text).column blocks)).run fuel := by
  rw [run_ready]
  generalize onset text = d at key ⊢
  have deep := le_of_mem_dropWhile blocks d.column
  have placed (tokens : List Token) (blocks : List Nat) :
      ready d tokens blocks = (ready d [] blocks).placed tokens ⟨0, 0⟩ := by
    simp [ready, Scanner.placed, moved]
  rw [← keyed_closings, ← ahead_key key deep, placed (_ ++ _), ahead_placed, List.reverse_append, reverse_closings,
    ahead_closings, Option.map_map]
  simp [Function.comp_def]

/-! ## Behind the line -/

theorem rest_pastBlanks {t : Scanner} (within : t.Within) (noKey : t.keyAllowed = false) :
    t.pastBlanks.rest = pastComment t.cursor.rest := by
  have blank : (fun char : Char => decide (char = ' ') || (t.inFlow || !t.keyAllowed) && decide (char = '\t')) =
      isBlank := by
    funext char
    simp [noKey, isBlank]
  rw [within.pastBlanks, blank]
  simp only [isAt, peek, rest_skipWhile, pastComment, decide_eq_true_eq, apply_ite Cursor.rest]

theorem takeBreak_of_rest {c : Cursor} {below : List Char}
    (rest : c.rest = '\n' :: below ∨ c.rest = '\r' :: '\n' :: below) :
    c.atBreak = true ∧ ∃ bytes, c.takeBreak.2 = (Cursor.ofChars below).moved ⟨bytes, c.line + 1⟩ := by
  obtain ⟨text, offset, line, column⟩ := c
  obtain rfl | rfl := rest
  · exact ⟨rfl, offset + 1, rfl⟩
  · exact ⟨rfl, offset + 2, rfl⟩

/-- Behind the line a key may begin. -/
theorem Closing.run_below {t : Scanner} (closing : t.Closing) (inBlock : t.outerKeys = [])
    (noKey : t.keyAllowed = false) {below : List Char} (ends : EndsBefore t.cursor.rest below) (fuel : Nat) :
    t.run (fuel + 1) = (ready (Cursor.ofChars below) t.tokens t.blocks).run (fuel + 1) := by
  have rest := rest_pastBlanks closing.toWithin noKey
  have flow : t.inFlow = false := by simp [inFlow, inBlock]
  rw [EndsBefore, ← rest, ← or_assoc] at ends
  obtain broken | ⟨ended, rfl⟩ := ends
  · obtain ⟨atBreak, bytes, next⟩ := takeBreak_of_rest broken
    have beyond : t.cursor.line < t.pastBlanks.takeBreak.2.line := by
      rw [next, line_pastBlanks, line_moved]
      simp [Cursor.ofChars]
    have fewer : t.pastBlanks.takeBreak.2.rest.length < t.cursor.rest.length :=
      Nat.lt_of_lt_of_le (length_takeBreak atBreak) (length_pastBlanks t)
    have calm : ({ t with
        cursor := t.pastBlanks.takeBreak.2, keyAllowed := t.keyAllowed || !t.inFlow } : Scanner).calm =
          ready t.pastBlanks.takeBreak.2 t.tokens t.blocks := by
      simp [Scanner.calm, ready, inBlock, flow]
    rw [run_ready, ← run_ready_moved ⟨bytes, t.pastBlanks.line + 1⟩, ← next, run_succ, run_succ, skipGaps_succ,
      if_pos atBreak, closing.dropStaleKeys_skipGaps beyond, calm, Option.bind_some, skipGaps_ready, skipGaps_ready,
      past_of_lt fewer, dropStaleKeys_ready, Option.bind_some]
    rfl
  · have still : t.pastBlanks.atBreak = false := by simp [atBreak, peek, ended]
    have loose : ({ t with cursor := t.pastBlanks } : Scanner).Loose :=
      ⟨closing.optional, fun key member start begun =>
        Nat.le_trans (closing.begun key member start begun) (Nat.le_of_eq (line_pastBlanks t).symm)⟩
    obtain ⟨outer, dropped, depth, loose⟩ := loose.dropStaleKeys
    have none : outer = [] := List.length_eq_zero_iff.mp (depth.trans (congrArg List.length inBlock))
    rw [run_succ, skipGaps_succ, if_neg (by simp [still]), dropped, Option.bind_some,
      loose.ahead_of_end (congrArg List.head? ended), run_ready, ahead_of_nil (by rfl)]
    simp [none, inFlow, closings, List.map_const']

/-! ## The line itself -/

/-- The place behind a key and some blanks. -/
def behindGap (word gap : List Char) (c : Cursor) (tokens : List Token) (blocks : List Nat) : Scanner :=
  { behindKey word c tokens blocks with cursor := c.skip (word.length + 1 + gap.length) }

theorem atValue_behindGap (word gap : List Char) (c : Cursor) (tokens : List Token) (blocks : List Nat) :
    (behindGap word gap c tokens (c.column :: blocks)).AtValue := by
  refine ⟨⟨by simp [behindGap, behindKey], by simp [behindGap, behindKey]⟩, rfl, rfl, ?_⟩
  rintro _ ⟨⟩
  simp only [behindGap, Cursor.skip]
  omega

section

variable {gap after : List Char} (rest : c.rest = word ++ ':' :: (gap ++ '"' :: after))

include rest

theorem rest_behindGap : (behindGap word gap c tokens blocks).cursor.rest = '"' :: after := by
  have parts : c.rest = (word ++ ':' :: gap) ++ '"' :: after := by simp [rest]
  simpa [behindGap, Nat.add_assoc, Nat.add_comm 1] using Cursor.rest_skip parts

/-- Behind a key blanks are skipped up to a quoted value. -/
theorem run_behindKey_gap (blank : ∀ char ∈ gap, isBlank char = true) (fuel : Nat) :
    (behindKey word c tokens blocks).run (fuel + 1) = (behindGap word gap c tokens blocks).run (fuel + 1) := by
  have parts : c.rest = (word ++ [':']) ++ (gap ++ '"' :: after) := by simp [rest]
  have behind : (behindKey word c tokens blocks).cursor.rest = gap ++ '"' :: after := by
    simpa [behindKey] using Cursor.rest_skip parts
  have passed : ∀ char ∈ gap, char = ' ' ∨ (behindKey word c tokens blocks).keyAllowed = false ∧ char = '\t' := by
    intro char member
    have blank := blank char member
    simp only [isBlank, Bool.or_eq_true, decide_eq_true_eq] at blank
    exact blank.imp_right fun tab => ⟨rfl, tab⟩
  have skipped := skipGaps_blanks behind passed (by decide) (behindKey word c tokens blocks).cursor.rest.length
  have same : ({ behindKey word c tokens blocks with
      cursor := (behindKey word c tokens blocks).cursor.skip gap.length } : Scanner) =
        behindGap word gap c tokens blocks := by
    simp [behindGap, behindKey, Cursor.skip_skip]
  rw [same] at skipped
  exact run_skipGaps skipped (congrArg List.head? (rest_behindGap rest)) (by decide) fuel

end

/-- Behind a key alone on its line the next line begins. -/
theorem run_behindKey_break {c : Cursor} {below : List Char} (rest : c.rest = word ++ ':' :: '\n' :: below)
    (fuel : Nat) : (behindKey word c tokens (c.column :: blocks)).run (fuel + 1) =
      (ready (Cursor.ofChars below) (.value :: .scalar .plain word :: .key :: tokens)
        (c.column :: blocks)).run (fuel + 1) := by
  have behind : (behindKey word c tokens (c.column :: blocks)).cursor.rest = '\n' :: below := by
    have parts : c.rest = (word ++ [':']) ++ '\n' :: below := by simp [rest]
    simpa [behindKey] using Cursor.rest_skip parts
  have ended : EndsBefore ('\n' :: below) below := by simp [EndsBefore, pastComment, isBlank]
  have closing : (behindKey word c tokens (c.column :: blocks)).Closing := by
    refine ⟨⟨by simp [behindKey], by simp [behindKey]⟩, ⟨?_, ?_⟩, behind ▸ ended.endsLine⟩
    · exact Nat.add_pos_right _ (Nat.succ_pos _)
    · simp [behindKey, Cursor.skip]
  exact closing.run_below rfl rfl (behind ▸ ended) fuel

end Scanner

/-! ## Lines that begin with a key -/

/-- Behind blank lines and comments the text belongs to an outer block, or goes on with another key at the margin. -/
def Leaves (margin : Nat) (text : List Char) : Prop :=
  (Scanner.onset text).rest = [] ∨ (Scanner.onset text).column < margin ∨
    (Scanner.onset text).column = margin ∧ ∃ word after, (Scanner.onset text).AtKey word after

/-- A word that is short enough for a key. -/
structure IsWord (word : List Char) : Prop where
  ne_nil : word ≠ []
  letters : ∀ char ∈ word, isWordChar char = true
  short : word.length ≤ maxKeyLength

/-- A line for a key behind blanks. -/
def keyLine (column : Nat) (word after : List Char) : List Char :=
  List.replicate column ' ' ++ (word ++ ':' :: after)

namespace IsWord

variable {word after : List Char} (is : IsWord word) (gap : ∀ char ∈ after.head?, isBlank char || isBreak char)

include is gap

/-- The line begins with the key. -/
theorem onset_keyLine (column : Nat) :
    Scanner.onset (keyLine column word after) = (Cursor.ofChars (keyLine column word after)).skip column ∧
      (Scanner.onset (keyLine column word after)).AtKey word after := by
  have parts : (Cursor.ofChars (keyLine column word after)).rest =
    List.replicate column ' ' ++ (word ++ ':' :: after) := rfl
  have here : Scanner.onset (keyLine column word after) =
      (Cursor.ofChars (keyLine column word after)).skip column := by
    obtain ⟨char, more, rfl⟩ := List.exists_cons_of_ne_nil is.ne_nil
    have letter := is.letters char (List.mem_cons_self ..)
    have passed := Scanner.skipGaps_blanks
      (s := Scanner.ready (.ofChars (keyLine column (char :: more) after)) [] []) parts
      (fun char member => .inl (List.eq_of_mem_replicate member)) (isSolid_of_isWordChar letter)
      (keyLine column (char :: more) after).length
    rw [Scanner.onset, Scanner.past, passed, List.length_replicate]
    rfl
  have behind := Cursor.rest_skip parts
  rw [List.length_replicate] at behind
  exact ⟨here, here ▸ ⟨behind, is.ne_nil, is.letters, gap, is.short⟩⟩

theorem column_keyLine (column : Nat) : (Scanner.onset (keyLine column word after)).column = column := by
  rw [(is.onset_keyLine gap column).1]
  simp [Cursor.skip, Cursor.ofChars]

theorem leaves_keyLine {column margin : Nat} (out : column ≤ margin) :
    Leaves margin (keyLine column word after) := by
  have here := is.column_keyLine gap column
  obtain further | rfl := Nat.lt_or_eq_of_le out
  · exact .inr (.inl (here.symm ▸ further))
  · exact .inr (.inr ⟨here, word, after, (is.onset_keyLine gap column).2⟩)

end IsWord

/-! ## Texts up to a line -/

/-- Scanning a text that begins so and goes on at the margin or further out comes to the line where it goes on, with
these tokens and blocks. -/
def LeadsTo (margin : Nat) (tokens : List Token) (blocks : List Nat) (before : List Char) : Prop :=
  ∃ rounds ≤ before.length, ∀ rest, Leaves margin rest → ∀ fuel,
    (Scanner.ofChars (before ++ rest)).run (fuel + 1 + rounds) =
      (Scanner.ready (Cursor.ofChars rest) tokens blocks).run (fuel + 1)

section

variable {margin column : Nat} {tokens : List Token} {blocks : List Nat} {before : List Char}

theorem leadsTo_nil : LeadsTo margin [] [] [] := ⟨0, Nat.le_refl 0, fun _ _ _ => rfl⟩

/-- A line adds its rounds. -/
theorem LeadsTo.line (leads : LeadsTo margin tokens blocks before) {line : List Char} {tokens' : List Token}
    {blocks' : List Nat} {rounds : Nat} (few : rounds ≤ line.length)
    (leaves : ∀ rest, Leaves margin (line ++ rest))
    (runs : ∀ rest fuel, (Scanner.ready (Cursor.ofChars (line ++ rest)) tokens blocks).run (fuel + 1 + rounds) =
      (Scanner.ready (Cursor.ofChars rest) tokens' blocks').run (fuel + 1)) (margin' : Nat) :
    LeadsTo margin' tokens' blocks' (before ++ line) := by
  obtain ⟨earlier, fewer, leads⟩ := leads
  refine ⟨rounds + earlier, ?_, fun rest _ fuel => ?_⟩
  · rw [List.length_append]
    omega
  · have onward := leads (line ++ rest) (leaves rest) (fuel + rounds)
    rw [← runs rest fuel, List.append_assoc, Nat.add_right_comm fuel 1 rounds, ← onward]
    congr 1
    omega

/-- With a key alone on its line anything may go on. -/
theorem LeadsTo.keyLine (leads : LeadsTo margin tokens blocks before) {word : List Char} (is : IsWord word)
    (out : column ≤ margin) (margin' : Nat) :
    LeadsTo margin' (.value :: .scalar .plain word :: .key :: Scanner.opened column tokens blocks)
      (column :: Scanner.outside column blocks) (before ++ Yaml.keyLine column word ['\n']) := by
  have gap (rest : List Char) : ∀ char ∈ ('\n' :: rest).head?, isBlank char || isBreak char := by simp [isBreak]
  have parts (rest : List Char) :
      Yaml.keyLine column word ['\n'] ++ rest = Yaml.keyLine column word ('\n' :: rest) := by
    simp [Yaml.keyLine]
  have few : 2 ≤ (Yaml.keyLine column word ['\n']).length := by
    simp only [Yaml.keyLine, List.length_append, List.length_cons]
    omega
  refine leads.line few (fun rest => parts rest ▸ is.leaves_keyLine (gap rest) out) (fun rest fuel => ?_) margin'
  have key := (is.onset_keyLine (gap rest) column).2
  rw [parts, Scanner.run_keyed key, Scanner.run_behindKey_break key.rest, is.column_keyLine (gap rest)]

variable {gap : List Char} (ne_nil : gap ≠ []) (blank : ∀ char ∈ gap, isBlank char = true)

include ne_nil blank

theorem gap_line (text : List Char) : ∀ char ∈ (gap ++ text).head?, isBlank char || isBreak char := by
  obtain ⟨char, more, rfl⟩ := List.exists_cons_of_ne_nil ne_nil
  rintro _ ⟨⟩
  simp [blank char (List.mem_cons_self ..)]

/-- Behind a key and blanks a value may begin. -/
theorem LeadsTo.leadsToValue (leads : LeadsTo margin tokens blocks before) {word : List Char} (is : IsWord word)
    (out : column ≤ margin) : LeadsToValue (before ++ Yaml.keyLine column word gap) := by
  obtain ⟨rounds, few, leads⟩ := leads
  let c := (Cursor.ofChars (Yaml.keyLine column word gap)).skip column
  refine ⟨rounds + 2, Scanner.behindGap word gap c (Scanner.opened c.column tokens blocks)
    (c.column :: Scanner.outside c.column blocks), ?_, Scanner.atValue_behindGap word gap c _ _, fun fuel rest => ?_⟩
  · have some := List.length_pos_of_ne_nil ne_nil
    simp only [Yaml.keyLine, List.length_append, List.length_cons]
    omega
  · have first := gap_line ne_nil blank ('"' :: rest)
    have key := (is.onset_keyLine first column).2
    have parts : Yaml.keyLine column word gap ++ '"' :: rest = Yaml.keyLine column word (gap ++ '"' :: rest) := by
      simp [Yaml.keyLine]
    have here : c.column = column := by simp [c, Cursor.skip, Cursor.ofChars]
    rw [List.append_assoc, parts, ← Nat.add_assoc, Nat.add_right_comm, leads _ (is.leaves_keyLine first out),
      Scanner.run_keyed key, is.column_keyLine first, here]
    cases fuel with
    | zero => rfl
    | succ fuel =>
      rw [Scanner.run_behindKey_gap key.rest blank, (is.onset_keyLine first column).1]
      have whole : column + (word.length + 1 + gap.length) = (Yaml.keyLine column word gap).length := by
        simp only [Yaml.keyLine, List.length_append, List.length_replicate, List.length_cons]
        omega
      have behind : (Cursor.ofChars (Yaml.keyLine column word gap ++ '"' :: rest)).skip
            (Yaml.keyLine column word gap).length =
          { (Cursor.ofChars (Yaml.keyLine column word gap)).skip (Yaml.keyLine column word gap).length with
            rest := '"' :: rest } := by
        simp [Cursor.skip, Cursor.ofChars]
      simp only [Scanner.behindGap, Scanner.behindKey, Scanner.facing, c, Cursor.skip_skip, ← parts, whole, behind]

end

end BearerAuth.Yaml
