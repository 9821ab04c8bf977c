import BearerAuth.Proofs.Config.Omission
import BearerAuth.Proofs.Config.References
import BearerAuth.Proofs.Yaml.EntryLine
import BearerAuth.Proofs.Yaml.SameSize

/-! # Settings that refer to the environment

A reference between double quotes is replaced before the text is read as YAML. So the value of the variable becomes
the setting as it stands if it says nothing to YAML: a colon, a number sign or a dollar sign may stand in it, but a
double quote would end the text, and a backslash would begin an escape.
-/

namespace BearerAuth.Config

open BearerAuth.Yaml

/-- A configuration text with a line in it whose value stands between double quotes. -/
structure Line where
  above : String
  /-- What the line begins with, up to the opening quote. -/
  lead : String
  /-- What the line ends with, from the closing quote on. -/
  trail : String
  below : String

namespace Line

/-- The text with something between the quotes. -/
def holding (l : Line) (text : String) : String :=
  l.above ++ l.lead ++ "\"" ++ text ++ "\"" ++ l.trail ++ l.below

/-- The text without the line. -/
def removed (l : Line) : String := l.above ++ l.below

/-- The last value of its line: nothing and some word between the quotes become the setting. -/
structure HoldsAtEnd (l : Line) (env : Environment) (setting : TextSetting) (c : Config) : Prop where
  /-- The quoted text is a value, without an anchor or a tag. -/
  leads : LeadsToValue (expand env (l.above ++ l.lead)).toList
  /-- No other value follows on the line. -/
  ends : EndsLine (expand env (l.trail ++ l.below)).toList
  empty : ofYaml env (l.holding "") = .ok (setting.set c "")
  word : ∃ word ≠ "", (∀ char ∈ word.toList, isInert char = true) ∧ '$' ∉ word.toList ∧
    ofYaml env (l.holding word) = .ok (setting.set c word)

/-- A value beside its key, whatever follows: all words between the quotes become the setting. One would not be enough
there, since brackets around the value may be a key, and keys may be too long. -/
structure HoldsBesideKey (l : Line) (env : Environment) (setting : TextSetting) (c : Config) : Prop where
  /-- The quoted text is a value on the line of its key or between brackets, without an anchor or a tag. -/
  leads : LeadsBesideKey (expand env (l.above ++ l.lead)).toList
  words : ∀ word : String, (∀ char ∈ word.toList, isLetter char = true) →
    ofYaml env (l.holding word) = .ok (setting.set c word)

/-- The line holds a setting, which is what stands between the quotes. -/
structure Holds (l : Line) (env : Environment) (setting : TextSetting) (c : Config) : Prop where
  /-- No reference runs on into the line. -/
  settled : Settled (l.above ++ l.lead).toList
  place : l.HoldsAtEnd env setting c ∨ l.HoldsBesideKey env setting c

/-- The line is an entry for a setting and nothing else: the key begins at the margin, in a block that takes it, and
behind the value there is no more than a comment. -/
structure IsEntry (l : Line) (env : Environment) (setting : TextSetting) (margin : Nat) : Prop where
  lead : ∃ gap ≠ [], (∀ char ∈ gap, isBlank char = true) ∧
    l.lead.toList = List.replicate margin ' ' ++ (setting.key.toList ++ ':' :: gap)
  begins : l.above.toList.getLast? = some '\n'
  above : LeadsToEntry setting.parent.toList margin (expand env l.above).toList
  ends : EndsBefore (expand env (l.trail ++ l.below)).toList (expand env l.below).toList
  /-- The text goes on with another key at the margin, or further out. -/
  below : Leaves margin (expand env l.below).toList

variable {l : Line} {env : Environment} {setting : TextSetting} {c : Config}

theorem expand_plain {text : String} (plain : ¬['$', '{'] <:+: text.toList) : expand env text = text :=
  expand_literal env ⟨text, plain⟩

theorem expand_empty : expand env "" = "" := expand_plain (by decide)

/-- What is put between the quotes is expanded on its own. -/
theorem expand_holding (settled : Settled (l.above ++ l.lead).toList) {text : String}
    (alone : Settled text.toList) :
    (expand env (l.holding text)).toList = (expand env (l.above ++ l.lead)).toList ++
      '"' :: ((expand env text).toList ++ '"' :: (expand env (l.trail ++ l.below)).toList) := by
  have quote (rest : String) : expand env ("\"" ++ rest) = "\"" ++ expand env rest := by
    rw [expand_append env (by decide) (fun last => by simp at last)]
    rfl
  have parts : l.holding text =
      (l.above ++ l.lead) ++ ("\"" ++ (text ++ ("\"" ++ (l.trail ++ l.below)))) := by
    simp [holding, String.append_assoc]
  have apart (text rest : String) : Apart text.toList ("\"" ++ rest).toList := fun _ => by simp
  rw [parts, expand_append env settled (apart _ _), quote, expand_append env alone (apart _ _), quote]
  simp

theorem ofYaml_eq_ok {text : String} {found : Config} :
    ofYaml env text = .ok found ↔ ∃ tokens document, Yaml.tokens? (expand env text).toList = some tokens ∧
      (Composing.document.run ⟨tokens, [], [], [], []⟩).map (·.1) = some document ∧
      ofDocument? document = some found := by
  unfold ofYaml document?
  cases Yaml.tokens? (expand env text).toList with
  | none => simp
  | some tokens =>
    cases ran : Composing.document.run ⟨tokens, [], [], [], []⟩ with
    | none => simp [ran]
    | some result =>
      obtain ⟨document, rest⟩ := result
      cases read : ofDocument? document <;> simp [ran, read]

theorem Holds.empty (holds : l.Holds env setting c) : ofYaml env (l.holding "") = .ok (setting.set c "") := by
  obtain ⟨-, ended | beside⟩ := holds
  · exact ended.empty
  · exact beside.words "" (by simp)

/-- A text that is read with this between the quotes is read with each of the others there that have the same tokens
around them, and what it gives depends on that in settings that are text only. -/
theorem exists_configs {base : Literal} {others : List Char → Prop} {found : Config}
    (settled : Settled (l.above ++ l.lead).toList) (unnamed : Backend.ofName? base.text = none)
    (around : SameAround (expand env (l.above ++ l.lead)).toList (expand env (l.trail ++ l.below)).toList
      base.text.toList others)
    (stands : others base.text.toList) (full : ofYaml env (l.holding base.text) = .ok found) :
    ∃ configs, Depends configs ∧ configs base.text = found ∧
      ∀ text, Settled text.toList → others (expand env text).toList →
        ofYaml env (l.holding text) = .ok (configs (expand env text)) := by
  obtain ⟨tokens, document, scanned, composed, read⟩ := ofYaml_eq_ok.mp full
  rw [expand_holding settled base.settled, expand_literal] at scanned
  obtain ⟨earlier, later, scans⟩ := around tokens scanned
  obtain rfl := Option.some.inj (scanned.symm.trans (scans _ stands))
  obtain ⟨draft, composes⟩ := exists_draft earlier later composed
  obtain rfl := Option.some.inj (composed.symm.trans (composes base.text))
  obtain ⟨configs, reads, depends⟩ := told_config unnamed draft found read
  have same : configs base.text = found := Option.some.inj ((reads base.text).symm.trans read)
  refine ⟨configs, depends, same, fun text alone other => ofYaml_eq_ok.mpr ?_⟩
  rw [expand_holding settled alone]
  exact ⟨_, _, scans _ other, composes (expand env text), reads (expand env text)⟩

/-- A word of the size of the text, one of two. -/
def stand (other : Bool) (text : String) : Literal where
  text := String.ofList (standsFor other text.toList)
  plain := by
    intro begins
    rw [String.toList_ofList] at begins
    have letter : '$' ∈ standsFor other text.toList := begins.subset (List.mem_cons_self ..)
    exact absurd (mem_of_mem_standsFor letter) (by decide)

theorem toList_stand (other : Bool) (text : String) :
    (stand other text).text.toList = standsFor other text.toList := String.toList_ofList

theorem stand_ne {text : String} (other : text ≠ "") : (stand false text).text ≠ (stand true text).text := by
  intro same
  refine standsFor_ne (mt String.toList_eq_nil_iff.mp other) ?_
  rw [← toList_stand, ← toList_stand, same]

/-- No such word names a backend. -/
theorem ofName?_stand (text : String) : Backend.ofName? (stand false text).text = none := by
  have letters := toList_stand false text
  unfold Backend.ofName?
  split
  case h_1 named =>
    have letter : 'm' ∈ standsFor false text.toList := by rw [← letters, named]; decide
    exact absurd (mem_of_mem_standsFor letter) (by decide)
  case h_2 named =>
    have letter : 'r' ∈ standsFor false text.toList := by rw [← letters, named]; decide
    exact absurd (mem_of_mem_standsFor letter) (by decide)
  case h_3 => rfl

theorem HoldsBesideKey.words_stand (holds : l.HoldsBesideKey env setting c) (other : Bool) (text : String) :
    ofYaml env (l.holding (stand other text).text) = .ok (setting.set c (stand other text).text) :=
  holds.words _ (by rw [toList_stand]; exact isLetter_of_mem_standsFor)

section

variable {text : String} (alone : Settled text.toList)
  (inert : ∀ char ∈ (expand env text).toList, isInert char = true)

include alone inert

theorem HoldsAtEnd.ofYaml_holding (holds : l.HoldsAtEnd env setting c)
    (settled : Settled (l.above ++ l.lead).toList) :
    ofYaml env (l.holding text) = .ok (setting.set c (expand env text)) := by
  obtain ⟨word, other, stands, plain, full⟩ := holds.word
  let base : Literal := ⟨"", by decide⟩
  let literal : Literal := ⟨word, fun begins => plain (begins.subset (by simp))⟩
  have kept : expand env word = word := expand_literal env literal
  have around : SameAround _ _ base.text.toList _ := holds.leads.sameAround holds.ends
  obtain ⟨configs, depends, atEmpty, reads⟩ := exists_configs settled rfl around (by simp [base]) holds.empty
  have atWord := reads word literal.settled (kept.symm ▸ stands)
  rw [kept] at atWord
  have same : configs = (setting.set c ·) :=
    depends.eq_set other.symm atEmpty (Except.ok.inj (atWord.symm.trans full))
  rw [reads text alone inert, same]

theorem HoldsBesideKey.ofYaml_holding (holds : l.HoldsBesideKey env setting c)
    (settled : Settled (l.above ++ l.lead).toList) :
    ofYaml env (l.holding text) = .ok (setting.set c (expand env text)) := by
  generalize expanded : expand env text = value at inert
  have stands (other : Bool) : ∀ char ∈ standsFor other value.toList, isInert char = true := isInert_of_mem_standsFor
  have around := holds.leads.sameAround (expand env (l.trail ++ l.below)).toList (stands false)
  have words (other : Bool) : Replaces (standsFor false value.toList) (standsFor other value.toList) :=
    replaces_standsFor false (stands other) (List.length_map _) (byteCount_standsFor other _)
  have whole : Replaces (standsFor false value.toList) value.toList := replaces_standsFor false inert rfl rfl
  simp only [← toList_stand] at around words whole
  obtain ⟨configs, depends, atFirst, reads⟩ := exists_configs settled (ofName?_stand value) around (words false)
    (holds.words_stand false value)
  have read : ofYaml env (l.holding text) = .ok (configs value) := by
    rw [reads text alone (by rwa [expanded]), expanded]
  by_cases empty : value = ""
  · -- there is only one such word, which is the value
    have nothing : (stand false value).text = value := by
      subst empty
      rfl
    rw [nothing] at atFirst
    rw [read, atFirst]
  · have atSecond := reads _ (stand true value).settled (by simpa only [expand_literal] using words true)
    rw [expand_literal, holds.words_stand true value] at atSecond
    have same : configs = (setting.set c ·) :=
      depends.eq_set (stand_ne empty) atFirst (Except.ok.inj atSecond).symm
    rw [read, same]

end

/-- What stands for itself between the quotes becomes the setting. -/
theorem Holds.ofYaml_holding (holds : l.Holds env setting c) {text : String} (alone : Settled text.toList)
    (inert : ∀ char ∈ (expand env text).toList, isInert char = true) :
    ofYaml env (l.holding text) = .ok (setting.set c (expand env text)) := by
  obtain ⟨settled, ended | beside⟩ := holds
  · exact ended.ofYaml_holding alone inert settled
  · exact beside.ofYaml_holding alone inert settled

/-! ## The text without the line -/

section

variable {margin : Nat} (entry : l.IsEntry env setting margin)

include entry

theorem IsEntry.not_mem_lead (special : Char) (letter : isWordChar special = false) (blank : isBlank special = false)
    (colon : special ≠ ':') : special ∉ l.lead.toList := by
  obtain ⟨gap, -, blanks, lead⟩ := entry.lead
  rw [lead, List.mem_append, List.mem_append, List.mem_cons, List.mem_replicate]
  rintro (⟨-, rfl⟩ | key | rfl | gapped)
  · cases blank
  · rw [setting.isWord_key.letters special key] at letter
    cases letter
  · exact colon rfl
  · rw [blanks special gapped] at blank
    cases blank

theorem IsEntry.apart (rest : List Char) : Apart l.above.toList rest :=
  fun last => absurd (entry.begins.symm.trans last) (by decide)

theorem IsEntry.settled_above (settled : Settled (l.above ++ l.lead).toList) : Settled l.above.toList :=
  (String.toList_append ▸ settled).of_append (entry.not_mem_lead '}' (by decide) (by decide) (by decide))

theorem IsEntry.expand_above_lead (settled : Settled (l.above ++ l.lead).toList) :
    expand env (l.above ++ l.lead) = expand env l.above ++ l.lead := by
  have literal : ¬['$', '{'] <:+: l.lead.toList := fun begins =>
    entry.not_mem_lead '$' (by decide) (by decide) (by decide) (begins.subset (by simp))
  rw [expand_append env (entry.settled_above settled) (entry.apart _), expand_literal env ⟨l.lead, literal⟩]

theorem IsEntry.leadsToValue (settled : Settled (l.above ++ l.lead).toList) :
    LeadsToValue (expand env (l.above ++ l.lead)).toList := by
  obtain ⟨gap, ne_nil, blank, lead⟩ := entry.lead
  obtain ⟨tokens, blocks, -, leads⟩ := entry.above
  rw [entry.expand_above_lead settled, String.toList_append, lead]
  exact leads.leadsToValue ne_nil blank setting.isWord_key (Nat.le_refl margin)

/-- Without the line all settings but the one are the same. -/
theorem IsEntry.sameBut (settled : Settled (l.above ++ l.lead).toList) {full less : Config}
    (empty : ofYaml env (l.holding "") = .ok full) (removed : ofYaml env l.removed = .ok less) :
    full.SameBut setting less := by
  obtain ⟨tokens, document, scanned, composed, read⟩ := ofYaml_eq_ok.mp empty
  obtain ⟨tokens', document', scanned', composed', read'⟩ := ofYaml_eq_ok.mp removed
  obtain ⟨gap, ne_nil, blank, lead⟩ := entry.lead
  rw [expand_holding settled (by decide), entry.expand_above_lead settled, String.toList_append, lead,
    List.append_assoc] at scanned
  rw [Line.removed, expand_append env (entry.settled_above settled) (entry.apart _), String.toList_append]
    at scanned'
  have cut : Cut (setting.entry []) tokens tokens' := by
    have plain : (setting.entry []).Plain := ⟨setting.isWord_key, by simp [TextSetting.entry]⟩
    refine entry.above.cut ne_nil blank plain entry.ends entry.below ?_ scanned'
    simpa [Entry.line, keyLine, TextSetting.entry, expand_empty] using scanned
  exact consistent_config (Composing.document_lacks _ cut composed composed') full read less read'

end

/-- A value of printable characters other than the double quote and the backslash arrives as it is: the setting that
refers to its variable between double quotes has that value. Where the line is an entry, every other setting is what it
is without the line. -/
theorem Holds.ofYaml_reference (holds : l.Holds env setting c) (name : Name) {value : String}
    (set : env name.text = some value) (inert : ∀ char ∈ value.toList, isInert char = true) :
    ofYaml env (l.holding name.reference) = .ok (setting.set c value) ∧
      ∀ margin less, l.IsEntry env setting margin → ofYaml env l.removed = .ok less →
        ofYaml env (l.holding name.reference) = .ok (setting.set less value) := by
  have replaced : expand env name.reference = value := by
    rw [expand_reference, Name.value, set, Option.getD_some]
  have reads := holds.ofYaml_holding name.settled (replaced.symm ▸ inert)
  rw [replaced] at reads
  refine ⟨reads, fun margin less entry removed => ?_⟩
  rw [reads, ← (entry.sameBut holds.settled holds.empty removed).set value, TextSetting.set_set]

/-! ## A line of a section -/

/-- The server of a cache, with a comment behind it, and another section below. -/
def sample : Line :=
  ⟨"cache:\n  backend: \"redis\"\n  redis:\n", "    url: ", " # with the password\n", "logging:\n  level: debug\n"⟩

/-- What the sample gives without the line. -/
def sampleConfig : Config := { cache.backend := .redis, logs.level := "debug" }

theorem sample_isEntry : sample.IsEntry env .url 4 where
  lead := ⟨[' '], by decide, by simp [isBlank], by decide +kernel⟩
  begins := by decide
  above := by
    have cache : IsWord "cache".toList := ⟨by decide, List.all_eq_true.mp (by decide), by decide⟩
    have redis : IsWord "redis".toList := ⟨by decide, List.all_eq_true.mp (by decide), by decide⟩
    let backend : Entry := ⟨"cache".toList, "backend".toList, "redis".toList⟩
    have plain : backend.Plain :=
      ⟨⟨by decide, List.all_eq_true.mp (by decide), by decide⟩, List.all_eq_true.mp (by decide)⟩
    have ended (rest : List Char) : EndsBefore (['\n'] ++ rest) rest := by simp [EndsBefore, pastComment, isBlank]
    have parts : sample.above.toList = [] ++ keyLine 0 "cache".toList ['\n'] ++
      backend.line 2 [' '] ['\n'] ++ keyLine 2 "redis".toList ['\n'] := by decide +kernel
    rw [expand_plain (by decide +kernel), parts]
    have leads : LeadsTo 0 [] [] [] := leadsTo_nil
    have blank : ∀ char ∈ [' '], isBlank char = true := by simp [isBlank]
    have behind := (leads.keyLine cache (Nat.le_refl 0) 2).entryLine (List.cons_ne_nil ' ' []) blank plain
      (Nat.le_refl 2) ended 2
    exact behind.leadsToEntry redis (Nat.le_refl 2) (by decide)
  ends := by
    rw [expand_plain (by decide +kernel), expand_plain (by decide +kernel)]
    exact .inl (by decide)
  below := by
    rw [expand_plain (by decide +kernel)]
    exact .inr (.inl (by decide +kernel))

/-- The tokens of the sample, given those of the server's section. -/
def sampleTokens (server : List Yaml.Token) : List Yaml.Token :=
  let earlier : List Yaml.Token := [.blockMappingStart, .key, .scalar .plain "cache".toList, .value,
    .blockMappingStart, .key, .scalar .plain "backend".toList, .value, .scalar .doubleQuoted "redis".toList,
    .key, .scalar .plain "redis".toList, .value]
  let later : List Yaml.Token := [.blockEnd, .key, .scalar .plain "logging".toList, .value,
    .blockMappingStart, .key, .scalar .plain "level".toList, .value, .scalar .plain "debug".toList, .blockEnd,
    .blockEnd]
  earlier ++ server ++ later

/-- The section of the server with some text as the address. -/
def serverTokens (text : String) : List Yaml.Token :=
  [.blockMappingStart, .key, .scalar .plain "url".toList, .value, .scalar .doubleQuoted text.toList, .blockEnd]

/-- The document of the sample, given the server's section. -/
def sampleDocument (server : Node) : Document :=
  ⟨.mapping none [
    (.scalar none .plain "cache", .mapping none [
      (.scalar none .plain "backend", .scalar none .doubleQuoted "redis"), (.scalar none .plain "redis", server)]),
    (.scalar none .plain "logging", .mapping none [(.scalar none .plain "level", .scalar none .plain "debug")])],
    fun _ => none⟩

def serverNode (text : String) : Node := .mapping none [(.scalar none .plain "url", slot text)]

/-- The text of the sample with something between the quotes. -/
def sampleText (text : List Char) : List Char :=
  (sample.above.toList ++ sample.lead.toList) ++ '"' :: (text ++ '"' :: (sample.trail.toList ++ sample.below.toList))

theorem expand_sample {text : String} (alone : Settled text.toList) :
    (expand env (sample.holding text)).toList = sampleText (expand env text).toList := by
  have begins : expand env (sample.above ++ sample.lead) = sample.above ++ sample.lead :=
    expand_plain (by decide +kernel)
  have ends : expand env (sample.trail ++ sample.below) = sample.trail ++ sample.below :=
    expand_plain (by decide +kernel)
  rw [expand_holding (by decide +kernel) alone, begins, ends, String.toList_append, String.toList_append]
  rfl

theorem ofYaml_sample {text value : String} (alone : Settled text.toList)
    (scanned : Yaml.tokens? (sampleText (expand env text).toList) = some (sampleTokens (serverTokens value)))
    (composed : (Composing.document.run ⟨sampleTokens (serverTokens value), [], [], [], []⟩).map (·.1) =
      some (sampleDocument (serverNode value))) :
    ofYaml env (sample.holding text) = .ok (TextSetting.url.set sampleConfig value) := by
  rw [← expand_sample alone] at scanned
  exact ofYaml_eq_ok.mpr ⟨_, _, scanned, composed, rfl⟩

theorem sample_holds : sample.Holds env .url sampleConfig := by
  have settled : Settled (sample.above ++ sample.lead).toList := by decide +kernel
  refine ⟨settled, .inl ⟨sample_isEntry.leadsToValue settled, sample_isEntry.ends.endsLine, ?_, "a", by decide,
    List.all_eq_true.mp (by decide), by decide, ?_⟩⟩
  · refine ofYaml_sample (by decide) ?_ rfl
    rw [expand_empty]
    decide +kernel
  · refine ofYaml_sample (by decide) ?_ rfl
    rw [expand_plain (by decide)]
    decide +kernel

theorem sample_removed : ofYaml env sample.removed = .ok sampleConfig := by
  refine ofYaml_eq_ok.mpr ⟨sampleTokens [], sampleDocument .absent, ?_, rfl, rfl⟩
  rw [expand_plain (by decide +kernel)]
  decide +kernel

/-- The environment with one variable. -/
def single (value : String) : Environment := fun name => if name = "S" then some value else none

def sampleName : Name := ⟨"S", by decide, by decide⟩

/-- Blanks, a number sign, a colon, dollar signs and a reference are as good as letters. -/
theorem ofYaml_reference_punctuated :
    ofYaml (single "a: $b # 'c' $\x7bS\x7d") (sample.holding sampleName.reference) =
      .ok (TextSetting.url.set sampleConfig "a: $b # 'c' $\x7bS\x7d") := by
  have holds : sample.Holds (single "a: $b # 'c' $\x7bS\x7d") .url sampleConfig := sample_holds
  have reads := holds.ofYaml_reference sampleName rfl (List.all_eq_true.mp (by decide))
  exact reads.2 4 sampleConfig sample_isEntry sample_removed

/-- Not every printable value arrives: a backslash and a letter stand for another character, and a double quote ends
the text. -/
theorem not_ofYaml_reference_printable : ¬∀ (l : Line) (env : Environment) (setting : TextSetting) (margin : Nat)
    (less : Config), l.IsEntry env setting margin → l.Holds env setting less → ofYaml env l.removed = .ok less →
      ∀ (name : Name) (value : String), env name.text = some value → (∀ char ∈ value.toList, isPrintable char = true) →
        ofYaml env (l.holding name.reference) = .ok (setting.set less value) := by
  intro verbatim
  have escaped : ofYaml (single "a\\nb") (sample.holding sampleName.reference) =
      .ok (TextSetting.url.set sampleConfig "a\nb") :=
    ofYaml_sample sampleName.settled (by decide +kernel) rfl
  have claimed := verbatim sample (single "a\\nb") .url 4 sampleConfig sample_isEntry sample_holds sample_removed
    sampleName _ rfl (List.all_eq_true.mp (by decide))
  have same := Except.ok.inj (escaped.symm.trans claimed)
  exact absurd (congrArg (·.cache.redis) same) (by decide)

end Line

end BearerAuth.Config
