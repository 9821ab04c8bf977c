import BearerAuth.Password.Basic
import BearerAuth.Proofs.Decimal.Digits
import BearerAuth.Proofs.Text.Base64

/-! # Stored hashes there and back

A stored hash is written in five parts between dollar signs, none of which holds one: the name of the variant,
the version, the list of parameters, the salt and the hash. Each part is read back on its own, so the text says
exactly what the hash is to be computed from again. Whoever verifies a stored password therefore compares the
two hashes.
-/

namespace BearerAuth

namespace Text

/-- Text parts at its first separator. -/
theorem split_append {separator : Char} {part : List Char} (plain : separator ∉ part)
    (rest : List Char) : split separator (part ++ separator :: rest) = part :: split separator rest := by
  induction part with
  | nil => simp [split]
  | cons c part ih =>
    have differs : c ≠ separator := fun same => plain (same ▸ List.mem_cons_self ..)
    have tail : separator ∉ part := fun member => plain (List.mem_cons_of_mem _ member)
    simp [split, differs, ih tail]

/-- Text without a separator is one part. -/
theorem split_of_not_mem {separator : Char} {part : List Char} (plain : separator ∉ part) :
    split separator part = [part] := by
  induction part with
  | nil => rfl
  | cons c part ih =>
    have differs : c ≠ separator := fun same => plain (same ▸ List.mem_cons_self ..)
    have tail : separator ∉ part := fun member => plain (List.mem_cons_of_mem _ member)
    simp [split, differs, ih tail]

end Text

namespace Digest

/-- A short hash has as many bytes as it was asked for: there are eight words of eight bytes. -/
theorem Blake2b.length_hash {length : Nat} (short : length ≤ 64) (message : List UInt8) :
    (Blake2b.hash length message).length = length := by
  simp only [hash, List.length_take, List.flatMap_cons, List.flatMap_nil, bytesOfWord,
    List.length_append, List.length_cons, List.length_nil]
  omega

theorem Argon2.length_hash {length : Nat} (short : length ≤ 64) (p : Params)
    (password salt : List UInt8) : (Argon2.hash p length password salt).length = length := by
  simp only [hash, longHash, if_pos short]
  exact Blake2b.length_hash short _

end Digest

namespace Password

open BearerAuth.Digest BearerAuth.Text

namespace Stored

/-! ## Numbers and bytes -/

theorem length_toDigits_le {n : Nat} (small : n < 4294967296) : (Nat.toDigits 10 n).length ≤ 10 := by
  rw [Nat.length_toDigits_le_iff (by decide) (by decide)]
  omega

theorem isValue_toDigits {n : Nat} (small : n < 4294967296) : isValue (Nat.toDigits 10 n) = true := by
  have short := length_toDigits_le small
  have valued : (Nat.toDigits 10 n).all isValueChar = true := by
    refine List.all_eq_true.mpr fun c member => ?_
    simp [isValueChar, Decimal.isDigit_of_mem_toDigits member]
  simp only [isValue, valued, Bool.and_true, decide_eq_true_eq]
  omega

/-- A number of 32 bits is read from its digits. -/
theorem decimal?_toDigits {n : Nat} (small : n < 4294967296) :
    decimal? (Nat.toDigits 10 n) = some n := by
  have digits : (Nat.toDigits 10 n).all Decimal.isDigit = true :=
    List.all_eq_true.mpr fun c member => Decimal.isDigit_of_mem_toDigits member
  have written : (Nat.toDigits 10 n).isEmpty = false := by
    simp [Decimal.toDigits_eq, Decimal.digits_ne_nil]
  have leading : ¬((Nat.toDigits 10 n).head? = some '0' ∧ 1 < (Nat.toDigits 10 n).length) := by
    rintro ⟨first, more⟩
    rw [Decimal.length_toDigits_of_head first] at more
    exact absurd more (by decide)
  simp only [decimal?, digits, written, Bool.not_true, Bool.or_self, Bool.false_or, Bool.and_eq_true,
    decide_eq_true_eq, leading, ↓reduceIte, Decimal.valueOfDigits_toDigits, small]

private theorem isValueChar_digit : ∀ n < 64, isValueChar (Base64.standard.digit n) = true := by decide

theorem isValue_encode {bytes : List UInt8} (short : bytes.length ≤ 48) :
    isValue (Base64.encode Base64.standard bytes) = true := by
  have length := Base64.length_encode Base64.standard bytes
  have valued : (Base64.encode Base64.standard bytes).all isValueChar = true := by
    refine List.all_eq_true.mpr fun c member => ?_
    obtain ⟨n, small, rfl⟩ := Base64.exists_of_mem_encode member
    exact isValueChar_digit n small
  simp only [isValue, valued, Bool.and_true, decide_eq_true_eq]
  omega

theorem variant?_variantName (v : Argon2.Variant) : variant? (variantName v).toList = some v := by
  cases v <;> decide

/-! ## The parameters -/

/-- The parameters as they are written: three numbers with their names. -/
def paramsText (p : Argon2.Params) : List Char :=
  ('m' :: '=' :: Nat.toDigits 10 p.memory) ++ ',' :: (('t' :: '=' :: Nat.toDigits 10 p.passes) ++
    ',' :: ('p' :: '=' :: Nat.toDigits 10 p.lanes))

/-- A name and a number with an equals sign between them are told apart. -/
theorem split_pair {name : Char} (other : name ≠ '=') (n : Nat) :
    split '=' (name :: '=' :: Nat.toDigits 10 n) = [[name], Nat.toDigits 10 n] := by
  have plain : '=' ∉ [name] := by simpa using Ne.symm other
  have number : '=' ∉ Nat.toDigits 10 n := Decimal.not_mem_toDigits (by decide) n
  exact (split_append plain _).trans (congrArg ([name] :: ·) (split_of_not_mem number))

/-- Written parameters are read in the place of any others. -/
theorem setParams_paramsText (q : Argon2.Params) {p : Argon2.Params} (memory : p.memory < 4294967296)
    (passes : p.passes < 4294967296) (lanes : p.lanes < 4294967296) :
    setParams q (paramsText p) =
      some { q with memory := p.memory, passes := p.passes, lanes := p.lanes } := by
  have whole (name : Char) (other : name ≠ ',') (n : Nat) : ',' ∉ name :: '=' :: Nat.toDigits 10 n := by
    simp [other.symm, Decimal.not_mem_toDigits (by decide : Decimal.isDigit ',' = false)]
  have fits : ¬127 < (paramsText p).length := by
    have first := length_toDigits_le memory
    have second := length_toDigits_le passes
    have third := length_toDigits_le lanes
    simp only [paramsText, List.length_append, List.length_cons]
    omega
  have names : isName ['m'] = true ∧ isName ['t'] = true ∧ isName ['p'] = true := by decide
  have single (c : Char) : String.ofList [c] = String.singleton c := rfl
  rw [setParams, if_neg fits, paramsText, split_append (whole 'm' (by decide) _),
    split_append (whole 't' (by decide) _), split_of_not_mem (whole 'p' (by decide) _)]
  simp only [List.foldlM_cons, List.foldlM_nil, split_pair (by decide : 'm' ≠ '='),
    split_pair (by decide : 't' ≠ '='), split_pair (by decide : 'p' ≠ '='), names,
    isValue_toDigits memory, isValue_toDigits passes, isValue_toDigits lanes, Bool.and_self, ↓reduceIte]
  simp [setParam, single, decimal?_toDigits, memory, passes, lanes]

/-! ## The text -/

/-- What a text can carry: numbers of 32 bits that a hash can be computed with, no data, and a salt and a hash
of a size that is read. -/
structure Readable (s : Stored) : Prop where
  usable : usable s.params = true
  memory : s.params.memory < 4294967296
  passes : s.params.passes < 4294967296
  data : s.params.data = []
  salt : 8 ≤ s.salt.length ∧ s.salt.length ≤ 48
  hash : 10 ≤ s.hash.length ∧ s.hash.length ≤ 64

/-- The parts of a stored hash behind the name of the variant. -/
def parts (s : Stored) : List (List Char) :=
  ['v' :: '=' :: Nat.toDigits 10 s.params.version, paramsText s.params,
    Base64.encode Base64.standard s.salt, Base64.encode Base64.standard s.hash]

/-- No part holds a dollar sign, so the parts are what stands between them. -/
theorem split_toChars (s : Stored) :
    split '$' s.toChars = [] :: (variantName s.params.variant).toList :: s.parts := by
  have name : '$' ∉ (variantName s.params.variant).toList := by cases s.params.variant <;> decide
  have digits (n : Nat) : '$' ∉ Nat.toDigits 10 n := Decimal.not_mem_toDigits (by decide) n
  have letters (bytes : List UInt8) : '$' ∉ Base64.encode Base64.standard bytes :=
    Base64.not_mem_encode (by decide) bytes
  have shape : s.toChars = [] ++ '$' :: ((variantName s.params.variant).toList ++ '$' ::
      ('v' :: '=' :: Nat.toDigits 10 s.params.version ++ '$' :: (paramsText s.params ++ '$' ::
        (Base64.encode Base64.standard s.salt ++ '$' :: Base64.encode Base64.standard s.hash)))) := by
    simp [toChars, paramsText]
  rw [shape, split_append (by simp), split_append name, split_append (by simp [digits]),
    split_append (by simp [paramsText, digits]), split_append (letters _), split_of_not_mem (letters _)]
  rfl

theorem ofParts?_parts {s : Stored} (readable : s.Readable) :
    ofParts? (defaultParams s.params.variant) s.parts = some s := by
  have bounds := readable.usable
  simp only [Stored.usable, Bool.and_eq_true, Bool.or_eq_true, decide_eq_true_eq] at bounds
  have version : s.params.version < 4294967296 := by omega
  have lanes : s.params.lanes < 4294967296 := by omega
  -- A version is one value, and the parameters are a list of pairs: that is how the parts are told apart.
  have value : ',' ∉ Nat.toDigits 10 s.params.version := Decimal.not_mem_toDigits (by decide) _
  have pairs : '=' ∈ paramsText s.params := by simp [paramsText]
  have long : 4 ≤ (Base64.encode Base64.standard s.salt).length := by
    have sized := readable.salt
    rw [Base64.length_encode]
    omega
  have decoded (bytes : List UInt8) := Base64.decode?_encode Base64.standard_faithful bytes
  have params : (⟨s.params.variant, s.params.version, s.params.memory, s.params.passes, s.params.lanes, []⟩ :
      Argon2.Params) = s.params := by
    rw [← readable.data]
  simp [ofParts?, parts, value, pairs, isValue_toDigits version, decimal?_toDigits version,
    setParams_paramsText _ readable.memory readable.passes lanes, long, isValue_encode readable.salt.2,
    decoded, readable.salt.1, readable.hash, defaultParams, params, readable.usable]

/-- A stored hash is read back from its text. -/
theorem ofText?_toText {s : Stored} (readable : s.Readable) : ofText? s.toText = some s := by
  rw [ofText?, toText, String.toList_ofList, ofChars?, split_toChars]
  simp only [variant?_variantName, bind, Option.bind_some]
  exact ofParts?_parts readable

end Stored

/-! ## Storing a password -/

variable {password : String} {salt : List UInt8} {s : Stored}

/-- The hash of a password with a salt, as new passwords are hashed. -/
def defaultHash (password : String) (salt : List UInt8) : List UInt8 :=
  Argon2.hash (Stored.defaultParams .id) hashLength (utf8 password) salt

/-- Passwords are stored unless they are too short or too long. -/
theorem store_eq_ok_iff : store password salt = .ok s ↔
    (minLength ≤ password.length ∧ (utf8 password).length ≤ maxBytes) ∧
      s = ⟨Stored.defaultParams .id, salt, defaultHash password salt⟩ := by
  rw [store]
  split_ifs with short long
  · simp [Nat.not_le.mpr short]
  · simp [Nat.not_le.mpr long]
  · rw [Except.ok.injEq, eq_comm]
    exact (and_iff_right ⟨Nat.not_lt.mp short, Nat.not_lt.mp long⟩).symm

/-- Whatever was stored with a salt of a common size can be read. -/
theorem readable_of_store (stored : store password salt = .ok s)
    (sized : 8 ≤ salt.length ∧ salt.length ≤ 48) : s.Readable := by
  obtain ⟨-, rfl⟩ := store_eq_ok_iff.mp stored
  have length : (defaultHash password salt).length = 32 := Argon2.length_hash (by decide) ..
  have usable : Stored.usable (Stored.defaultParams .id) = true := by decide
  have memory : (Stored.defaultParams .id).memory < 4294967296 := by decide
  have passes : (Stored.defaultParams .id).passes < 4294967296 := by decide
  exact ⟨usable, memory, passes, rfl, sized, by simp [length]⟩

/-- A stored password is compared by its hash. -/
theorem verify_of_store (stored : store password salt = .ok s)
    (sized : 8 ≤ salt.length ∧ salt.length ≤ 48) (candidate : String) :
    verify s.toText candidate = true ↔
      (utf8 candidate).length ≤ maxBytes ∧ defaultHash candidate salt = defaultHash password salt := by
  rw [verify, Stored.ofText?_toText (readable_of_store stored sized)]
  obtain ⟨-, rfl⟩ := store_eq_ok_iff.mp stored
  have length : (defaultHash password salt).length = hashLength := Argon2.length_hash (by decide) ..
  simp only [Stored.fits, length, Bool.and_eq_true, decide_eq_true_eq]
  exact Iff.rfl

end Password

end BearerAuth
