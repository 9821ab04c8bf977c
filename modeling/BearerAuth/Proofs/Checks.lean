/-! # Checks before the rest

Work that may be refused begins with its checks, one after the other. What it comes to is the refusal of the
first check that refuses, or else what the rest comes to.
-/

namespace BearerAuth

variable {ε α : Type} {c : Prop} [Decidable c] {e : ε} {rest : Except ε α}

/-- What holds of a refusal and of the rest holds of a check before the rest. -/
theorem check_cases {holds : Except ε α → Prop} (refused : c → holds (.error e)) (passed : ¬c → holds rest) :
    holds (if c then throw e >>= fun _ : PUnit => rest else rest) := by
  split
  · exact refused ‹c›
  · exact passed ‹¬c›

/-- A check that refuses comes before the rest, so a result is one of the rest and has passed it. -/
theorem passed_iff {a : α} :
    (if c then throw e >>= fun _ : PUnit => rest else rest) = .ok a ↔ ¬c ∧ rest = .ok a := by
  split
  · constructor
    · intro found
      cases found
    · rintro ⟨free, -⟩
      contradiction
  · simp only [*, not_false_eq_true, true_and]

/-- A refusal is that of the check, or one of the rest. -/
theorem refused_iff {refusal : ε} :
    (if c then throw e >>= fun _ : PUnit => rest else rest) = .error refusal ↔
      c ∧ e = refusal ∨ ¬c ∧ rest = .error refusal := by
  split
  · rename_i checked
    have thrown : (throw e >>= fun _ : PUnit => rest) = .error e := rfl
    simp [thrown, checked]
  · simp only [*, not_false_eq_true, true_and, false_and, false_or]

end BearerAuth
