import Gleaner.Text.Lowercase

/-! # Lower case is reached in one pass

    The lower case of a text is its own lower case. The small letter of a capital is in no
    run of capitals, and neither the dotted capital I nor the capital sigma, which have rules
    of their own, comes out of any rule. A sigma that was made final is a small letter like
    the others, so a second pass does not look at the words around it.
-/

namespace Gleaner

/-! ## Capitals and their small letters -/

namespace CapitalRun

/-- A number that is one of the capitals of a run. -/
def Holds (run : CapitalRun) (n : Nat) : Prop :=
  run.first ≤ n ∧ n ≤ run.last ∧ (n - run.first) % run.step = 0

instance (run : CapitalRun) (n : Nat) : Decidable (run.Holds n) :=
  inferInstanceAs (Decidable (_ ∧ _ ∧ _))

/-- The first and the last small letter of a run. -/
def low (run : CapitalRun) : Nat := (run.first + run.shift).toNat

def high (run : CapitalRun) : Nat := (run.last + run.shift).toNat

/-- The small letters of the first run are no capitals of the second: they lie before or
    behind it, or fall into its gaps. -/
def apart (run other : CapitalRun) : Bool :=
  run.high.blt other.first || other.last.blt run.low ||
    (other.step == 2 && (run.step == 2 || run.first == run.last) &&
      (run.low + other.first) % 2 == 1)

variable {run other : CapitalRun} {n : Nat}

theorem not_holds_of_apart (h : run.apart other = true) (holds : run.Holds n)
    (inRange : 0 ≤ run.first + run.shift) : ¬ other.Holds (n + run.shift).toNat := by
  intro hother
  obtain ⟨hfirst, hlast, hstep⟩ := holds
  obtain ⟨hfirst', hlast', hstep'⟩ := hother
  simp only [apart, low, high, Bool.or_eq_true, Bool.and_eq_true, Nat.blt_eq, beq_iff_eq] at h
  rcases h with (hbefore | hbehind) | ⟨⟨htwo, hrun⟩, hodd⟩
  · omega
  · omega
  · -- the small letters are an odd distance from the first capital of the other run
    rw [htwo] at hstep'
    rcases hrun with hstep2 | hsingle
    · rw [hstep2] at hstep
      omega
    · omega

end CapitalRun

namespace CodePoint

variable {p : CodePoint}

/-- The number of a code point can be any number below 0x110000. -/
theorem toNat_ofNat {n : Nat} (h : n < 0x110000) : (ofNat n).toNat = n := by
  unfold ofNat
  split
  · next hsurrogate =>
    show 0xD800 + (n - 0xD800) = n
    omega
  · next hscalar =>
    have hvalid : n.isValidChar := by
      unfold Nat.isValidChar
      omega
    show (Char.ofNat n).toNat = n
    rw [Char.ofNat, dif_pos hvalid]
    rfl

theorem apart_of_mem {run other : CapitalRun} (h : run ∈ capitalRuns)
    (hother : other ∈ capitalRuns) : run.apart other = true := by
  have hall : (capitalRuns.all fun run => capitalRuns.all run.apart) = true := by
    decide +kernel
  rw [List.all_eq_true] at hall
  exact List.all_eq_true.mp (hall run h) other hother

/-- Small letters have numbers of code points, and none is the dotted capital I. -/
theorem range_of_mem : ∀ run ∈ capitalRuns,
    0 ≤ run.first + run.shift ∧ run.last + run.shift < 0x110000 ∧
      (run.last + run.shift < 0x130 ∨ 0x130 < run.first + run.shift) := by
  decide +kernel

/-- A code point that the rules of lower case leave alone. -/
def Settled (p : CodePoint) : Prop :=
  p.toNat ≠ 0x130 ∧ ∀ run ∈ capitalRuns, ¬ run.Holds p.toNat

instance (p : CodePoint) : Decidable p.Settled := inferInstanceAs (Decidable (_ ∧ _))

theorem small_cases (p : CodePoint) :
    (∃ run ∈ capitalRuns, run.Holds p.toNat ∧ p.small = ofNat (p.toNat + run.shift).toNat) ∨
      (p.small = p ∧ ∀ run ∈ capitalRuns, ¬ run.Holds p.toNat) := by
  simp only [small]
  split
  · next run hfound =>
    have hholds := List.find?_some hfound
    simp only [Bool.and_eq_true, decide_eq_true_eq, beq_iff_eq] at hholds
    exact .inl ⟨run, List.mem_of_find?_eq_some hfound,
      ⟨hholds.1.1, hholds.1.2, hholds.2⟩, rfl⟩
  · next hnone =>
    refine .inr ⟨rfl, fun run hrun hholds => ?_⟩
    have hnot := List.find?_eq_none.mp hnone run hrun
    simp only [Bool.and_eq_true, decide_eq_true_eq, beq_iff_eq] at hnot
    exact hnot ⟨⟨hholds.1, hholds.2.1⟩, hholds.2.2⟩

theorem Settled.small_eq (h : p.Settled) : p.small = p := by
  rcases small_cases p with ⟨run, hrun, hholds, -⟩ | ⟨hsame, -⟩
  · exact absurd hholds (h.2 run hrun)
  · exact hsame

theorem Settled.ne_sigma (h : p.Settled) : p.toNat ≠ 0x3a3 := by
  intro heq
  have hcapital : ∃ run ∈ capitalRuns, run.Holds 0x3a3 := by decide
  obtain ⟨run, hrun, hholds⟩ := hcapital
  exact h.2 run hrun (heq ▸ hholds)

theorem settled_small (h : p.toNat ≠ 0x130) : p.small.Settled := by
  rcases small_cases p with ⟨run, hrun, hholds, hsmall⟩ | ⟨hsame, hnone⟩
  · obtain ⟨hlow, hhigh, hdotted⟩ := range_of_mem run hrun
    have hfirst := hholds.1
    have hlast := hholds.2.1
    have hnumber : p.small.toNat = (p.toNat + run.shift).toNat := by
      rw [hsmall]
      exact toNat_ofNat (by omega)
    refine ⟨by omega, fun other hother => ?_⟩
    rw [hnumber]
    exact CapitalRun.not_holds_of_apart (apart_of_mem hrun hother) hholds hlow
  · rw [hsame]
    exact ⟨h, hnone⟩

end CodePoint

/-! ## Texts -/

namespace Text

variable {text : Text} {p : CodePoint}

theorem lowercaseFrom_of_settled (afterCased : Bool) (h : ∀ p ∈ text, p.Settled) :
    lowercaseFrom afterCased text = text := by
  induction text generalizing afterCased with
  | nil => rfl
  | cons p rest ih =>
    obtain ⟨hp, hrest⟩ := List.forall_mem_cons.mp h
    rw [lowercaseFrom, if_neg hp.1, if_neg hp.ne_sigma, hp.small_eq, ih _ hrest]
    rfl

/-- Every code point of a text in lower case is settled. -/
theorem settled_of_mem_lowercaseFrom (afterCased : Bool)
    (h : p ∈ lowercaseFrom afterCased text) : p.Settled := by
  induction text generalizing afterCased with
  | nil => cases h
  | cons a rest ih =>
    rw [lowercaseFrom, List.mem_append] at h
    rcases h with hhere | hrest
    · split at hhere
      · -- the dotted capital I goes over into a small i and a dot
        simp only [List.mem_cons, List.not_mem_nil, or_false] at hhere
        rcases hhere with rfl | rfl <;> decide +kernel
      · next hdotted =>
        split at hhere
        · obtain rfl := List.mem_singleton.mp hhere
          split <;> decide +kernel
        · obtain rfl := List.mem_singleton.mp hhere
          exact CodePoint.settled_small hdotted
    · exact ih _ hrest

/-- **Lower case is reached in one pass.** -/
theorem lowercase_lowercase (text : Text) : lowercase (lowercase text) = lowercase text :=
  lowercaseFrom_of_settled false fun _ hp => settled_of_mem_lowercaseFrom false hp

/-- A sigma at the end of a word is made final. -/
example : lowercase "ΣΑΣ ΣΣ" = "σας σς" := by decide +kernel

end Text

end Gleaner
