/-! # Taking something off the head of a list

    A reader takes a value off the head of a list of code points or tokens and says
    what is left. What is left is always shorter, and the type says so: the loops of
    the readers end for that reason.

    What goes on from a value, such as more names after a comma, may also be absent.
    Then nothing is taken, and what is left is only known to be no longer.
-/

namespace Gleaner

/-- A value taken off the head of `s`, and the shorter list that is left. -/
structure Taken (α : Type) {σ : Type} (s : List σ) where
  value   : α
  rest    : List σ
  shorter : rest.length < s.length

/-- A value read at the head of `s`, perhaps without taking anything, and the list
    that is left. -/
structure Continued (α : Type) {σ : Type} (s : List σ) where
  value     : α
  rest      : List σ
  notLonger : rest.length ≤ s.length

variable {α β σ : Type} {s t : List σ}

/-! ## Taking -/

namespace Taken

/-- What is taken from a list that is no longer, such as a tail, is taken from the
    list. -/
def after (h : s.length ≤ t.length) (taken : Taken α s) : Taken α t :=
  ⟨taken.value, taken.rest, Nat.lt_of_lt_of_le taken.shorter h⟩

/-- A value in place of the head of a list. -/
def head {a : σ} (value : α) (rest : List σ) : Taken α (a :: rest) :=
  ⟨value, rest, Nat.lt_succ_self _⟩

/-- What is taken from a list is taken from the list with another head. -/
def push {a : σ} (taken : Taken α s) : Taken α (a :: s) :=
  ⟨taken.value, taken.rest, Nat.lt_succ_of_lt taken.shorter⟩

/-- One taking after another. -/
def andThen (first : Taken α s) (next : Taken β first.rest) : Taken β s :=
  ⟨next.value, next.rest, Nat.lt_trans next.shorter first.shorter⟩

/-- A taking and what goes on from it. -/
def andOn (first : Taken α s) (next : Continued β first.rest) : Taken β s :=
  ⟨next.value, next.rest, Nat.lt_of_le_of_lt next.notLonger first.shorter⟩

/-- The same taking with another value. -/
def map (f : α → β) (taken : Taken α s) : Taken β s :=
  ⟨f taken.value, taken.rest, taken.shorter⟩

/-- A taking that need not have taken anything. -/
def weaken (taken : Taken α s) : Continued α s :=
  ⟨taken.value, taken.rest, Nat.le_of_lt taken.shorter⟩

end Taken

/-! ## Going on -/

namespace Continued

/-- Nothing is taken. -/
def stop (value : α) (s : List σ) : Continued α s := ⟨value, s, Nat.le_refl _⟩

/-- What is read after the head of a list is taken from the list. -/
def taken {a : σ} (read : Continued α s) : Taken α (a :: s) :=
  ⟨read.value, read.rest, Nat.lt_succ_of_le read.notLonger⟩

/-- A taking after what was read. -/
def andThen (read : Continued α s) (next : Taken β read.rest) : Taken β s :=
  next.after read.notLonger

/-- The same reading with another value. -/
def map (f : α → β) (read : Continued α s) : Continued β s :=
  ⟨f read.value, read.rest, read.notLonger⟩

end Continued

end Gleaner
