import Gleaner.Proofs.Json.Compounds

/-! # Reading values and whole texts

    The reader at each depth is faithful to the values that nest so deep, by induction on
    the depth. The grammar is therefore unambiguous, and a whole text is read as a document
    exactly if it denotes it within the reader's bounds.
-/

namespace Gleaner.Json

variable {s t rest after : Text} {document : Document} {limit depth : Nat}
  {value wider : Text → Document → Text → Prop}

/-! ## More nesting -/

section Wider

variable (wide : ∀ {s document rest}, value s document rest → wider s document rest)

include wide

theorem Items.mono {all : List Document} (h : Items value s all rest) : Items wider s all rest := by
  induction h with
  | last before itself behind => exact .last before (wide itself) behind
  | more before itself behind _ ih => exact .more before (wide itself) behind ih

theorem Member.mono {pair : Text × Document} (h : Member value s pair rest) :
    Member wider s pair rest := by
  cases h with
  | mk before quoted behindKey beforeValue itself behind =>
    exact .mk before quoted behindKey beforeValue (wide itself) behind

theorem Members.mono {all : List (Text × Document)} (h : Members value s all rest) :
    Members wider s all rest := by
  induction h with
  | last itself => exact .last (itself.mono wide)
  | more itself _ ih => exact .more (itself.mono wide) ih

theorem Compound.mono (h : Compound value s document rest) : Compound wider s document rest := by
  cases h with
  | emptyArray blanks => exact .emptyArray blanks
  | array itself => exact .array (itself.mono wide)
  | emptyObject blanks => exact .emptyObject blanks
  | object itself lastWritten => exact .object (itself.mono wide) lastWritten

end Wider

theorem Value.succ (h : Value limit depth s document rest) :
    Value limit (depth + 1) s document rest := by
  induction depth generalizing s document rest with
  | zero => exact .inl h
  | succ depth ih => exact h.imp id (Compound.mono ih)

theorem Value.mono {deeper : Nat} (le : depth ≤ deeper) (h : Value limit depth s document rest) :
    Value limit deeper s document rest := by
  induction le with
  | refl => exact h
  | step _ ih => exact ih.succ

/-! ## Values -/

/-- At each depth the reader takes the values of that depth, and nothing else. -/
theorem faithful_valueAt (depth : Nat) :
    Faithful (valueAt false depth) (Value Text.digitLimit depth) := by
  induction depth with
  | zero => exact faithful_scalar
  | succ depth ih => exact ih.nested

theorem Reads.unique {α : Type} {reader : Reader α} {a b : α} (h : Reads reader s a rest)
    (other : Reads reader s b after) : a = b ∧ rest = after := by
  obtain ⟨_, h⟩ := h
  obtain ⟨_, other⟩ := other
  obtain ⟨rfl, rfl⟩ := Taken.mk.inj (Except.ok.inj (h.symm.trans other))
  exact ⟨rfl, rfl⟩

/-- A relation that has a faithful reader is unambiguous. -/
theorem Faithful.unique {item : Reader Document} {other : Document}
    (faithful : Faithful item value) (h : value s document rest) (ends : NumberEnds rest)
    (h' : value s other after) (ends' : NumberEnds after) : document = other ∧ rest = after :=
  (faithful.complete h ends).unique (faithful.complete h' ends')

/-! ## Whole texts -/

theorem Denotes.mono {deeper : Nat} (le : depth ≤ deeper) (h : Denotes limit depth t document) :
    Denotes limit deeper t document := by
  obtain ⟨start, rest, before, itself, behind⟩ := h
  exact ⟨start, rest, before, itself.mono le, behind⟩

/-- A text with a byte order mark is no blank and no value. -/
theorem not_denotes_byteOrderMark :
    ¬ Denotes Text.digitLimit depth (.scalar '\ufeff' :: s) document := by
  rintro ⟨start, rest, before, itself, -⟩
  -- the mark is no blank, so that the value would begin with it
  have hstart : .scalar '\ufeff' :: s = start := by
    rw [← ((faithful_valueAt depth).begins itself).skipBlanks_eq, ← before.skipBlanks_eq,
      skipBlanks_cons (by decide)]
  have hbegins := (faithful_valueAt depth).begins itself
  rw [← hstart, begins_cons_iff] at hbegins
  exact absurd hbegins (by decide)

theorem wholeText_eq_ok_iff :
    wholeText false t = .ok document ↔ Denotes Text.digitLimit depthLimit t document := by
  have faithful := faithful_valueAt depthLimit
  unfold wholeText
  split
  · next more =>
    constructor
    · intro h
      cases h
    · intro h
      exact absurd h not_denotes_byteOrderMark
  · constructor
    · intro h
      simp only [bind, Except.bind] at h
      split at h
      · cases h
      · next taken htaken =>
        split at h
        · next hnil =>
          obtain rfl := Except.ok.inj h
          exact ⟨skipBlanks t, taken.rest, blanks_skipBlanks t, faithful.sound ⟨_, htaken⟩,
            hnil ▸ blanks_skipBlanks taken.rest⟩
        · cases h
    · rintro ⟨start, rest, before, itself, behind⟩
      obtain ⟨shorter, hread⟩ := faithful.complete itself (numberEnds_nil.of_blanks behind)
      obtain rfl : skipBlanks t = start :=
        before.skipBlanks_eq.trans (faithful.begins itself).skipBlanks_eq
      have hnil : skipBlanks rest = [] := behind.skipBlanks_eq
      simp only [bind, Except.bind, hread, hnil]

theorem mapError_eq_ok_iff {ε ε' α : Type} {f : ε → ε'} {x : Except ε α} {a : α} :
    x.mapError f = .ok a ↔ x = .ok a := by
  cases x <;> simp [Except.mapError]

/-- What is read is what the text denotes within the bounds on digits and on nesting. -/
theorem read_eq_ok_iff :
    read t = .ok document ↔ Denotes Text.digitLimit depthLimit t document :=
  mapError_eq_ok_iff.trans wholeText_eq_ok_iff

end Gleaner.Json
