import Gleaner.Proofs.Json.Scalars
import Mathlib.Data.List.Induction

/-! # Reading lists and objects

    A reader of values is faithful to a relation of values if it takes what the relation
    has and nothing else. From a faithful reader of items the readers of lists and objects
    are faithful, one level deeper. The loops over items and members follow the relations
    `Items` and `Members` from comma to comma.

    An object is written member by member, and what comes out is the one object in which
    the last writing of each key stands.
-/

namespace Gleaner

/-- Keyed lists without repeated keys are equal if their keys and their values are. -/
theorem Keyed.eq_of_get? {α : Type u} {pairs others : Keyed α} (distinct : pairs.keys.Nodup)
    (keys : pairs.keys = others.keys) (values : ∀ key, pairs.get? key = others.get? key) :
    pairs = others := by
  induction pairs generalizing others with
  | nil => exact (List.map_eq_nil_iff.mp keys.symm).symm
  | cons pair pairs ih =>
    obtain ⟨key, value⟩ := pair
    cases others with
    | nil => cases keys
    | cons other others =>
      obtain ⟨key', value'⟩ := other
      obtain ⟨rfl, hkeys⟩ := List.cons.inj keys
      have hkeys : Keyed.keys pairs = Keyed.keys others := hkeys
      obtain ⟨fresh, distinct⟩ := List.nodup_cons.mp distinct
      have hvalue : value = value' := by
        have := values key
        simpa [Keyed.get?] using this
      have hpairs : pairs = others := by
        refine ih distinct hkeys fun other => ?_
        -- the first key is not among the others, so that its values tell nothing of theirs
        by_cases hother : key = other
        · subst hother
          rw [Keyed.get?_eq_none_iff.mpr fresh, Keyed.get?_eq_none_iff.mpr (hkeys ▸ fresh)]
        · have := values other
          simpa [Keyed.get?, hother] using this
      rw [hvalue, hpairs]

namespace Json

variable {s t rest after next : Text} {p : CodePoint} {document : Document}
  {item : Reader Document} {value : Text → Document → Text → Prop}

/-! ## Objects as they are written -/

/-- Members written one after the other make the object in which the last writing of each
    key stands. The induction goes on from the members written before. -/
theorem lastWritten_ofPairs (written : List (Text × Document)) :
    LastWritten written (Keyed.ofPairs written) := by
  induction written using List.reverseRecOn with
  | nil => exact ⟨rfl, fun _ => rfl⟩
  | append_singleton written pair ih =>
    obtain ⟨key, document⟩ := pair
    have hput : Keyed.ofPairs (written ++ [(key, document)]) =
        (Keyed.ofPairs written).put key document := by
      rw [Keyed.ofPairs, List.foldl_append]
      rfl
    have hmem : key ∈ Keyed.keys (Keyed.ofPairs written) ↔ key ∈ (written.map Prod.fst).reverse := by
      rw [ih.keys, List.mem_reverse, List.mem_dedup]
    rw [hput]
    constructor
    -- a key that was written before keeps its place, a new one comes last
    · rw [Keyed.keys_put, List.map_append, List.reverse_append, List.map_singleton,
        List.reverse_singleton, List.singleton_append]
      by_cases hkey : key ∈ (written.map Prod.fst).reverse
      · rw [if_pos (hmem.mpr hkey), List.dedup_cons_of_mem hkey, ih.keys]
      · rw [if_neg (fun h => hkey (hmem.mp h)), List.dedup_cons_of_notMem hkey, ih.keys,
          List.reverse_cons]
    · intro other
      rw [List.reverse_append, List.reverse_singleton, List.singleton_append, Keyed.get?]
      by_cases hother : key = other
      · rw [if_pos hother, ← hother, Keyed.get?_put_self]
      · rw [if_neg hother, Keyed.get?_put_of_ne (Ne.symm hother), ih.last]

/-- There is only one such object. -/
theorem lastWritten_iff {written members : List (Text × Document)} :
    LastWritten written members ↔ members = Keyed.ofPairs written := by
  constructor
  · intro h
    have other := lastWritten_ofPairs written
    refine Keyed.eq_of_get? ?_ (h.keys.trans other.keys.symm) fun key =>
      (h.last key).trans (other.last key).symm
    rw [h.keys]
    exact List.nodup_reverse.mpr (List.nodup_dedup _)
  · rintro rfl
    exact lastWritten_ofPairs written

/-! ## Faithful readers -/

/-- The reader takes the values, wherever a number may end, and nothing else. -/
structure Faithful (item : Reader Document) (value : Text → Document → Text → Prop) : Prop where
  sound : ∀ {s document rest}, Reads item s document rest → value s document rest
  complete : ∀ {s document rest}, value s document rest → NumberEnds rest →
    Reads item s document rest
  begins : ∀ {s document rest}, value s document rest → Begins s

/-! ## Items -/

theorem Items.of_blanks {all : List Document} (blanks : Blanks s after)
    (h : Items value after all rest) : Items value s all rest := by
  cases h with
  | last before itself behind => exact .last (blanks.trans before) itself behind
  | more before itself behind others => exact .more (blanks.trans before) itself behind others

/-- Items begin with a value, behind blanks. -/
theorem Items.exists_value (begins : ∀ {s document rest}, value s document rest → Begins s)
    {all : List Document} (h : Items value s all rest) :
    ∃ document after, value (skipBlanks s) document after ∧ NumberEnds after := by
  cases h with
  | @last _ start after rest item before itself behind =>
    rw [before.skipBlanks_eq, (begins itself).skipBlanks_eq]
    exact ⟨item, after, itself, (numberEnds_cons (by decide) rest).of_blanks behind⟩
  | @more _ start after next rest item others before itself behind =>
    rw [before.skipBlanks_eq, (begins itself).skipBlanks_eq]
    exact ⟨item, after, itself, (numberEnds_cons (by decide) next).of_blanks behind⟩

theorem Items.begins (begins : ∀ {s document rest}, value s document rest → Begins s)
    {all : List Document} (h : Items value s all rest) : Begins (skipBlanks s) := by
  obtain ⟨_, _, itself, -⟩ := h.exists_value begins
  exact begins itself

/-- What the loop does at a closing bracket and at a comma. -/
theorem items_close {before : List Document} (h : Reads item s document after)
    (hclose : skipBlanks after = .scalar ']' :: rest) :
    items item before s = .ok ((document :: before).reverse, rest) := by
  obtain ⟨shorter, h⟩ := h
  rw [items, h]
  dsimp only
  split
  · next heq =>
    obtain rfl := (List.cons.inj (hclose.symm.trans heq)).2
    rfl
  · next heq =>
    rw [hclose] at heq
    cases heq
  · next hno _ => exact (hno _ hclose).elim

theorem items_comma {before : List Document} (h : Reads item s document after)
    (hcomma : skipBlanks after = .scalar ',' :: next) :
    items item before s = items item (document :: before) (skipBlanks next) := by
  obtain ⟨shorter, h⟩ := h
  rw [items, h]
  dsimp only
  split
  · next heq =>
    rw [hcomma] at heq
    cases heq
  · next heq =>
    obtain rfl := (List.cons.inj (hcomma.symm.trans heq)).2
    rfl
  · next hno => exact (hno _ hcomma).elim

theorem exists_items (faithful : Faithful item value) {before all : List Document}
    (h : items item before s = .ok (all, rest)) :
    ∃ others, Items value s others rest ∧ all = before.reverse ++ others := by
  fun_induction items item before s with
  | case1 => cases h
  | case2 before s taken hread after hclose =>
    obtain ⟨rfl, rfl⟩ := Prod.mk.inj (Except.ok.inj h)
    have itself := faithful.sound ⟨taken.shorter, hread⟩
    exact ⟨[taken.value], .last (.refl s) itself (hclose ▸ blanks_skipBlanks taken.rest), by simp⟩
  | case3 before s taken hread after hcomma _ ih =>
    obtain ⟨others, hothers, rfl⟩ := ih h
    have itself := faithful.sound ⟨taken.shorter, hread⟩
    exact ⟨taken.value :: others, .more (.refl s) itself (hcomma ▸ blanks_skipBlanks taken.rest)
      (hothers.of_blanks (blanks_skipBlanks after)), by simp⟩
  | case4 => cases h

/-- The loop follows the items of the grammar. The induction is on them. -/
theorem items_of_items (faithful : Faithful item value) {all : List Document}
    (h : Items value s all rest) (before : List Document) :
    items item before (skipBlanks s) = .ok (before.reverse ++ all, rest) := by
  induction h generalizing before with
  | @last s start after rest document blanks itself behind =>
    have hstart : skipBlanks s = start :=
      blanks.skipBlanks_eq.trans (faithful.begins itself).skipBlanks_eq
    have hread := faithful.complete itself ((numberEnds_cons (by decide) rest).of_blanks behind)
    have hclose := behind.skipBlanks_eq.trans (skipBlanks_cons (by decide) rest)
    rw [hstart, items_close hread hclose, List.reverse_cons]
  | @more s start after next rest document others blanks itself behind _ ih =>
    have hstart : skipBlanks s = start :=
      blanks.skipBlanks_eq.trans (faithful.begins itself).skipBlanks_eq
    have hread := faithful.complete itself ((numberEnds_cons (by decide) next).of_blanks behind)
    have hcomma := behind.skipBlanks_eq.trans (skipBlanks_cons (by decide) next)
    rw [hstart, items_comma hread hcomma, ih, List.reverse_cons, List.append_assoc,
      List.singleton_append]

/-! ## Members -/

theorem Member.of_blanks {pair : Text × Document} (blanks : Blanks s after)
    (h : Member value after pair rest) : Member value s pair rest := by
  cases h with
  | mk before quoted behindKey beforeValue itself behind =>
    exact .mk (blanks.trans before) quoted behindKey beforeValue itself behind

theorem Members.of_blanks {all : List (Text × Document)} (blanks : Blanks s after)
    (h : Members value after all rest) : Members value s all rest := by
  cases h with
  | last itself => exact .last (itself.of_blanks blanks)
  | more itself others => exact .more (itself.of_blanks blanks) others

theorem Member.exists_quote {pair : Text × Document} (h : Member value s pair rest) :
    ∃ more, skipBlanks s = .scalar '\x22' :: more := by
  cases h with
  | mk before quoted =>
    rw [before.skipBlanks_eq, quoted.begins.skipBlanks_eq]
    cases quoted with
    | mk body => exact ⟨_, rfl⟩

/-- What is read as a member is one, with the blanks behind it. -/
theorem member_of_reads (faithful : Faithful item value) {pair : Text × Document}
    (h : Reads (member item) s pair after) (behind : Blanks after rest) :
    Member value s pair rest := by
  obtain ⟨shorter, h⟩ := h
  unfold member at h
  split at h
  · next more =>
    simp only [bind, Except.bind] at h
    split at h
    · cases h
    · next key hkey =>
      split at h
      · next colon hcolon =>
        split at h
        · cases h
        · next taken htaken =>
          obtain ⟨rfl, rfl⟩ := Taken.mk.inj (Except.ok.inj h)
          have quoted := reads_string_iff.mp ⟨key.shorter, hkey⟩
          have itself := faithful.sound ⟨taken.shorter, htaken⟩
          exact .mk (.refl _) quoted (hcolon ▸ blanks_skipBlanks key.rest)
            (blanks_skipBlanks colon) itself behind
      · cases h
  · cases h

/-- A member is read up to the blanks behind it, before a comma or a brace. -/
theorem exists_reads_member (faithful : Faithful item value) {pair : Text × Document}
    (h : Member value s pair (p :: rest)) (hblank : isBlank p = false)
    (ends : NumberEnds (p :: rest)) :
    ∃ after, Reads (member item) (skipBlanks s) pair after ∧ skipBlanks after = p :: rest := by
  cases h with
  | @mk start afterKey colon valueStart afterValue _ key document before quoted behindKey
      beforeValue itself behind =>
    have hstart : skipBlanks s = start :=
      before.skipBlanks_eq.trans quoted.begins.skipBlanks_eq
    have hcolon := behindKey.skipBlanks_eq.trans (skipBlanks_cons (by decide) colon)
    obtain rfl : skipBlanks colon = valueStart :=
      beforeValue.skipBlanks_eq.trans (faithful.begins itself).skipBlanks_eq
    obtain ⟨shorter, hread⟩ := faithful.complete itself (ends.of_blanks behind)
    refine ⟨afterValue, ?_, behind.skipBlanks_eq.trans (skipBlanks_cons hblank rest)⟩
    rw [hstart]
    cases quoted with
    | @mk more _ pieces body =>
      have hkey : Reads (string (.scalar '\x22' :: more)) more (decoded pieces) afterKey :=
        reads_string_iff.mpr (.mk body)
      obtain ⟨keyShorter, hkey⟩ := hkey
      -- what is left behind the key, the colon and the value is shorter each time
      have hlength := length_of_skipBlanks hcolon
      have hlength' := length_skipBlanks_le colon
      refine ⟨by rw [List.length_cons]; omega, ?_⟩
      simp only [member, bind, Except.bind, hkey]
      split
      · next heq =>
        obtain rfl := (List.cons.inj (hcolon.symm.trans heq)).2
        simp only [hread]
      · next hno => exact (hno _ hcolon).elim

/-- What the loop does at a closing brace and at a comma. -/
theorem members_close {before : Keyed Document} {pair : Text × Document}
    (h : Reads (member item) s pair after) (hclose : skipBlanks after = .scalar '\x7d' :: rest) :
    members item before s = .ok (before.put pair.1 pair.2, rest) := by
  obtain ⟨shorter, h⟩ := h
  rw [members, h]
  dsimp only
  split
  · next heq =>
    obtain rfl := (List.cons.inj (hclose.symm.trans heq)).2
    rfl
  · next heq =>
    rw [hclose] at heq
    cases heq
  · next hno _ => exact (hno _ hclose).elim

theorem members_comma {before : Keyed Document} {pair : Text × Document}
    (h : Reads (member item) s pair after) (hcomma : skipBlanks after = .scalar ',' :: next) :
    members item before s = members item (before.put pair.1 pair.2) (skipBlanks next) := by
  obtain ⟨shorter, h⟩ := h
  rw [members, h]
  dsimp only
  split
  · next heq =>
    rw [hcomma] at heq
    cases heq
  · next heq =>
    obtain rfl := (List.cons.inj (hcomma.symm.trans heq)).2
    rfl
  · next hno => exact (hno _ hcomma).elim

/-- Members written over those before. -/
def writeOver (before : Keyed Document) (written : List (Text × Document)) : Keyed Document :=
  written.foldl (fun members (key, document) => members.put key document) before

theorem exists_members (faithful : Faithful item value) {before all : Keyed Document}
    (h : members item before s = .ok (all, rest)) :
    ∃ written, Members value s written rest ∧ all = writeOver before written := by
  fun_induction members item before s with
  | case1 => cases h
  | case2 before s taken hread after hclose =>
    obtain ⟨rfl, rfl⟩ := Prod.mk.inj (Except.ok.inj h)
    have itself := member_of_reads faithful ⟨taken.shorter, hread⟩ (blanks_skipBlanks taken.rest)
    rw [hclose] at itself
    exact ⟨[taken.value], .last itself, rfl⟩
  | case3 before s taken hread after hcomma _ ih =>
    obtain ⟨written, hwritten, rfl⟩ := ih h
    have itself := member_of_reads faithful ⟨taken.shorter, hread⟩ (blanks_skipBlanks taken.rest)
    rw [hcomma] at itself
    exact ⟨taken.value :: written, .more itself (hwritten.of_blanks (blanks_skipBlanks after)), rfl⟩
  | case4 => cases h

/-- The loop follows the members of the grammar. The induction is on them. -/
theorem members_of_members (faithful : Faithful item value) {written : List (Text × Document)}
    (h : Members value s written rest) (before : Keyed Document) :
    members item before (skipBlanks s) = .ok (writeOver before written, rest) := by
  induction h generalizing before with
  | @last s rest pair itself =>
    obtain ⟨after, hread, hclose⟩ :=
      exists_reads_member faithful itself (by decide) (numberEnds_cons (by decide) rest)
    rw [members_close hread hclose]
    rfl
  | @more s next rest pair written itself _ ih =>
    obtain ⟨after, hread, hcomma⟩ :=
      exists_reads_member faithful itself (by decide) (numberEnds_cons (by decide) next)
    rw [members_comma hread hcomma, ih]
    rfl

/-! ## Lists and objects -/

theorem compound_of_reads_array (faithful : Faithful item value)
    (h : Reads (array item) s document rest) : Compound value (.scalar '[' :: s) document rest := by
  obtain ⟨shorter, h⟩ := h
  unfold array at h
  split at h
  · next hclose =>
    obtain ⟨rfl, rfl⟩ := Taken.mk.inj (Except.ok.inj h)
    exact .emptyArray (hclose ▸ blanks_skipBlanks s)
  · split at h
    · next hitems =>
      obtain ⟨rfl, rfl⟩ := Taken.mk.inj (Except.ok.inj h)
      obtain ⟨all, hall, rfl⟩ := exists_items faithful hitems
      exact .array (hall.of_blanks (blanks_skipBlanks s))
    · cases h

theorem compound_of_reads_object (faithful : Faithful item value)
    (h : Reads (object item) s document rest) :
    Compound value (.scalar '\x7b' :: s) document rest := by
  obtain ⟨shorter, h⟩ := h
  unfold object at h
  split at h
  · next hclose =>
    obtain ⟨rfl, rfl⟩ := Taken.mk.inj (Except.ok.inj h)
    exact .emptyObject (hclose ▸ blanks_skipBlanks s)
  · split at h
    · next hmembers =>
      obtain ⟨rfl, rfl⟩ := Taken.mk.inj (Except.ok.inj h)
      obtain ⟨written, hwritten, rfl⟩ := exists_members faithful hmembers
      exact .object (hwritten.of_blanks (blanks_skipBlanks s)) (lastWritten_ofPairs written)
    · cases h

theorem reads_array_empty (h : Blanks s (.scalar ']' :: rest)) :
    Reads (array item) s (.array []) rest := by
  have hclose := h.skipBlanks_eq.trans (skipBlanks_cons (by decide) rest)
  refine ⟨length_of_skipBlanks hclose, ?_⟩
  unfold array
  split
  · next heq =>
    obtain rfl := (List.cons.inj (hclose.symm.trans heq)).2
    rfl
  · next hno => exact (hno _ hclose).elim

theorem reads_object_empty (h : Blanks s (.scalar '\x7d' :: rest)) :
    Reads (object item) s (.object []) rest := by
  have hclose := h.skipBlanks_eq.trans (skipBlanks_cons (by decide) rest)
  refine ⟨length_of_skipBlanks hclose, ?_⟩
  unfold object
  split
  · next heq =>
    obtain rfl := (List.cons.inj (hclose.symm.trans heq)).2
    rfl
  · next hno => exact (hno _ hclose).elim

theorem reads_array_of_items (faithful : Faithful item value) {all : List Document}
    (h : Items value s all rest) : Reads (array item) s (.array all) rest := by
  have hitems : items item [] (skipBlanks s) = .ok (all, rest) := items_of_items faithful h []
  refine ⟨Nat.lt_of_lt_of_le (length_of_items hitems) (length_skipBlanks_le s), ?_⟩
  unfold array
  split
  · next heq =>
    -- a value stands at the head of the items, and none begins with a closing bracket
    have hbegins := h.begins faithful.begins
    rw [heq] at hbegins
    exact absurd (begins_cons_iff.mp hbegins) (by decide)
  · split
    · next heq =>
      obtain ⟨rfl, rfl⟩ := Prod.mk.inj (Except.ok.inj (hitems.symm.trans heq))
      rfl
    · next heq =>
      rw [hitems] at heq
      cases heq

theorem reads_object_of_members (faithful : Faithful item value) {written : List (Text × Document)}
    (h : Members value s written rest) :
    Reads (object item) s (.object (Keyed.ofPairs written)) rest := by
  have hmembers : members item [] (skipBlanks s) = .ok (Keyed.ofPairs written, rest) :=
    members_of_members faithful h []
  have hquote : ∃ more, skipBlanks s = .scalar '\x22' :: more := by
    cases h with
    | last itself => exact itself.exists_quote
    | more itself others => exact itself.exists_quote
  refine ⟨Nat.lt_of_lt_of_le (length_of_members hmembers) (length_skipBlanks_le s), ?_⟩
  unfold object
  split
  · next heq =>
    obtain ⟨more, hmore⟩ := hquote
    rw [hmore] at heq
    cases heq
  · split
    · next heq =>
      obtain ⟨rfl, rfl⟩ := Prod.mk.inj (Except.ok.inj (hmembers.symm.trans heq))
      rfl
    · next heq =>
      rw [hmembers] at heq
      cases heq

theorem Compound.begins (h : Compound value s document rest) : Begins s := by
  cases h <;> exact begins_cons_iff.mpr (by decide)

/-! ## Values -/

/-- A reader of values whose items and members are read faithfully takes scalars, and lists
    and objects if they may nest. -/
theorem of_reads_value {inner : Option (Reader Document)}
    (faithful : ∀ item ∈ inner, Faithful item value)
    (h : Reads (Json.value false inner) s document rest) :
    Scalar Text.digitLimit s document rest ∨
      inner.isSome = true ∧ Compound value s document rest := by
  obtain ⟨shorter, h⟩ := h
  unfold Json.value at h
  split at h
  · next more =>
    left
    obtain ⟨taken, hread, htaken⟩ := map_eq_ok_iff.mp h
    obtain ⟨rfl, rfl⟩ := Taken.mk.inj htaken
    exact .string (reads_string_iff.mp ⟨taken.shorter, hread⟩)
  · next more =>
    right
    split at h
    · cases h
    · next item =>
      obtain ⟨taken, hread, htaken⟩ := map_eq_ok_iff.mp h
      obtain ⟨rfl, rfl⟩ := Taken.mk.inj htaken
      exact ⟨rfl, compound_of_reads_array (faithful item rfl) ⟨taken.shorter, hread⟩⟩
  · next more =>
    right
    split at h
    · cases h
    · next item =>
      obtain ⟨taken, hread, htaken⟩ := map_eq_ok_iff.mp h
      obtain ⟨rfl, rfl⟩ := Taken.mk.inj htaken
      exact ⟨rfl, compound_of_reads_object (faithful item rfl) ⟨taken.shorter, hread⟩⟩
  · exact .inl (scalar_of_reads ⟨shorter, h⟩)

/-- What begins with neither quote nor bracket is left to the reader of scalars. -/
theorem reads_value_of_head {inner : Option (Reader Document)}
    (h : Reads (scalar false) (p :: s) document rest)
    (head : p ≠ .scalar '\x22' ∧ p ≠ .scalar '[' ∧ p ≠ .scalar '\x7b') :
    Reads (Json.value false inner) (p :: s) document rest := by
  obtain ⟨shorter, h⟩ := h
  obtain ⟨noQuote, noBracket, noBrace⟩ := head
  refine ⟨shorter, ?_⟩
  rw [Json.value]
  · exact h
  · exact fun _ heq => noQuote (List.cons.inj heq).1
  · exact fun _ heq => noBracket (List.cons.inj heq).1
  · exact fun _ heq => noBrace (List.cons.inj heq).1

theorem reads_value_scalar {inner : Option (Reader Document)}
    (h : Scalar Text.digitLimit s document rest) (ends : NumberEnds rest) :
    Reads (Json.value false inner) s document rest := by
  cases h with
  | null => exact reads_value_of_head (reads_scalar_of_takeWord? (takeWord?_null rest)) (by decide)
  | true => exact reads_value_of_head (reads_scalar_of_takeWord? (takeWord?_true rest)) (by decide)
  | false => exact reads_value_of_head (reads_scalar_of_takeWord? (takeWord?_false rest)) (by decide)
  | @number numeral _ _ stands short =>
    have hdigit : ∀ digit : Fin 10, CodePoint.scalar (Nat.digitChar digit) ≠ .scalar '\x22' ∧
        CodePoint.scalar (Nat.digitChar digit) ≠ .scalar '[' ∧
        CodePoint.scalar (Nat.digitChar digit) ≠ .scalar '\x7b' := by
      decide
    have hread := reads_scalar_numeral stands short ends
    obtain ⟨digit, more, htext⟩ := numeral.exists_digit rest
    rw [htext] at hread ⊢
    cases hsign : numeral.negative with
    | true =>
      rw [hsign] at hread
      exact reads_value_of_head hread (by decide)
    | false =>
      rw [hsign] at hread
      exact reads_value_of_head hread (hdigit digit)
  | string quoted =>
    cases quoted with
    | @mk more _ pieces body =>
      have hstring : Reads (string (.scalar '\x22' :: more)) more (decoded pieces) rest :=
        reads_string_iff.mpr (.mk body)
      obtain ⟨shorter, hstring⟩ := hstring
      refine ⟨Nat.lt_succ_of_lt shorter, ?_⟩
      simp only [Json.value, hstring]
      rfl

theorem reads_value_array (h : Reads (array item) s document rest) :
    Reads (Json.value false (some item)) (.scalar '[' :: s) document rest := by
  obtain ⟨shorter, h⟩ := h
  refine ⟨Nat.lt_succ_of_lt shorter, ?_⟩
  simp only [Json.value, h]
  rfl

theorem reads_value_object (h : Reads (object item) s document rest) :
    Reads (Json.value false (some item)) (.scalar '\x7b' :: s) document rest := by
  obtain ⟨shorter, h⟩ := h
  refine ⟨Nat.lt_succ_of_lt shorter, ?_⟩
  simp only [Json.value, h]
  rfl

theorem reads_value_compound (faithful : Faithful item value)
    (h : Compound value s document rest) :
    Reads (Json.value false (some item)) s document rest := by
  cases h with
  | emptyArray blanks => exact reads_value_array (reads_array_empty blanks)
  | array itself => exact reads_value_array (reads_array_of_items faithful itself)
  | emptyObject blanks => exact reads_value_object (reads_object_empty blanks)
  | object itself lastWritten =>
    rw [lastWritten_iff.mp lastWritten]
    exact reads_value_object (reads_object_of_members faithful itself)

/-- Without nesting, the values are the scalars. -/
theorem faithful_scalar : Faithful (Json.value false none) (Scalar Text.digitLimit) where
  sound h := by
    have hnone : ∀ item ∈ (none : Option (Reader Document)),
        Faithful item (Scalar Text.digitLimit) := by
      simp
    rcases of_reads_value hnone h with scalar | ⟨nested, -⟩
    · exact scalar
    · cases nested
  complete h ends := reads_value_scalar h ends
  begins h := h.begins

/-- From a faithful reader of items, one level of nesting more. -/
theorem Faithful.nested (faithful : Faithful item value) :
    Faithful (Json.value false (some item)) fun s document rest =>
      Scalar Text.digitLimit s document rest ∨ Compound value s document rest where
  sound h := by
    have hsome : ∀ other ∈ some item, Faithful other value := by
      simpa using faithful
    exact (of_reads_value hsome h).imp id And.right
  complete h ends := by
    rcases h with scalar | compound
    · exact reads_value_scalar scalar ends
    · exact reads_value_compound faithful compound
  begins h := h.elim Scalar.begins Compound.begins

end Json

end Gleaner
