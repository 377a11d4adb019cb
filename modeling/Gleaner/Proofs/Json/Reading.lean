import Gleaner.Deserializer
import Gleaner.Proofs.Json.Refusals

/-! # Reading JSON content

    The deserializer reads JSON text and nothing else. It reads all of it that nests at most
    500 levels and whose integers have at most 4300 digits, and what it does not read it
    refuses as unreadable.
-/

namespace Gleaner.Json

variable {t : Text} {document : Document}

/-- The text is unreadable for the deserializer, for some reason that it gives. -/
def Refused (t : Text) : Prop :=
  ∃ reason, Deserializer.json (.string t) = .ended (.error (.unreadable reason))

theorem json_eq_ok_iff :
    Deserializer.json (.string t) = .ended (.ok document) ↔
      Denotes Text.digitLimit depthLimit t document := by
  rw [← read_eq_ok_iff, ← mapError_eq_ok_iff]
  exact ⟨fun h => Attempt.ended.inj h, congrArg Attempt.ended⟩

/-- Each text is read or refused. -/
theorem exists_json_eq_ok_or_refused (t : Text) :
    (∃ document, Deserializer.json (.string t) = .ended (.ok document)) ∨ Refused t := by
  have hjson : Deserializer.json (.string t) =
      .ended ((read t).mapError Deserializer.unreadable) := rfl
  cases hread : read t with
  | ok document =>
    rw [hread] at hjson
    exact .inl ⟨document, hjson⟩
  | error error =>
    rw [hread] at hjson
    exact .inr ⟨error.message, hjson⟩

theorem refused_of_not_denotes (h : ∀ document, ¬ Denotes Text.digitLimit depthLimit t document) :
    Refused t := by
  rcases exists_json_eq_ok_or_refused t with ⟨document, hread⟩ | refused
  · exact absurd (json_eq_ok_iff.mp hread) (h document)
  · exact refused

/-- The deserializer reads JSON and nothing else: what it reads is what the text denotes, it
    reads all texts of moderate nesting and with moderate integers, and it refuses all others
    as unreadable, among them those with a byte order mark and those that are broken at some
    depth. -/
theorem json_reads_exactly (t : Text) :
    (∀ document, Deserializer.json (.string t) = .ended (.ok document) →
      ∃ limit depth, Denotes limit depth t document) ∧
    (∀ document, Denotes 4300 500 t document →
      Deserializer.json (.string t) = .ended (.ok document)) ∧
    ((∃ document, Deserializer.json (.string t) = .ended (.ok document)) ∨ Refused t) ∧
    (∀ more, t = .scalar '\ufeff' :: more → Refused t) ∧
    (∀ start depth, Blanks t start → Broken 4300 depth start → Refused t) := by
  refine ⟨?_, ?_, exists_json_eq_ok_or_refused t, ?_, ?_⟩
  · intro document hread
    exact ⟨Text.digitLimit, depthLimit, json_eq_ok_iff.mp hread⟩
  · intro document denotes
    exact json_eq_ok_iff.mpr (denotes.mono (by decide))
  · rintro more rfl
    exact refused_of_not_denotes fun document => not_denotes_byteOrderMark
  · intro start depth before broken
    exact refused_of_not_denotes fun document => not_denotes_of_broken before broken

/-- A pair of escapes and a negative zero, a byte order mark, and a comma before a bracket. -/
theorem json_reads_clef :
    Deserializer.json (.string (Text.ofString "[\x22\\ud834\\udd1e\x22, -0]")) =
        .ended (.ok (.array [.string [.ofNat 0x1d11e], .int 0])) ∧
      (∃ limit depth, Denotes limit depth (Text.ofString "[\x22\\ud834\\udd1e\x22, -0]")
        (.array [.string [.ofNat 0x1d11e], .int 0])) ∧
      Refused (.scalar '\ufeff' :: Text.ofString "0") ∧ Refused (Text.ofString "[-0,]") := by
  have hex : ∀ n < 16, Hex (.scalar (Nat.digitChar n)) n := fun n lt => ⟨lt, .inl rfl⟩
  have clef : Quoted (Text.ofString "\x22\\ud834\\udd1e\x22, -0]") [.ofNat 0x1d11e]
      (Text.ofString ", -0]") :=
    .mk (.piece (.unit (.mk (hex 13 (by decide)) (hex 8 (by decide)) (hex 3 (by decide))
        (hex 4 (by decide))))
      (.piece (.unit (.mk (hex 13 (by decide)) (hex 13 (by decide)) (hex 1 (by decide))
        (hex 14 (by decide)))) .close))
  have zero : ∀ rest, Scalar 4300 (Text.ofString "-0" ++ rest) (.int 0) rest := fun rest =>
    .number (.integer ⟨rfl, rfl⟩ : Numeral.Stands ⟨true, [0], none, none, by decide, by simp,
      by simp⟩ (.int 0)) (by simp)
  have denotes : Denotes 4300 500 (Text.ofString "[\x22\\ud834\\udd1e\x22, -0]")
      (.array [.string [.ofNat 0x1d11e], .int 0]) := by
    have value : Value 4300 1 (Text.ofString "[\x22\\ud834\\udd1e\x22, -0]")
        (.array [.string [.ofNat 0x1d11e], .int 0]) [] :=
      .inr (.array (.more (.refl _) (.string clef) (.refl _)
        (.last ⟨[.scalar ' '], by simp [IsBlank], rfl⟩ (zero (Text.ofString "]")) (.refl _))))
    exact ⟨_, [], .refl _, value.mono (by decide), .refl []⟩
  have broken : Broken 4300 1 (Text.ofString "[-0,]") :=
    .inr (.array (.comma (.refl _) (zero (Text.ofString ",]")) (.refl _) (.refl _)))
  have hread := (json_reads_exactly _).2.1 _ denotes
  exact ⟨hread, (json_reads_exactly _).1 _ hread, (json_reads_exactly _).2.2.2.1 _ rfl,
    (json_reads_exactly _).2.2.2.2 _ 1 (.refl _) broken⟩

end Gleaner.Json
