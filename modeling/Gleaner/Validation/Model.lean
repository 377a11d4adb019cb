import Gleaner.Validation.Basic

/-! # Checking models

    A model is an object with fields of its own. Every field is checked, so that all
    that is wrong with an object is reported at once: the fields first, in the order
    of the model, and then the keys that the model does not have. Only a key without an
    encoded form is reported alone.
-/

namespace Gleaner.Validation

/-- A value that fits, or everything that does not. -/
abbrev Checked (α : Type) := Except (List Detail) α

namespace Checked

/-- A check of a single value. -/
def ofProblem : Except Problem α → Checked α
  | .ok value => .ok value
  | .error problem => .error [⟨[], problem⟩]

/-- Two values that were checked apart, or the details of both. -/
def both : Checked α → Checked β → Checked (α × β)
  | .ok a, .ok b => .ok (a, b)
  | .ok _, .error more => .error more
  | .error details, .ok _ => .error details
  | .error details, .error more => .error (details ++ more)

/-- A value checked inside a field. -/
def inside (name : Text) : Checked α → Checked α
  | .ok value => .ok value
  | .error details => .error (details.map (Detail.inside name))

theorem both_eq_ok_iff {a : Checked α} {b : Checked β} {x : α} {y : β} :
    both a b = .ok (x, y) ↔ a = .ok x ∧ b = .ok y := by
  cases a <;> cases b <;> simp [both]

end Checked

/-- The members of an object. -/
def membersOf (model : String) : Document → Checked (Keyed Document)
  | .object members => .ok members
  | _ => .error [⟨[], .notModel model⟩]

/-- A field of a model; `absent` stands for a field that is not given. -/
def field (name : Text) (check : Document → Checked α) (absent : Checked α)
    (fields : Keyed Document) : Checked α :=
  Checked.inside name (match fields.get? name with
    | some value => check value
    | none => absent)

/-- A field that has to be given. -/
def required (name : Text) (check : Document → Checked α) (fields : Keyed Document) : Checked α :=
  field name check (.ofProblem (.error .missing)) fields

/-- A check that lets null pass. -/
def orNull (check : Document → Checked α) : Document → Checked (Option α)
  | .null => .ok none
  | other => (check other).map some

/-- No keys but those of the model. -/
def noOthers (names : List Text) (fields : Keyed Document) : Checked Unit :=
  match fields.keys.filter (· ∉ names) with
  | [] => .ok ()
  | others => .error (others.map fun key => ⟨[key], .unknownField⟩)

/-- The keys that the model does not have can be reported: they have encoded forms. -/
def Reportable (names : List Text) (fields : Keyed Document) : Prop :=
  ∀ key ∈ fields.keys, key ∉ names → isEncodable key = true

instance (names : List Text) (fields : Keyed Document) : Decidable (Reportable names fields) :=
  inferInstanceAs (Decidable (∀ key ∈ fields.keys, key ∉ names → isEncodable key = true))

/-- A check of an object that may have no keys but those of the model. A key that cannot be
    reported ends it, and what was found until then is not reported either. -/
def closed (names : List Text) (check : Keyed Document → Checked α) (fields : Keyed Document) :
    Checked α :=
  if Reportable names fields then ((check fields).both (noOthers names fields)).map Prod.fst
  else .error [⟨[], .notEncodable⟩]

/-- One of a few values by their names. -/
def choice (all : List α) (name : α → String) (problem : List String → Problem) (value : Document) :
    Except Problem α :=
  match value with
  | .string text => do
    let text ← encodable text
    match all.find? fun a => text == Text.ofString (name a) with
    | some a => .ok a
    | none => .error (problem (all.map name))
  | _ => .error (problem (all.map name))

end Gleaner.Validation
