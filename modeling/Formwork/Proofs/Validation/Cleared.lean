import Formwork.Proofs.Json.Equality
import Formwork.Proofs.Validation.RuleLists
import Formwork.Proofs.Validation.Untouched

namespace Formwork

theorem FieldChecks.validate_of_isNothing {w : FieldChecks} {v : Option Json}
    (h : Json.isNothing v) :
    w.validate v = w.required.or (if w.shape =
      .boolean then some Shape.boolean.complaint else none) := by
  have hread : w.shape.read v = .empty := if_pos h
  have hsuffices : w.shape.suffices .empty = false := rfl
  rw [validate, hread]
  simp only [failing?, lastWord?, hsuffices]
  cases w.required with
  | some message => rfl
  | none => cases w.shape <;> rfl

theorem Shape.Vacant.notMisshapen {kind : Shape} {entry : Entry} (h : kind.Vacant entry) :
    entry ≠ .misshapen := by
  cases h <;> nofun

theorem Rule.allows_of_vacant {rule : Rule} {f : Field} {entry : Entry} (h : f.shape.Vacant entry)
    (hk : rule.kind ≠ .required) (backend : Backend) : rule.Allows f backend entry := by
  refine ⟨fun v hv ↦ ?_, fun hr ↦ absurd hr hk⟩
  subst hv
  cases h with
  | present hmet _ => exact (Option.all_eq_true _ _).2 fun c _ ↦ hmet backend c

namespace Field

variable {f : Field} {backend : Backend} {v : Option Json}

theorem blankValue_cases (f : Field) :
    (f.shape ≠ .boolean ∧ Json.isNothing (some f.blankValue)) ∨
    (f.shape = .choiceList ∧ f.blankValue = .array []) ∨
    (f.shape = .boolean ∧ f.blankValue = .bool false) ∨
    (f.shape = .dateRange ∧ f.blankValue = emptyRange) := by
  cases ht : f.type <;> cases hm : f.multiple <;>
    simp [shape, blankValue, holdsList, ht, hm, Json.isNothing]

theorem isExact_blankValue (f : Field) : f.blankValue.isExact := by
  rw [blankValue]
  split
  · rfl
  · split <;> rfl

theorem isBoolean_iff (f : Field) : f.type.isBoolean ↔ f.shape = .boolean := by
  cases ht : f.type <;> cases hm : f.multiple <;> simp [shape, ht, hm, FieldType.isBoolean]

theorem isNothing_or_eq_of_holdsNothing (h : f.holdsNothing v) :
    Json.isNothing v ∨ v = some f.blankValue := by
  refine (Bool.or_eq_true_iff.1 h).imp_right fun h ↦ ?_
  cases v with
  | none => cases h
  | some v => rw [Json.eq_of_same v f.blankValue h f.isExact_blankValue]

theorem vacant_blankValue (f : Field) : f.shape.Vacant (f.shape.read (some f.blankValue)) :=
  Shape.vacant_read f.blankValue_cases

theorem isNothing_blankValue_of_isBoolean (h : f.type.isBoolean) :
    Json.isNothing (some f.blankValue) = false := by
  have hs := f.isBoolean_iff.1 h
  rcases f.blankValue_cases with ⟨hs', _⟩ | ⟨hs', _⟩ | ⟨_, hv⟩ | ⟨hs', _⟩
  · exact absurd hs hs'
  · exact nomatch hs.symm.trans hs'
  · rw [hv]
    rfl
  · exact nomatch hs.symm.trans hs'

theorem required_checks (f : Field) (backend : Backend) :
    (f.checks backend).required = f.requirement?.map fun rule ↦ rule.message.getD "Required" :=
  Option.map_congr fun _ hrule ↦ messageText_requirement? hrule

/-- A cleared field can only complain that it is required, or that it wants yes or no and has
neither. The value that it is cleared to is of its type, and no rule but those that require a value
has anything against it. -/
theorem validate_of_holdsNothing (f : Field) (backend : Backend) (h : f.holdsNothing v) :
    (f.checks backend).validate v =
        (f.requirement?.map fun rule ↦ rule.message.getD "Required").or
          (if f.type.isBoolean ∧ Json.isNothing v then some "Expected true or false" else none) ∧
      f.shape.read (some f.blankValue) ≠ .misshapen ∧
      ∀ rule : Rule, rule.kind ≠ .required →
        rule.Allows f backend (f.shape.read (some f.blankValue)) := by
  refine ⟨?_, f.vacant_blankValue.notMisshapen,
    fun rule hk ↦ Rule.allows_of_vacant f.vacant_blankValue hk backend⟩
  rw [← required_checks f backend]
  rcases isNothing_or_eq_of_holdsNothing h with hv | rfl
  · rw [FieldChecks.validate_of_isNothing hv]
    simp only [isBoolean_iff, hv, and_true]
    rfl
  · rw [FieldChecks.validate_of_vacant f.vacant_blankValue, if_neg, Option.or_none]
    rintro ⟨hb, hv⟩
    exact absurd hv (Bool.eq_false_iff.1 (isNothing_blankValue_of_isBoolean hb))

def stay : Field := { named "stay" .daterange with validation := [fourLong, needless, needed] }

def sizes : Field := { named "sizes" .radio with multiple := true, validation := [fourLong] }

theorem validate_of_holdsNothing_stay :
    (stay.holdsNothing (some emptyRange) ∧
      (stay.checks .native).validate (some emptyRange) = some "Required") ∧
    (sizes.holdsNothing (some (.string "")) ∧
      (sizes.checks .native).validate (some (.string "")) = none) ∧
    (named "loud" .switch).holdsNothing (some .null) ∧
      ((named "loud" .switch).checks .jsonSchema).validate (some .null) =
        some "Expected true or false" := by
  have hstay : stay.holdsNothing (some emptyRange) := by decide
  have hsizes : sizes.holdsNothing (some (.string "")) := by decide
  have hloud : (named "loud" .switch).holdsNothing (some .null) := by decide
  refine ⟨⟨hstay, ?_⟩, ⟨hsizes, ?_⟩, hloud, ?_⟩
  · rw [(validate_of_holdsNothing stay .native hstay).1]
    decide
  · rw [(validate_of_holdsNothing sizes .native hsizes).1]
    decide
  · rw [(validate_of_holdsNothing (named "loud" .switch) .jsonSchema hloud).1]
    decide

end Field

end Formwork
