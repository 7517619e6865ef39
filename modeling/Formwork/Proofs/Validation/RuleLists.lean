import Formwork.Proofs.Validation.Backends
import Mathlib.Data.List.Basic

namespace Formwork

def Rule.Allows (rule : Rule) (f : Field) (backend : Backend) (entry : Entry) : Prop :=
  (∀ v, entry = .present v → rule.passes f backend v) ∧
    (rule.kind = .required → f.shape.suffices entry)

/-- A value of this shape is acceptable where no rule is against it. Yes or no has to be said in any
case. -/
def Shape.Allows (kind : Shape) (entry : Entry) : Prop :=
  entry ≠ .misshapen ∧ (kind = .boolean → entry ≠ .empty)

namespace Shape

variable {kind : Shape} {entry : Entry}

theorem allows_of_suffices (h : kind.suffices entry) : kind.Allows entry := by
  cases entry with
  | present v => exact ⟨nofun, fun _ ↦ nofun⟩
  | empty | misshapen => cases h

end Shape

namespace FieldChecks

variable {w : FieldChecks} {entry : Entry}

theorem lastWord?_eq_none_iff (hm : entry ≠ .misshapen) :
    w.lastWord? entry = none ↔ w.shape.Allows entry ∧ (w.isRequired → w.shape.suffices entry) := by
  unfold lastWord? isRequired
  split
  · next message hr =>
    rw [hr]
    by_cases hs : w.shape.suffices entry
    · rw [if_pos hs]
      exact iff_of_true rfl ⟨Shape.allows_of_suffices hs, fun _ ↦ hs⟩
    · rw [if_neg hs]
      exact iff_of_false nofun fun h ↦ hs (h.2 rfl)
  · next hr =>
    rw [hr, and_iff_left nofun]
    split
    · next hk => exact iff_of_false nofun fun h ↦ h.2 hk rfl
    · next hk => exact iff_of_true rfl ⟨hm, hk⟩

end FieldChecks

namespace Field

variable {f : Field} {backend : Backend} {R S : List Rule}

def withRules (f : Field) (rules : List Rule) : Field := { f with validation := rules }

def Accepts (f : Field) (backend : Backend) (v : Option Json) : Prop :=
  (f.checks backend).validate v = none

theorem isRequired_checks_iff :
    (f.checks backend).isRequired ↔ ∃ rule ∈ f.validation, rule.kind = .required := by
  rw [FieldChecks.isRequired, checks, requirement?, Option.isSome_map, List.find?_isSome]
  simp only [beq_iff_eq]

theorem verdict_eq_none_iff {v : Json} {rules : List Rule} :
    f.verdict backend v rules = none ↔
      (∀ rule ∈ rules, rule.passes f backend v) ∧
      (f.checks backend).lastWord? (.present v) = none := by
  induction rules with
  | nil => exact (and_iff_right (List.forall_mem_nil _)).symm
  | cons rule rest ih =>
    rw [verdict, List.forall_mem_cons, and_assoc, ← ih]
    split
    · next h => exact (and_iff_right h).symm
    · next h => exact iff_of_false (Option.some_ne_none _) fun ha ↦ h ha.1

theorem accepts_iff (f : Field) (backend : Backend) (v : Option Json) :
    f.Accepts backend v ↔
      f.shape.Allows (f.shape.read v) ∧
      ∀ rule ∈ f.validation, rule.Allows f backend (f.shape.read v) := by
  have hrequired : ((f.checks backend).isRequired → f.shape.suffices (f.shape.read v)) ↔
      ∀ rule ∈ f.validation, rule.kind = .required → f.shape.suffices (f.shape.read v) := by
    rw [isRequired_checks_iff]
    exact ⟨fun h rule hm hk ↦ h ⟨rule, hm, hk⟩, fun h ⟨rule, hm, hk⟩ ↦ h rule hm hk⟩
  have hlast : f.shape.read v ≠ .misshapen → ((f.checks backend).lastWord? (f.shape.read v) = none ↔
      f.shape.Allows (f.shape.read v) ∧
        ∀ rule ∈ f.validation, rule.kind = .required → f.shape.suffices (f.shape.read v)) := by
    intro hm
    exact (FieldChecks.lastWord?_eq_none_iff hm).trans (and_congr_right fun _ ↦ hrequired)
  rw [Accepts, validate_checks]
  simp only [Rule.Allows, forall_and]
  cases hread : f.shape.read v with
  | misshapen => exact iff_of_false nofun fun h ↦ h.1.1 rfl
  | empty =>
    rw [hread] at hlast
    simpa only [reduceCtorEq, false_implies, implies_true, true_and] using hlast nofun
  | present x =>
    rw [hread] at hlast
    simp only [verdict_eq_none_iff, hlast nofun, Entry.present.injEq, forall_eq']
    exact and_left_comm

theorem accepts_withRules_append (f : Field) (backend : Backend) (R S : List Rule)
    (v : Option Json) :
    (f.withRules (R ++ S)).Accepts backend v ↔
      (f.withRules R).Accepts backend v ∧ (f.withRules S).Accepts backend v := by
  -- What the type allows, and what one rule does, is the same whatever other rules there are.
  have hone : ∀ rules, (f.withRules rules).Accepts backend v ↔
      f.shape.Allows (f.shape.read v) ∧ ∀ rule ∈ rules, rule.Allows f backend (f.shape.read v) := by
    intro rules
    exact accepts_iff (f.withRules rules) backend v
  rw [hone, hone, hone, List.forall_mem_append]
  exact and_and_left

theorem check?_of_required {rule : Rule} (h : rule.kind = .required) (f : Field)
    (backend : Backend) :
    (f.check? backend rule).1 = none := by
  rw [check?, Rule.demand?, h]
  rfl

theorem filterMap_check?_filter (f : Field) (backend : Backend) (rules : List Rule) :
    (rules.filter (·.kind != .required)).filterMap (fun rule ↦ (f.check? backend rule).1) =
      rules.filterMap fun rule ↦ (f.check? backend rule).1 := by
  rw [List.filterMap_filter]
  refine List.filterMap_congr fun rule _ ↦ ?_
  split
  · rfl
  · next h =>
    have hk : rule.kind = .required := by simpa using h
    exact (check?_of_required hk f backend).symm

theorem checks_withRules_eq (f : Field) (backend : Backend)
    (hother : R.filter (·.kind != .required) = S.filter (·.kind != .required))
    (hrequired : R.filter (·.kind == .required) = S.filter (·.kind == .required)) :
    (f.withRules R).checks backend = (f.withRules S).checks backend := by
  have hchecks : R.filterMap (fun rule ↦ (f.check? backend rule).1) =
      S.filterMap fun rule ↦ (f.check? backend rule).1 := by
    rw [← filterMap_check?_filter, hother, filterMap_check?_filter]
  have hfirst : R.find? (·.kind == .required) = S.find? (·.kind == .required) := by
    rw [← List.head?_filter, hrequired, List.head?_filter]
  have hsaid : (f.withRules R).requirement?.map Rule.messageText =
      (f.withRules S).requirement?.map Rule.messageText :=
    congrArg (Option.map Rule.messageText) hfirst
  rw [checks, checks, hsaid]
  exact congrArg (FieldChecks.mk f.name f.shape backend · _) hchecks

/-- Lists of rules that follow one another are a conjunction, and rules that require a value may
stand anywhere. -/
theorem rules_conjoin (f : Field) (backend : Backend) :
    (∀ R S v, (f.withRules (R ++ S)).Accepts backend v ↔
      (f.withRules R).Accepts backend v ∧ (f.withRules S).Accepts backend v) ∧
    ∀ R S, R.filter (·.kind != .required) = S.filter (·.kind != .required) →
      R.filter (·.kind == .required) = S.filter (·.kind == .required) →
      ∀ v, ((f.withRules R).checks backend).validate v =
          ((f.withRules S).checks backend).validate v :=
  ⟨f.accepts_withRules_append backend, fun _ _ hother hrequired _ ↦
    congrArg (FieldChecks.validate · _) (f.checks_withRules_eq backend hother hrequired)⟩

def needed : Rule := ⟨.required, none, some "Give a code"⟩

def needless : Rule := .ofKind .required

def fourLong : Rule := ⟨.minLength, some (.int 4), some "Too short"⟩

def atLeastOne : Rule := ⟨.min, some (.int 1), none⟩

theorem rules_conjoin_code :
    [needed, atLeastOne, needless, fourLong].filter (·.kind != .required) =
        [atLeastOne, fourLong, needed, needless].filter (·.kind != .required) ∧
      [needed, atLeastOne, needless, fourLong].filter (·.kind == .required) =
        [atLeastOne, fourLong, needed, needless].filter (·.kind == .required) ∧
      (((named "code" .text).withRules
        [needed, atLeastOne, needless, fourLong]).checks .jsonSchema).validate
        (some (.string "abc")) = some "Too short" ∧
      (((named "code" .text).withRules
        [needed, atLeastOne, needless, fourLong]).checks .jsonSchema).validate none =
        some "Give a code" := by
  have hsame :=
    (rules_conjoin (named "code" .text) .jsonSchema).2 [needed, atLeastOne, needless, fourLong]
    [atLeastOne, fourLong, needed, needless] rfl rfl
  refine ⟨rfl, rfl, ?_, ?_⟩
  · rw [hsame]
    decide
  · rw [hsame]
    decide

end Field

end Formwork
