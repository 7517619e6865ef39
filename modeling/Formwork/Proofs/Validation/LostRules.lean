import Formwork.Proofs.Validation.Restriction

namespace Formwork

namespace Rule

def Malformed (rule : Rule) : Prop :=
  match rule.kind with
  | .minLength | .maxLength | .length => readCount? rule.value = none
  | .min | .max => readBound? rule.value = none
  | .step => readStep? rule.value = none
  | .pattern => ∀ source, rule.value ≠ some (.string source)
  | .email | .url | .required | .unknown => False

/-- The ways in which a rule of a field is lost, each with the remarks that are made on it. -/
inductive Lost (rule : Rule) (f : Field) (backend : Backend) : List Remark → Prop
  | unknown : rule.kind = .unknown → Lost rule f backend [.unknownRule f.name]
  | inapplicable :
      rule.kind ≠ .required → rule.kind ≠ .unknown → rule.kind.appliesTo f.shape = false →
      Lost rule f backend [.inapplicableRule f.name rule.kind f.type]
  | malformed :
      rule.kind.appliesTo f.shape → rule.Malformed →
      Lost rule f backend [.malformedRule f.name rule.kind]
  | invalid {source : String} :
      rule.kind = .pattern → f.shape = .text → rule.value = some (.string source) →
      Pattern.parse? source = none →
      Lost rule f backend [.invalidPattern f.name source, .malformedRule f.name .pattern]
  | refused {source : String} {p : Pattern} :
      rule.kind = .pattern → f.shape = .text → rule.value = some (.string source) →
      Pattern.parse? source = some p →
      backend = .jsonSchema → p.plainAlphabet? = none → Lost rule f backend [.refusedConstraint]

inductive Yields (rule : Rule) (f : Field) (backend : Backend) : WithRemarks (Option Demand) → Prop
  | kept (c : Demand) : Yields rule f backend (some c, [])
  | lost {remarks : List Remark} :
      rule.Lost f backend remarks → Yields rule f backend (none, remarks)

variable {rule : Rule} {f : Field} {backend : Backend} {remarks : List Remark}
  {result : WithRemarks (Option Demand)}

theorem Lost.ne_nil (h : rule.Lost f backend remarks) : remarks ≠ [] := by
  cases h <;> exact List.cons_ne_nil _ _

theorem Yields.remarks_ne_nil_iff (h : rule.Yields f backend result) :
    result.2 ≠ [] ↔ result.1 = none := by
  cases h with
  | kept c => simp
  | lost h => simp [h.ne_nil]

theorem yields_orMalformed {kind : RuleKind} {o : Option Demand} (hk : rule.kind = kind)
    (ha : kind.appliesTo f.shape) (h : o = none → rule.Malformed) :
    rule.Yields f backend (orMalformed f.name kind o) := by
  subst hk
  cases o with
  | none => exact .lost (.malformed ha (h rfl))
  | some c => exact .kept c

theorem readPattern?_of_not_text {v : Option Json} (h : ∀ source, v ≠ some (.string source))
    (field : String) (backend : Backend) :
    readPattern? field backend v = (none, [.malformedRule field .pattern]) := by
  rw [readPattern?]
  exact h

theorem yields_readPattern? (hk : rule.kind = .pattern) (hs : f.shape = .text) :
    rule.Yields f backend (readPattern? f.name backend rule.value) := by
  by_cases hv : ∃ source, rule.value = some (.string source)
  · obtain ⟨source, hv⟩ := hv
    rw [hv, readPattern?]
    cases hp : Pattern.parse? source with
    | none => exact .lost (.invalid hk hs hv hp)
    | some p =>
      cases hb : backend with
      | native => exact .kept _
      | jsonSchema =>
        dsimp only
        cases ha : p.plainAlphabet? with
        | none => exact .lost (.refused hk hs hv hp rfl ha)
        | some alphabet => exact .kept _
  · have hno : ∀ source, rule.value ≠ some (.string source) := by
      intro source h
      exact hv ⟨source, h⟩
    have ha : rule.kind.appliesTo f.shape := by
      rw [hk, hs]
      rfl
    have hm : rule.Malformed := by
      rw [Malformed, hk]
      exact hno
    rw [readPattern?_of_not_text hno, ← hk]
    exact .lost (.malformed ha hm)

theorem demand?_of_inapplicable (hr : rule.kind ≠ .required) (hu : rule.kind ≠ .unknown)
    (h : rule.kind.appliesTo f.shape = false) (backend : Backend) :
    rule.demand? f backend = (none, [.inapplicableRule f.name rule.kind f.type]) := by
  unfold demand?
  split
  · next hk => exact absurd hk hr
  · next hk => exact absurd hk hu
  · rw [h]
    rfl

theorem yields_demand? (hr : rule.kind ≠ .required) (f : Field) (backend : Backend) :
    rule.Yields f backend (rule.demand? f backend) := by
  by_cases hu : rule.kind = .unknown
  · rw [demand?, hu]
    exact .lost (.unknown hu)
  cases ha : rule.kind.appliesTo f.shape with
  | false =>
    rw [demand?_of_inapplicable hr hu ha]
    exact .lost (.inapplicable hr hu ha)
  | true =>
    -- What is left is to read the argument, kind by kind.
    cases hk : rule.kind
    all_goals
      rw [hk] at ha
      simp only [demand?, hk, ha, Bool.not_true, Bool.false_eq_true, if_false]
    case required => exact absurd hk hr
    case unknown => exact absurd hk hu
    case email => exact .kept _
    case url => exact .kept _
    case pattern => exact yields_readPattern? hk (beq_iff_eq.1 ha)
    all_goals
      apply yields_orMalformed hk ha
      intro hn
      simpa only [Malformed, hk, Option.map_eq_none_iff] using hn

theorem Lost.demand?_eq (h : rule.Lost f backend remarks) :
    rule.demand? f backend = (none, remarks) := by
  cases h with
  | unknown hk => rw [demand?, hk]
  | inapplicable hr hu ha => exact demand?_of_inapplicable hr hu ha backend
  | malformed ha hm =>
    cases hk : rule.kind with
    | required | unknown | email | url => simp only [Malformed, hk] at hm
    | pattern =>
      simp only [Malformed, hk] at ha hm
      simp [demand?, hk, ha, readPattern?_of_not_text hm]
    | _ =>
      simp only [Malformed, hk] at ha hm
      simp [demand?, hk, ha, hm, orMalformed]
  | invalid hk hs hv hp =>
    simp [demand?, hk, hs, RuleKind.appliesTo, readPattern?, hv, hp]
  | refused hk hs hv hp hb ha =>
    simp [demand?, hk, hs, RuleKind.appliesTo, readPattern?, hv, hp, hb, ha]

theorem lost_iff (hr : rule.kind ≠ .required) :
    rule.demand? f backend = (none, remarks) ↔ rule.Lost f backend remarks := by
  constructor
  · intro h
    have hc := rule.yields_demand? hr f backend
    rw [h] at hc
    cases hc with
    | lost hl => exact hl
  · exact Lost.demand?_eq

end Rule

namespace Field

variable {f : Field} {backend : Backend} {rule : Rule}

theorem check?_eq_none_iff {remarks : List Remark} :
    f.check? backend rule = (none, remarks) ↔ rule.demand? f backend = (none, remarks) := by
  simp only [check?, Prod.ext_iff, Option.map_eq_none_iff]

theorem check?_of_kept (hr : rule.kind ≠ .required) {c : Demand}
    (h : rule.demand? f backend = (some c, [])) :
    f.check? backend rule = (some ⟨rule.message.getD "Invalid", c⟩, []) := by
  rw [check?, h, Rule.messageText, if_neg hr]
  rfl

theorem remarks_ne_nil_iff (hr : rule.kind ≠ .required) (f : Field) (backend : Backend) :
    (f.check? backend rule).2 ≠ [] ↔ (f.check? backend rule).1 = none := by
  have h := (rule.yields_demand? hr f backend).remarks_ne_nil_iff
  simpa only [check?, Option.map_eq_none_iff] using h

theorem forall₂_kept (f : Field) (backend : Backend) (rules : List Rule) :
    List.Forall₂
      (fun rule check ↦ f.check? backend rule = (some check, []) ∧
        check.message = rule.message.getD "Invalid")
      (rules.filter fun rule ↦ rule.kind != .required && (f.check? backend rule).2.isEmpty)
      (rules.filterMap fun rule ↦ (f.check? backend rule).1) := by
  induction rules with
  | nil => exact .nil
  | cons rule rest ih =>
    by_cases hr : rule.kind = .required
    · simpa [hr, check?_of_required hr f backend] using ih
    · have hc := rule.yields_demand? hr f backend
      generalize hd : rule.demand? f backend = result at hc
      cases hc with
      | kept c =>
        have hcheck := check?_of_kept hr hd
        simpa [hr, hcheck] using ih
      | lost hl =>
        have hcheck := check?_eq_none_iff.2 hd
        simpa [hr, hcheck, hl.ne_nil] using ih

/-- Apart from `required`, no rule is lost without a remark, and none is remarked on that makes a
check. What is remarked says how the rule was lost. -/
theorem remarks_on_lost_rules (f : Field) (backend : Backend) :
    (∀ rule ∈ f.validation, rule.kind ≠ .required →
      ((f.check? backend rule).2 ≠ [] ↔ (f.check? backend rule).1 = none) ∧
      ∀ remarks, f.check? backend rule = (none, remarks) ↔ rule.Lost f backend remarks) ∧
    List.Forall₂
      (fun rule check ↦ f.check? backend rule = (some check, []) ∧
        check.message = rule.message.getD "Invalid")
      (f.validation.filter fun rule ↦ rule.kind != .required && (f.check? backend rule).2.isEmpty)
      (f.checks backend).checks := by
  refine ⟨?_, f.forall₂_kept backend f.validation⟩
  intro rule _ hr
  refine ⟨remarks_ne_nil_iff hr f backend, ?_⟩
  intro remarks
  exact check?_eq_none_iff.trans (Rule.lost_iff hr)

def unreadable : Rule := ⟨.pattern, some (.string "(["), none⟩

def atomic : Rule := ⟨.pattern, some (.string "(?>ab)c"), some "Wrong code"⟩

def coupon : Field :=
  (named "coupon" .text).withRules
    [.ofKind .unknown, atLeastOne, needed, ⟨.maxLength, some (.string "few"), none⟩, unreadable,
      atomic, fourLong]

theorem remarks_on_lost_rules_coupon :
    (atomic ∈ coupon.validation ∧ atomic.kind ≠ .required ∧
      (coupon.check? .jsonSchema atomic).2 ≠ [] ∧
      (coupon.check? .jsonSchema atomic).1 = none) ∧
    (coupon.ruleRemarks .jsonSchema).map Remark.message =
      [Remark.message (.unknownRule "coupon"),
        Remark.message (.inapplicableRule "coupon" .min .text),
        Remark.message (.malformedRule "coupon" .maxLength),
        Remark.message (.invalidPattern "coupon" "(["),
        Remark.message (.malformedRule "coupon" .pattern), Remark.message .refusedConstraint] ∧
    (coupon.checks .jsonSchema).checks.map Check.message = ["Too short"] ∧
    (coupon.checks .native).checks.map Check.message = ["Wrong code", "Too short"] := by
  have hm : atomic ∈ coupon.validation := by simp [coupon, withRules]
  have hr : atomic.kind ≠ .required := by decide
  have hsaid : (coupon.check? .jsonSchema atomic).2.map Remark.message =
      [Remark.message .refusedConstraint] := by
    decide +kernel
  have hne : (coupon.check? .jsonSchema atomic).2 ≠ [] := by
    intro h
    rw [h] at hsaid
    cases hsaid
  have hlost := ((remarks_on_lost_rules coupon .jsonSchema).1 atomic hm hr).1.1 hne
  exact ⟨⟨hm, hr, hne, hlost⟩, by decide +kernel, by decide +kernel, by decide +kernel⟩

end Field

end Formwork
