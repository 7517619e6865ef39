import Formwork.Validation.FieldChecks

namespace Formwork

theorem Backend.exists_iff {P : Backend → Prop} :
    (∃ backend, P backend) ↔ P .native ∨ P .jsonSchema := by
  constructor
  · rintro ⟨_ | _, h⟩
    · exact .inl h
    · exact .inr h
  · rintro (h | h)
    · exact ⟨_, h⟩
    · exact ⟨_, h⟩

namespace Backend

variable {x y : Pattern.Finding}

theorem admits_native_iff : native.admits x ↔ x ≠ .absent := by cases x <;> decide

theorem admits_ne_iff :
    native.admits x ≠ jsonSchema.admits y ↔
      x ≠ .givenUp ∧ y ≠ .givenUp ∧ x ≠ y ∨
        x = .givenUp ∧ y ≠ .present ∨ x ≠ .absent ∧ y = .givenUp := by
  cases x <;> cases y <;> decide

theorem admits_ne_self_iff : native.admits x ≠ jsonSchema.admits x ↔ x = .givenUp := by
  cases x <;> decide

end Backend

inductive Demand.Splits : Demand → Json → Prop
  | pattern {p : Pattern} {alphabet : Pattern.Alphabet} {s : String} :
      p.search alphabet s = .givenUp → Splits (.pattern p alphabet) (.string s)
  | min {bound : Binary64} {n : Int} :
      ¬ (bound.toInt ≤ (Binary64.ofInt n).toInt ↔ bound.toInt ≤ n * Binary64.one) →
      Splits (.min bound) (.number (.int n))
  | max {bound : Binary64} {n : Int} :
      ¬ ((Binary64.ofInt n).toInt ≤ bound.toInt ↔ n * Binary64.one ≤ bound.toInt) →
      Splits (.max bound) (.number (.int n))
  | email {s : String} :
      Pattern.mailAddress.isFoundIn .unicode s ≠ Pattern.mailAddress.isFoundIn .compact s →
      Splits .email (.string s)
  | url {s : String} :
      Pattern.webAddress.isFoundIn .unicode s ≠ Pattern.webAddress.isFoundIn .compact s →
      Splits .url (.string s)

def Number.unitsFor (backend : Backend) (n : Number) : Int :=
  match backend, n with
  | .jsonSchema, .int n => n * Binary64.one
  | _, n => n.toBinary64.toInt

theorem Number.compareTo_eq (backend : Backend) (n : Number) (bound : Binary64) :
    n.compareTo backend bound = compareOfLessAndEq (n.unitsFor backend) bound.toInt := by
  cases backend <;> cases n <;> rfl

namespace Demand

variable {c : Demand} {v : Json} {n : Int} {bound : Binary64}

theorem isMet_pattern (backend : Backend) (p : Pattern) (alphabet : Pattern.Alphabet) (s : String) :
    isMet backend (.pattern p alphabet) (.string s) = backend.admits (p.search alphabet s) :=
  rfl

theorem isMet_min (backend : Backend) (n : Number) (bound : Binary64) :
    isMet backend (.min bound) (.number n) ↔ bound.toInt ≤ n.unitsFor backend := by
  rw [isMet, isMetByNumber, Number.compareTo_eq, bne_iff_ne, ne_eq,
    compareOfLessAndEq_eq_lt, Int.not_lt]

theorem isMet_max (backend : Backend) (n : Number) (bound : Binary64) :
    isMet backend (.max bound) (.number n) ↔ n.unitsFor backend ≤ bound.toInt := by
  rw [isMet, isMetByNumber, Number.compareTo_eq, bne_iff_ne, compareOfLessAndEq]
  split
  · next h => exact iff_of_true nofun (Int.le_of_lt h)
  · next h =>
    split
    · next he => exact iff_of_true nofun (Int.le_of_eq he)
    · next he => exact iff_of_false (fun hn ↦ hn rfl) fun hle ↦ h (Int.lt_iff_le_and_ne.2 ⟨hle, he⟩)

theorem splits_min_iff :
    isMet .native (.min bound) (.number (.int n)) ≠
      isMet .jsonSchema (.min bound) (.number (.int n)) ↔
      ¬ (bound.toInt ≤ (Binary64.ofInt n).toInt ↔ bound.toInt ≤ n * Binary64.one) := by
  rw [ne_eq, Bool.eq_iff_iff, isMet_min, isMet_min]
  exact Iff.rfl

theorem splits_max_iff :
    isMet .native (.max bound) (.number (.int n)) ≠
      isMet .jsonSchema (.max bound) (.number (.int n)) ↔
      ¬ ((Binary64.ofInt n).toInt ≤ bound.toInt ↔ n * Binary64.one ≤ bound.toInt) := by
  rw [ne_eq, Bool.eq_iff_iff, isMet_max, isMet_max]
  exact Iff.rfl

theorem splits_iff : c.Splits v ↔ c.isMet .native v ≠ c.isMet .jsonSchema v := by
  constructor
  · intro h
    cases h with
    | pattern h =>
      rw [isMet_pattern, isMet_pattern, h]
      exact Bool.noConfusion
    | min h => exact splits_min_iff.2 h
    | max h => exact splits_max_iff.2 h
    | email h => exact h
    | url h => exact h
  · intro h
    cases c with
    | pattern p alphabet =>
      cases v with
      | string s =>
        rw [isMet_pattern, isMet_pattern] at h
        exact .pattern (Backend.admits_ne_self_iff.1 h)
      | _ => exact absurd rfl h
    | min bound =>
      match v, h with
      | .number (.int n), h => exact .min (splits_min_iff.1 h)
    | max bound =>
      match v, h with
      | .number (.int n), h => exact .max (splits_max_iff.1 h)
    | email =>
      cases v with
      | string s => exact .email h
      | _ => exact absurd rfl h
    | url =>
      cases v with
      | string s => exact .url h
      | _ => exact absurd rfl h
    | _ => exact absurd rfl h

end Demand

namespace Rule

def passes (rule : Rule) (f : Field) (backend : Backend) (v : Json) : Bool :=
  (rule.demand? f backend).1.all fun c ↦ c.isMet backend v

/-- The backends part over the rule on the value: over what it demands, over what a pattern means,
over a search that is given up, which only the native one forgives, or because only one of them
takes the pattern. -/
inductive Splits (rule : Rule) (f : Field) : Json → Prop
  | demand {c : Demand} {v : Json} :
      (∀ backend, (rule.demand? f backend).1 = some c) → c.Splits v → Splits rule f v
  | pattern {p : Pattern} {alphabet : Pattern.Alphabet} {s : String} :
      (rule.demand? f .native).1 = some (.pattern p .unicode) →
      (rule.demand? f .jsonSchema).1 = some (.pattern p alphabet) →
      p.search .unicode s ≠ .givenUp → p.search alphabet s ≠ .givenUp →
      p.search .unicode s ≠ p.search alphabet s → Splits rule f (.string s)
  | nativeGivenUp {p : Pattern} {alphabet : Pattern.Alphabet} {s : String} :
      (rule.demand? f .native).1 = some (.pattern p .unicode) →
      (rule.demand? f .jsonSchema).1 = some (.pattern p alphabet) →
      p.search .unicode s = .givenUp → p.search alphabet s ≠ .present → Splits rule f (.string s)
  | jsonSchemaGivenUp {p : Pattern} {alphabet : Pattern.Alphabet} {s : String} :
      (rule.demand? f .native).1 = some (.pattern p .unicode) →
      (rule.demand? f .jsonSchema).1 = some (.pattern p alphabet) →
      p.search .unicode s ≠ .absent → p.search alphabet s = .givenUp → Splits rule f (.string s)
  | refused {p : Pattern} {s : String} :
      (rule.demand? f .native).1 = some (.pattern p .unicode) →
      (rule.demand? f .jsonSchema).1 = none →
      p.search .unicode s = .absent → Splits rule f (.string s)

variable {rule : Rule} {f : Field} {v : Json}

theorem demand?_cases (rule : Rule) (f : Field) :
    (rule.demand? f .native).1 = (rule.demand? f .jsonSchema).1 ∨
      ∃ p, (rule.demand? f .native).1 = some (.pattern p .unicode) ∧
        (rule.demand? f .jsonSchema).1 = p.plainAlphabet?.map (.pattern p) := by
  by_cases hk : rule.kind = .pattern
  · simp only [demand?, hk]
    split
    · exact .inl rfl
    · rcases rule.value with _ | _ | _ | _ | source | _ | _
      case some.string =>
        simp only [readPattern?]
        cases Pattern.parse? source with
        | none => exact .inl rfl
        | some p =>
          refine .inr ⟨p, rfl, ?_⟩
          simp only
          cases p.plainAlphabet? <;> rfl
      all_goals exact .inl rfl
  · left
    simp only [demand?]
    cases h : rule.kind <;> first | rfl | exact absurd h hk

theorem passes_eq {backend : Backend} {o : Option Demand} (h : (rule.demand? f backend).1 = o)
    (v : Json) :
    rule.passes f backend v = o.all fun c ↦ c.isMet backend v := by
  rw [passes, h]

theorem splits_iff : rule.Splits f v ↔ rule.passes f .native v ≠ rule.passes f .jsonSchema v := by
  constructor
  · intro h
    cases h with
    | demand hc h =>
      rw [passes_eq (hc _), passes_eq (hc _), Option.all_some, Option.all_some]
      exact Demand.splits_iff.1 h
    | pattern hn hj hx hy h =>
      rw [passes_eq hn, passes_eq hj]
      exact Backend.admits_ne_iff.2 (.inl ⟨hx, hy, h⟩)
    | nativeGivenUp hn hj hx hy =>
      rw [passes_eq hn, passes_eq hj]
      exact Backend.admits_ne_iff.2 (.inr (.inl ⟨hx, hy⟩))
    | jsonSchemaGivenUp hn hj hx hy =>
      rw [passes_eq hn, passes_eq hj]
      exact Backend.admits_ne_iff.2 (.inr (.inr ⟨hx, hy⟩))
    | refused hn hj h =>
      rw [passes_eq hn, passes_eq hj]
      exact fun he ↦ Backend.admits_native_iff.1 he h
  · intro h
    rcases demand?_cases rule f with he | ⟨p, hn, hj⟩
    · rw [passes_eq he, passes_eq rfl] at h
      cases hj : (rule.demand? f .jsonSchema).1 with
      | none =>
        rw [hj, Option.all_none, Option.all_none] at h
        exact absurd rfl h
      | some c =>
        rw [hj, Option.all_some, Option.all_some] at h
        refine .demand (fun backend ↦ ?_) (Demand.splits_iff.2 h)
        cases backend
        · exact he.trans hj
        · exact hj
    · rw [passes_eq hn, passes_eq hj] at h
      cases ha : p.plainAlphabet? with
      | none =>
        rw [ha] at h hj
        cases v with
        | string s =>
          refine .refused hn hj (Decidable.of_not_not fun hx ↦ h ?_)
          exact Backend.admits_native_iff.2 hx
        | _ => exact absurd rfl h
      | some alphabet =>
        rw [ha] at h hj
        cases v with
        | string s =>
          rcases Backend.admits_ne_iff.1 h with ⟨hx, hy, hne⟩ | ⟨hx, hy⟩ | ⟨hx, hy⟩
          · exact .pattern hn hj hx hy hne
          · exact .nativeGivenUp hn hj hx hy
          · exact .jsonSchemaGivenUp hn hj hx hy
        | _ => exact absurd rfl h

theorem passes_of_splits (h : rule.Splits f v) :
    rule.passes f .native v = true ∧ rule.passes f .jsonSchema v = false ∨
      rule.passes f .native v = false ∧ rule.passes f .jsonSchema v = true := by
  have hne := splits_iff.1 h
  cases hn : rule.passes f .native v with
  | false => exact .inr ⟨rfl, eq_true_of_ne_false fun hj ↦ hne (hn.trans hj.symm)⟩
  | true => exact .inl ⟨rfl, eq_false_of_ne_true fun hj ↦ hne (hn.trans hj.symm)⟩

end Rule

namespace Field

def verdict (f : Field) (backend : Backend) (v : Json) : List Rule → Option String
  | [] => (f.checks backend).lastWord? (.present v)
  | rule :: rest =>
    if rule.passes f backend v then f.verdict backend v rest else some rule.messageText

/-- The backends come to the same verdict, asking rule by rule. Where they part over a rule, the one
that lets the value pass comes upon the message of this very rule later. -/
inductive Settles (f : Field) (v : Json) : List Rule → Prop
  | done : Settles f v []
  | failed {rule : Rule} {rest : List Rule} :
      ¬ rule.Splits f v → rule.passes f .native v = false → Settles f v (rule :: rest)
  | passed {rule : Rule} {rest : List Rule} :
      ¬ rule.Splits f v → Settles f v rest → Settles f v (rule :: rest)
  | covered {rule : Rule} {rest : List Rule} {backend : Backend} :
      rule.Splits f v → rule.passes f backend v → f.verdict backend v rest = some rule.messageText →
      Settles f v (rule :: rest)

def Agrees (f : Field) (v : Option Json) : Prop :=
  ∀ x, f.shape.read v = .present x → f.Settles x f.validation

variable {f : Field} {v : Json} {rules : List Rule}

theorem failing_verdict (f : Field) (backend : Backend) (v : Json) (rules : List Rule) :
    (match (rules.filterMap fun rule ↦ (f.check? backend rule).1).find? fun c ↦
      !c.demand.isMet backend v with
      | some c => some c.message
      | none => (f.checks backend).lastWord? (.present v)) = f.verdict backend v rules := by
  induction rules with
  | nil => rfl
  | cons rule rest ih =>
    have hc : (f.check? backend rule).1 =
        (rule.demand? f backend).1.map fun c ↦ ⟨rule.messageText, c⟩ := rfl
    rw [verdict, ← ih, List.filterMap_cons, hc]
    cases hd : (rule.demand? f backend).1 with
    | none => rw [Rule.passes_eq hd, Option.all_none, if_pos rfl, Option.map_none]
    | some c =>
      rw [Rule.passes_eq hd, Option.all_some, Option.map_some, List.find?_cons]
      cases c.isMet backend v <;> rfl

theorem validate_checks (f : Field) (backend : Backend) (v : Option Json) :
    (f.checks backend).validate v =
      match f.shape.read v with
      | .misshapen => some f.shape.complaint
      | .empty => (f.checks backend).lastWord? .empty
      | .present x => f.verdict backend x f.validation := by
  rw [FieldChecks.validate, show (f.checks backend).shape = f.shape from rfl]
  cases f.shape.read v with
  | misshapen => rfl
  | empty => rfl
  | present x => exact failing_verdict f backend x f.validation

theorem settles_cons_iff_of_splits {rule : Rule} (hs : rule.Splits f v) :
    f.Settles v (rule :: rules) ↔
      ∃ backend, rule.passes f backend v = true ∧
        f.verdict backend v rules = some rule.messageText := by
  constructor
  · intro h
    cases h with
    | failed hs' | passed hs' => exact absurd hs hs'
    | covered _ hp hv => exact ⟨_, hp, hv⟩
  · rintro ⟨backend, hp, hv⟩
    exact .covered hs hp hv

theorem verdict_eq_iff :
    f.verdict .native v rules = f.verdict .jsonSchema v rules ↔ f.Settles v rules := by
  induction rules with
  | nil => exact iff_of_true rfl .done
  | cons rule rest ih =>
    rw [verdict, verdict]
    by_cases hs : rule.Splits f v
    · rw [settles_cons_iff_of_splits hs, Backend.exists_iff]
      rcases Rule.passes_of_splits hs with ⟨hn, hj⟩ | ⟨hn, hj⟩
      · rw [hn, hj, if_pos rfl, if_neg Bool.false_ne_true]
        simp only [true_and, Bool.false_eq_true, false_and, or_false]
      · rw [hn, hj, if_pos rfl, if_neg Bool.false_ne_true]
        simp only [true_and, Bool.false_eq_true, false_and, false_or, eq_comm]
    · have hp : rule.passes f .native v = rule.passes f .jsonSchema v :=
        Decidable.of_not_not fun hne ↦ hs (Rule.splits_iff.2 hne)
      rw [← hp]
      cases hn : rule.passes f .native v with
      | false => exact iff_of_true rfl (.failed hs hn)
      | true =>
        rw [if_pos rfl, if_pos rfl, ih]
        refine ⟨.passed hs, fun h ↦ ?_⟩
        cases h with
        | failed _ hf => exact absurd (hf.symm.trans hn) Bool.false_ne_true
        | passed _ hr => exact hr
        | covered hs' => exact absurd hs' hs

theorem validate_eq_iff (v : Option Json) :
    (f.checks .native).validate v = (f.checks .jsonSchema).validate v ↔ f.Agrees v := by
  rw [validate_checks, validate_checks, Agrees]
  cases f.shape.read v with
  | misshapen => exact iff_of_true rfl nofun
  | empty => exact iff_of_true rfl nofun
  | present x =>
    simp only [Entry.present.injEq, forall_eq']
    exact verdict_eq_iff

theorem settles_of_not_splits (h : ∀ rule ∈ rules, ¬ rule.Splits f v) : f.Settles v rules := by
  induction rules with
  | nil => exact .done
  | cons rule rest ih => exact .passed (h rule (.head _)) (ih fun r hr ↦ h r (.tail _ hr))

end Field

end Formwork
