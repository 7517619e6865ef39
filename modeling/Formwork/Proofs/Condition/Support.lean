import Formwork.Session.Cascade
import Mathlib.Data.List.InsertIdx

namespace Formwork

theorem Operator.isSupported_eq_false_iff {op : Operator} {purpose : Purpose} :
    op.isSupported purpose = false ↔ op = .unknown ∨ op = .changed ∧ purpose ≠ .clear := by
  cases op <;> simp [isSupported]

variable {c : Condition} {purpose : Purpose} {conditions : List Condition} {values : Bag}
  {previous : Option Bag}

theorem Condition.holds_of_unsupported (h : c.operator.isSupported purpose = false) (values : Bag)
    (previous : Option Bag) : c.holds purpose values previous = purpose.fallback := by
  rcases Operator.isSupported_eq_false_iff.1 h with ho | ⟨ho, hp⟩
  · rw [holds, ho, if_neg fun hc ↦ nomatch hc.1]
    rfl
  · rw [holds, ho, if_neg fun hc ↦ hp hc.2]
    rfl

theorem allMet_insertIdx {i : Nat} (hi : i ≤ conditions.length) :
    allMet (conditions.insertIdx i c) purpose values previous =
      (c.holds purpose values previous && allMet conditions purpose values previous) :=
  (List.perm_insertIdx c conditions hi).all_eq

theorem allMet_eq_false_of_unsupported (hm : c ∈ conditions)
    (h : c.operator.isSupported purpose = false)
    (hp : purpose ≠ .visibility) : allMet conditions purpose values previous = false := by
  have hfallback : purpose.fallback = false := by
    rw [Purpose.fallback, beq_eq_false_iff_ne]
    exact hp
  have hfails : c.holds purpose values previous = false :=
    (c.holds_of_unsupported h values previous).trans hfallback
  exact List.all_eq_false.2 ⟨c, hm, Bool.eq_false_iff.1 hfails⟩

namespace Field

variable {f : Field}

def insertCondition (f : Field) (i : Nat) (c : Condition) : Purpose → Field
  | .visibility => { f with visibilityRules := f.visibilityRules.insertIdx i c }
  | .disable => { f with disableRules := f.disableRules.insertIdx i c }
  | .clear => { f with clearRules := f.clearRules.insertIdx i c }

theorem insertCondition_name (f : Field) (i : Nat) (c : Condition) (purpose : Purpose) :
    (f.insertCondition i c purpose).name = f.name := by
  cases purpose <;> rfl

theorem mem_conditions_insertCondition {i : Nat} (hi : i ≤ (f.conditions purpose).length) :
    c ∈ (f.insertCondition i c purpose).conditions purpose := by
  cases purpose <;> exact (List.mem_insertIdx hi).2 (.inl rfl)

theorem isVisible_insertCondition {i : Nat} (hi : i ≤ f.visibilityRules.length)
    (h : c.operator.isSupported .visibility = false) (values : Bag) :
    (f.insertCondition i c .visibility).isVisible values = f.isVisible values := by
  have hmet : c.holds .visibility values none = true := c.holds_of_unsupported h values none
  rw [isVisible, insertCondition, allMet_insertIdx hi, hmet, Bool.true_and]
  rfl

theorem isDisabled_of_unsupported (hm : c ∈ f.disableRules)
    (h : c.operator.isSupported .disable = false)
    (values : Bag) : f.isDisabled values = f.disabled := by
  rw [isDisabled, allMet_eq_false_of_unsupported hm h nofun, Bool.and_false, Bool.or_false]

theorem isDue_of_unsupported (hm : c ∈ f.clearRules) (h : c.operator.isSupported .clear = false)
    (values reference : Bag) : f.isDue values reference = false := by
  rw [isDue, mustClear, allMet_eq_false_of_unsupported hm h nofun, Bool.and_false, Bool.and_false,
    Bool.false_and]

end Field

end Formwork
