import Formwork.Proofs.Condition.Equality
import Formwork.Proofs.Number.Rounding

namespace Formwork.Operator

variable {a b : Int}

def Holds (op : Operator) (a b : Int) : Prop := op.test? (some (.int a)) (some (.int b)) = some true

instance (op : Operator) (a b : Int) : Decidable (op.Holds a b) :=
  inferInstanceAs (Decidable (_ = _))

/-- The nearest binary64 numbers are the same. -/
def Merged (a b : Int) : Prop := (Binary64.ofInt a).toInt = (Binary64.ofInt b).toInt

def ExactlyOne (a b : Int) : Prop := ∃! op, op ∈ [eq, gt, lt] ∧ op.Holds a b

theorem compare?_int (a b : Int) :
    (Json.int a).compare? (.int b) = some ((Binary64.ofInt a).compare (.ofInt b)) := by
  rw [Json.int, Json.compare?_number]
  rfl

theorem holds_eq_iff : eq.Holds a b ↔ a = b := by
  rw [Holds, test?, Option.some.injEq]
  exact beq_iff_eq

theorem holds_lt_iff : lt.Holds a b ↔ (Binary64.ofInt a).toInt < (Binary64.ofInt b).toInt := by
  have htest : lt.test? (some (.int a)) (some (.int b)) =
      some ((Json.int a).compare? (.int b) == some .lt) := rfl
  rw [Holds, htest, compare?_int, Option.some.injEq, beq_iff_eq, Option.some.injEq,
    Binary64.compare, compareOfLessAndEq_eq_lt]

theorem holds_gt_iff : gt.Holds a b ↔ (Binary64.ofInt b).toInt < (Binary64.ofInt a).toInt := by
  have htest : gt.test? (some (.int a)) (some (.int b)) =
      some ((Json.int a).compare? (.int b) == some .gt) := rfl
  rw [Holds, htest, compare?_int, Option.some.injEq, beq_iff_eq, Option.some.injEq,
    Binary64.compare, compareOfLessAndEq_eq_gt Int.le_antisymm Int.le_total Int.not_le]

theorem toInt_ofInt_lt_iff : (Binary64.ofInt a).toInt < (Binary64.ofInt b).toInt ↔
    a < b ∧ ¬ Merged a b := by
  constructor
  · intro h
    have hlt : a < b := Int.not_le.1 fun hle ↦ Int.not_lt.2 (Binary64.toInt_ofInt_mono hle) h
    exact ⟨hlt, Int.ne_of_lt h⟩
  · intro ⟨hlt, hne⟩
    exact Int.lt_iff_le_and_ne.2 ⟨Binary64.toInt_ofInt_mono (Int.le_of_lt hlt), hne⟩

theorem holds_lt_iff_of_merged : lt.Holds a b ↔ a < b ∧ ¬ Merged a b :=
  holds_lt_iff.trans toInt_ofInt_lt_iff

theorem holds_gt_iff_of_merged : gt.Holds a b ↔ b < a ∧ ¬ Merged a b := by
  rw [holds_gt_iff, toInt_ofInt_lt_iff]
  exact and_congr_right' (not_congr ⟨Eq.symm, Eq.symm⟩)

theorem mem_comparisons {op : Operator} : op ∈ [eq, gt, lt] ↔ op = eq ∨ op = gt ∨ op = lt := by
  rw [List.mem_cons, List.mem_cons, List.mem_singleton]

theorem Holds.unique {op other : Operator} (hm : op ∈ [eq, gt, lt]) (h : op.Holds a b)
    (hm' : other ∈ [eq, gt, lt]) (h' : other.Holds a b) : other = op := by
  have horder {op : Operator} (hm : op ∈ [eq, gt, lt]) (h : op.Holds a b) :
      op = eq ∧ a = b ∨ op = gt ∧ b < a ∨ op = lt ∧ a < b := by
    rcases mem_comparisons.1 hm with rfl | rfl | rfl
    · exact .inl ⟨rfl, holds_eq_iff.1 h⟩
    · exact .inr (.inl ⟨rfl, (holds_gt_iff_of_merged.1 h).1⟩)
    · exact .inr (.inr ⟨rfl, (holds_lt_iff_of_merged.1 h).1⟩)
  rcases horder hm h with ⟨rfl, ho⟩ | ⟨rfl, ho⟩ | ⟨rfl, ho⟩ <;>
    rcases horder hm' h' with ⟨rfl, ho'⟩ | ⟨rfl, ho'⟩ | ⟨rfl, ho'⟩ <;> first | rfl | omega

theorem exactlyOne_iff_exists : ExactlyOne a b ↔ eq.Holds a b ∨ gt.Holds a b ∨ lt.Holds a b := by
  constructor
  · rintro ⟨op, ⟨hm, h⟩, -⟩
    rcases mem_comparisons.1 hm with rfl | rfl | rfl
    · exact .inl h
    · exact .inr (.inl h)
    · exact .inr (.inr h)
  · intro h
    obtain ⟨op, hm, h⟩ : ∃ op ∈ [eq, gt, lt], op.Holds a b := by
      simpa only [mem_comparisons, exists_eq_or_imp, exists_eq_left] using h
    exact ⟨op, ⟨hm, h⟩, fun other ho ↦ h.unique hm ho.1 ho.2⟩

theorem exactlyOne_iff : ExactlyOne a b ↔ a = b ∨ ¬ Merged a b := by
  rw [exactlyOne_iff_exists, holds_eq_iff, holds_gt_iff_of_merged, holds_lt_iff_of_merged]
  constructor
  · rintro (he | ⟨-, hm⟩ | ⟨-, hm⟩)
    · exact .inl he
    · exact .inr hm
    · exact .inr hm
  · rintro (he | hm)
    · exact .inl he
    · rcases Int.lt_trichotomy a b with h | h | h
      · exact .inr (.inr ⟨h, hm⟩)
      · exact .inl h
      · exact .inr (.inl ⟨h, hm⟩)

theorem Merged.eq_of_le (h : Merged a b) (ha : a.natAbs ≤ 2 ^ 53) (hb : b.natAbs ≤ 2 ^ 53) :
    a = b := by
  rw [Merged, Binary64.toInt_ofInt_of_le ha, Binary64.toInt_ofInt_of_le hb] at h
  exact Int.eq_of_mul_eq_mul_right (Int.natCast_ne_zero.2 Binary64.one_pos.ne') h

structure Compares (a b : Int) : Prop where
  eq_iff : eq.Holds a b ↔ a = b
  gt_iff : gt.Holds a b ↔ b < a ∧ ¬ Merged a b
  lt_iff : lt.Holds a b ↔ a < b ∧ ¬ Merged a b
  exactlyOne_iff : ExactlyOne a b ↔ a = b ∨ ¬ Merged a b
  large : Merged a b → a ≠ b → 2 ^ 53 < max a.natAbs b.natAbs
  close : Merged a b → 2 ^ 53 * (a - b).natAbs ≤ a.natAbs + b.natAbs

/-- One of two whole numbers is the greater one for the operators, unless rounding makes them the
same. -/
theorem compares_int (a b : Int) : Compares a b where
  eq_iff := holds_eq_iff
  gt_iff := holds_gt_iff_of_merged
  lt_iff := holds_lt_iff_of_merged
  exactlyOne_iff := exactlyOne_iff
  large := by
    intro h hne
    by_contra hle
    exact hne (h.eq_of_le (by omega) (by omega))
  close := Binary64.natAbs_sub_le_of_toInt_ofInt_eq

/-- The first whole number that has to be rounded is neither equal to its neighbour, nor greater,
nor less. -/
theorem not_exactlyOne :
    ¬ ∀ a b : Int, -2 ^ 63 ≤ a ∧ a < 2 ^ 64 → -2 ^ 63 ≤ b ∧ b < 2 ^ 64 →
      ExactlyOne a b ∧ (gt.Holds a b ↔ b < a) := by
  intro h
  have hgt := (h 9007199254740993 9007199254740992 (by decide) (by decide)).2
  exact absurd hgt (by decide +kernel)

end Formwork.Operator
