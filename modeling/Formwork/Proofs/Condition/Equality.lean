import Formwork.Session.Cascade
import Formwork.Proofs.Json.Equality

namespace Formwork.Condition

variable {c : Condition} {b b' r r' : Bag}

theorem sees_congr (hb : b.resolve? c.field = b'.resolve? c.field)
    (hr : r.resolve? c.field = r'.resolve? c.field) :
    c.sees b r = c.sees b' r' := by
  simp only [sees, hb, hr]

theorem sees_eq_false (h : b.resolve? c.field = r.resolve? c.field) : c.sees b r = false := by
  rw [sees, h, Json.sameOption_self, Bool.not_true]

theorem holds_of_changed (h : c.operator = .changed) (b r : Bag) :
    c.holds .clear b (some r) = c.sees b r := by
  rw [holds, if_pos ⟨h, rfl⟩, Option.any_some]

theorem holds_of_ne_changed (h : c.operator ≠ .changed) (b : Bag) (previous : Option Bag) :
    c.holds .clear b previous = c.holds .clear b none := by
  rw [holds, holds, if_neg fun hc ↦ h hc.1, if_neg fun hc ↦ h hc.1]

theorem holds_none_congr (hb : b.resolve? c.field = b'.resolve? c.field) (purpose : Purpose) :
    c.holds purpose b none = c.holds purpose b' none := by
  simp only [holds, Option.any_none, hb]

theorem holds_congr (hb : b.resolve? c.field = b'.resolve? c.field)
    (hr : r.resolve? c.field = r'.resolve? c.field)
    (purpose : Purpose) : c.holds purpose b (some r) = c.holds purpose b' (some r') := by
  simp only [holds, Option.any_some, sees_congr hb hr, hb]

end Formwork.Condition

namespace Formwork

theorem Binary64.compare_congr {x y : Binary64} (h : x.same y) (z : Binary64) :
    x.compare z = y.compare z := by
  rw [compare, compare, beq_iff_eq.1 h]

theorem Extended.compare?_congr {x y : Binary64} (h : x.same y) (z : Extended) :
    (finite x).compare? z = (finite y).compare? z := by
  cases z with
  | finite z => exact congrArg some (Binary64.compare_congr h z)
  | _ => rfl

theorem Number.same_toBinary64 {m n : Number} (h : m.same n) : m.toBinary64.same n.toBinary64 := by
  cases m with
  | int a =>
    cases n with
    | int b => rw [show a = b from beq_iff_eq.1 h, Binary64.same_self]
    | float y => cases h
  | float x =>
    cases n with
    | int b => cases h
    | float y => exact h

namespace Json

theorem compare?_number (n : Number) (x : Json) :
    (Json.number n).compare? x = x.numeric?.bind (Extended.finite n.toBinary64).compare? := by
  rw [compare?, numeric?]
  · rfl
  · rintro _ _ ⟨⟩

theorem compare?_congr {v w : Json} (h : v.same w) (x : Json) : v.compare? x = w.compare? x := by
  cases v with
  | null =>
    cases w with
    | null => rfl
    | _ => cases h
  | bool a =>
    cases w with
    | bool b => rw [show a = b from beq_iff_eq.1 h]
    | _ => cases h
  | number m =>
    cases w with
    | number n =>
      rw [compare?_number, compare?_number]
      exact congrArg _ (funext (Extended.compare?_congr (Number.same_toBinary64 h)))
    | _ => cases h
  | string s =>
    cases w with
    | string t => rw [show s = t from beq_iff_eq.1 h]
    | _ => cases h
  | array vs =>
    cases w with
    | array ws => cases x <;> rfl
    | _ => cases h
  | object vs =>
    cases w with
    | object ws => cases x <;> rfl
    | _ => cases h

theorem any_same_congr {vs ws : List Json} (h : sameItems vs ws) (x : Json) :
    (vs.any fun v ↦ v.same x) = ws.any fun w ↦ w.same x := by
  induction vs generalizing ws with
  | nil =>
    cases ws with
    | nil => rfl
    | cons w ws => cases h
  | cons v vs ih =>
    cases ws with
    | nil => cases h
    | cons w ws =>
      simp only [sameItems, Bool.and_eq_true] at h
      rw [List.any_cons, List.any_cons, same_congr v w h.1 x, ih h.2]

end Json

theorem Operator.test?_congr (op : Operator) {v w : Option Json} (h : Json.sameOption v w)
    (expected : Option Json) :
    op.test? v expected = op.test? w expected := by
  cases v with
  | none =>
    cases w with
    | none => rfl
    | some w => cases h
  | some v =>
    cases w with
    | none => cases h
    | some w =>
      have hs : v.same w := h
      cases op with
      | eq => rw [test?, test?, Json.sameOption_congr h]
      | neq => rw [test?, test?, Json.sameOption_congr h]
      | isIn =>
        have hi : (fun item ↦ Json.same item v) = fun item ↦ Json.same item w :=
          funext fun item ↦ by
          rw [Json.same_comm, Json.same_comm item, Json.same_congr v w hs]
        rcases expected with _ | (_ | _ | _ | _ | items | _)
        case some.array => exact congrArg (fun p ↦ some (items.any p)) hi
        all_goals rfl
      | contains =>
        cases v with
        | array vs =>
          cases w with
          | array ws =>
            cases expected with
            | none => rfl
            | some x => exact congrArg some (Json.any_same_congr hs x)
          | _ => cases hs
        | _ =>
          cases w with
          | array ws => cases hs
          | _ => rfl
      | gt => simp only [test?, Option.bind_eq_bind, Option.bind_some, Json.compare?_congr hs]
      | lt => simp only [test?, Option.bind_eq_bind, Option.bind_some, Json.compare?_congr hs]
      | changed => rfl
      | unknown => rfl

namespace Condition

variable {c : Condition} {b b' r : Bag}

theorem same_of_sees_eq_false (h : c.sees b r = false) :
    Json.sameOption (b.resolve? c.field) (r.resolve? c.field) := by
  rwa [sees, Bool.not_eq_false'] at h

theorem sees_eq_of_sees_eq_false (h : c.sees b b' = false) (r : Bag) :
    c.sees b r = c.sees b' r := by
  rw [sees, sees, Json.sameOption_congr (same_of_sees_eq_false h)]

theorem holds_none_of_sees_eq_false (h : c.sees b b' = false) (purpose : Purpose) :
    c.holds purpose b none = c.holds purpose b' none := by
  simp only [holds, Option.any_none, Operator.test?_congr _ (same_of_sees_eq_false h)]

end Condition

end Formwork
