import Formwork.Json.Basic

namespace Formwork

theorem Binary64.same_self (x : Binary64) : x.same x = true := beq_self_eq_true x.toInt

theorem Binary64.same_congr {x y : Binary64} (h : x.same y) (z : Binary64) :
    x.same z = y.same z := by
  rw [same, same, beq_iff_eq.1 h]

theorem Number.same_self (n : Number) : n.same n = true := by
  cases n with
  | int n => exact beq_self_eq_true n
  | float x => exact x.same_self

theorem Number.same_congr {m n : Number} (h : m.same n) (k : Number) : m.same k = n.same k := by
  cases m with
  | int a =>
    cases n with
    | int b => rw [show a = b from beq_iff_eq.1 h]
    | float y => cases h
  | float x =>
    cases n with
    | int b => cases h
    | float y =>
      cases k with
      | int c => rfl
      | float z => exact Binary64.same_congr h z

namespace Json

mutual

theorem same_self : (v : Json) → v.same v = true
  | .null => rfl
  | .bool b => beq_self_eq_true b
  | .number n => n.same_self
  | .string s => beq_self_eq_true s
  | .array items => sameItems_self items
  | .object members => sameMembers_self members

theorem sameItems_self : (vs : List Json) → sameItems vs vs = true
  | [] => rfl
  | v :: vs => by simp only [sameItems, same_self v, sameItems_self vs, Bool.and_self]

theorem sameMembers_self : (ms : List (String × Json)) → sameMembers ms ms = true
  | [] => rfl
  | (k, v) :: ms => by
    simp only [sameMembers, beq_self_eq_true, same_self v, sameMembers_self ms, Bool.and_self]

end

mutual

theorem same_congr : (v w : Json) → v.same w → (x : Json) → v.same x = w.same x
  | .null, w, h, x => by
    cases w with
    | null => rfl
    | _ => cases h
  | .bool a, w, h, x => by
    cases w with
    | bool b => rw [show a = b from beq_iff_eq.1 h]
    | _ => cases h
  | .number m, w, h, x => by
    cases w with
    | number n =>
      cases x with
      | number k => exact Number.same_congr h k
      | _ => rfl
    | _ => cases h
  | .string s, w, h, x => by
    cases w with
    | string t => rw [show s = t from beq_iff_eq.1 h]
    | _ => cases h
  | .array vs, w, h, x => by
    cases w with
    | array ws =>
      cases x with
      | array xs => exact sameItems_congr vs ws h xs
      | _ => rfl
    | _ => cases h
  | .object vs, w, h, x => by
    cases w with
    | object ws =>
      cases x with
      | object xs => exact sameMembers_congr vs ws h xs
      | _ => rfl
    | _ => cases h

theorem sameItems_congr : (vs ws : List Json) → sameItems vs ws → (xs : List Json) →
    sameItems vs xs = sameItems ws xs
  | [], ws, h, xs => by
    cases ws with
    | nil => rfl
    | cons w ws => cases h
  | v :: vs, ws, h, xs => by
    cases ws with
    | nil => cases h
    | cons w ws =>
      simp only [sameItems, Bool.and_eq_true] at h
      cases xs with
      | nil => rfl
      | cons x xs => simp only [sameItems, same_congr v w h.1 x, sameItems_congr vs ws h.2 xs]

theorem sameMembers_congr : (vs ws : List (String × Json)) → sameMembers vs ws →
    (xs : List (String × Json)) →
    sameMembers vs xs = sameMembers ws xs
  | [], ws, h, xs => by
    cases ws with
    | nil => rfl
    | cons w ws => cases h
  | (k, v) :: vs, ws, h, xs => by
    cases ws with
    | nil => cases h
    | cons w ws =>
      simp only [sameMembers, Bool.and_eq_true, beq_iff_eq] at h
      cases xs with
      | nil => rfl
      | cons x xs =>
        simp only [sameMembers, h.1.1, same_congr v w.2 h.1.2 x.2, sameMembers_congr vs ws h.2 xs]

end

theorem same_symm {v w : Json} (h : v.same w) : w.same v :=
  same_congr v w h v ▸ v.same_self

theorem same_comm (v w : Json) : v.same w = w.same v :=
  Bool.eq_iff_iff.2 ⟨same_symm, same_symm⟩

theorem sameOption_self (v : Option Json) : sameOption v v = true := by
  cases v with
  | none => rfl
  | some v => exact v.same_self

theorem sameOption_congr {v w : Option Json} (h : sameOption v w) (x : Option Json) :
    sameOption v x = sameOption w x := by
  cases v with
  | none =>
    cases w with
    | none => rfl
    | some w => cases h
  | some v =>
    cases w with
    | none => cases h
    | some w =>
      cases x with
      | none => rfl
      | some x => exact same_congr v w h x

mutual

def isExact : Json → Bool
  | .number (.float _) => false
  | .array items => isExactItems items
  | .object members => isExactMembers members
  | _ => true

def isExactItems : List Json → Bool
  | [] => true
  | v :: vs => isExact v && isExactItems vs

def isExactMembers : List (String × Json) → Bool
  | [] => true
  | (_, v) :: ms => isExact v && isExactMembers ms

end

mutual

theorem eq_of_same : (v w : Json) → v.same w → w.isExact → v = w
  | v, .null, h, _ => by
    cases v with
    | null => rfl
    | _ => cases h
  | v, .bool b, h, _ => by
    cases v with
    | bool a => rw [show a = b from beq_iff_eq.1 h]
    | _ => cases h
  | v, .number (.int n), h, _ => by
    cases v with
    | number m =>
      cases m with
      | int m => rw [show m = n from beq_iff_eq.1 h]
      | float x => cases h
    | _ => cases h
  | _, .number (.float _), _, he => nomatch he
  | v, .string t, h, _ => by
    cases v with
    | string s => rw [show s = t from beq_iff_eq.1 h]
    | _ => cases h
  | v, .array ws, h, he => by
    cases v with
    | array vs => rw [eqItems_of_same vs ws h he]
    | _ => cases h
  | v, .object ws, h, he => by
    cases v with
    | object vs => rw [eqMembers_of_same vs ws h he]
    | _ => cases h

theorem eqItems_of_same : (vs ws : List Json) → sameItems vs ws → isExactItems ws → vs = ws
  | vs, [], h, _ => by
    cases vs with
    | nil => rfl
    | cons v vs => cases h
  | vs, w :: ws, h, he => by
    cases vs with
    | nil => cases h
    | cons v vs =>
      simp only [sameItems, isExactItems, Bool.and_eq_true] at h he
      rw [eq_of_same v w h.1 he.1, eqItems_of_same vs ws h.2 he.2]

theorem eqMembers_of_same : (vs ws : List (String × Json)) → sameMembers vs ws →
    isExactMembers ws → vs = ws
  | vs, [], h, _ => by
    cases vs with
    | nil => rfl
    | cons v vs => cases h
  | vs, (k, w) :: ws, h, he => by
    cases vs with
    | nil => cases h
    | cons v vs =>
      simp only [sameMembers, isExactMembers, Bool.and_eq_true, beq_iff_eq] at h he
      rw [← h.1.1, ← eq_of_same v.2 w h.1.2 he.1, eqMembers_of_same vs ws h.2 he.2]

end

end Json

end Formwork
