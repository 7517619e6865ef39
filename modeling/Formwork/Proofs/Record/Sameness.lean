import Formwork.Proofs.Json.Equality
import Formwork.Record.Basic

namespace Formwork

namespace Json

variable {v w : Json}

theorem sameOption_getElem? {vs ws : List Json} (h : sameItems vs ws) (i : Nat) :
    sameOption vs[i]? ws[i]? := by
  induction vs generalizing ws i with
  | nil =>
    cases ws with
    | nil => rfl
    | cons w ws => cases h
  | cons v vs ih =>
    cases ws with
    | nil => cases h
    | cons w ws =>
      simp only [sameItems, Bool.and_eq_true] at h
      cases i with
      | zero => exact h.1
      | succ i => simpa using ih h.2 i

theorem sameOption_lookup {vs ws : List (String × Json)} (h : sameMembers vs ws) (k : String) :
    sameOption (vs.lookup k) (ws.lookup k) := by
  induction vs generalizing ws with
  | nil =>
    cases ws with
    | nil => rfl
    | cons w ws => cases h
  | cons v vs ih =>
    cases ws with
    | nil => cases h
    | cons w ws =>
      simp only [sameMembers, Bool.and_eq_true, beq_iff_eq] at h
      rw [lookup_cons_eq_ite v.1 v.2, lookup_cons_eq_ite w.1 w.2, h.1.1]
      split
      · exact h.1.2
      · exact ih h.2

theorem sameOption_child? (h : v.same w) (segment : String) :
    sameOption (v.child? segment) (w.child? segment) := by
  cases v with
  | array vs =>
    cases w with
    | array ws =>
      simp only [child?]
      cases Whole.ofText? segment with
      | none => rfl
      | some i => exact sameOption_getElem? h i
    | _ => cases h
  | object vs =>
    cases w with
    | object ws => exact sameOption_lookup h segment
    | _ => cases h
  | _ =>
    cases w with
    | array ws => cases h
    | object ws => cases h
    | _ => rfl

theorem sameOption_cases {v w : Option Json} (h : sameOption v w) :
    v = none ∧ w = none ∨ ∃ x y, v = some x ∧ w = some y ∧ x.same y := by
  cases v with
  | none =>
    cases w with
    | none => exact .inl ⟨rfl, rfl⟩
    | some y => cases h
  | some x =>
    cases w with
    | none => cases h
    | some y => exact .inr ⟨x, y, rfl, rfl, h⟩

theorem sameOption_bind {v w : Option Json} {f : Json → Option Json} (h : sameOption v w)
    (hf : ∀ x y : Json, x.same y → sameOption (f x) (f y)) : sameOption (v.bind f) (w.bind f) := by
  rcases sameOption_cases h with ⟨rfl, rfl⟩ | ⟨x, y, rfl, rfl, hxy⟩
  · rfl
  · exact hf x y hxy

theorem sameOption_walk? (h : v.same w) (segments : List String) :
    sameOption (v.walk? segments) (w.walk? segments) := by
  induction segments generalizing v w with
  | nil => exact h
  | cons segment rest ih =>
    rw [walk?_cons, walk?_cons]
    exact sameOption_bind (sameOption_child? h segment) fun x y hxy ↦ ih hxy

end Json

namespace Record

/-- Under every key there are equal values in the two bags, or none. -/
def Same (b b' : Bag) : Prop := ∀ k, Json.sameOption (b.get? k) (b'.get? k)

theorem same_insert {b : Bag} {key : String} {value : Json}
    (h : Json.sameOption (some value) (b.get? key)) :
    (b.insert key value).Same b := by
  intro k
  rw [get?_insert]
  split
  · next hk => exact hk ▸ h
  · exact Json.sameOption_self _

theorem Same.sameOption_resolve? {b b' : Bag} (h : b.Same b') (path : String) :
    Json.sameOption (b.resolve? path) (b'.resolve? path) := by
  rw [resolve?, resolve?]
  split
  · rfl
  · rcases Json.sameOption_cases (h path) with ⟨hb, hb'⟩ | ⟨x, y, hb, hb', hxy⟩
    · rw [hb, hb']
      exact Json.sameOption_bind (h (pathHead path)) fun x y hxy ↦ Json.sameOption_walk? hxy
        (pathTail path)
    · rw [hb, hb']
      exact hxy

end Record

end Formwork
