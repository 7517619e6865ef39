import Formwork.Record.Basic

namespace Formwork.Record

theorem get?_insert_self (r : Record) (key : String) (value : Json) :
    (r.insert key value).get? key = some value := by
  rw [get?_insert, if_pos rfl]

theorem get?_insert_of_ne (r : Record) {key k : String} (value : Json) (h : k ≠ key) :
    (r.insert key value).get? k = r.get? k := by
  rw [get?_insert, if_neg h]

theorem insert_of_get? {r : Record} {key : String} {value : Json} (h : r.get? key = some value) :
    r.insert key value = r := by
  refine eq_of_get?_eq fun k ↦ ?_
  rw [get?_insert]
  split
  · next hk => rw [hk, h]
  · rfl

theorem mem_entries_insert {r : Record} {key : String} {value : Json} {e : String × Json}
    (h : e ∈ (r.insert key value).entries) : e = (key, value) ∨ e ∈ r.entries :=
  mem_insertEntry h

theorem insert_comm (r : Record) {k l : String} (v w : Json) (h : k ≠ l) :
    (r.insert k v).insert l w = (r.insert l w).insert k v := by
  refine eq_of_get?_eq fun x ↦ ?_
  simp only [get?_insert]
  by_cases hx : x = k
  · have hl : x ≠ l := hx ▸ h
    rw [if_neg hl, if_pos hx, if_pos hx]
  · rw [if_neg hx, if_neg hx]

theorem contains_congr {b b' : Bag} {k : String} (h : b.get? k = b'.get? k) :
    b.contains k = b'.contains k := by
  simp only [contains, h]

theorem contains_insert (r : Record) (key : String) (value : Json) (k : String) :
    (r.insert key value).contains k = (k == key || r.contains k) := by
  by_cases h : k = key
  · subst h
    simp only [contains, get?_insert_self, Option.isSome_some, beq_self_eq_true, Bool.true_or]
  · simp only [contains, get?_insert_of_ne r value h, beq_eq_false_iff_ne.2 h, Bool.false_or]

theorem contains_insertAll (r : Record) (es : List (String × Json)) (k : String) :
    (r.insertAll es).contains k = (es.any (·.1 == k) || r.contains k) := by
  induction es generalizing r with
  | nil => rfl
  | cons e es ih =>
    have h : (r.insertAll (e :: es)).contains k = ((r.insert e.1 e.2).insertAll es).contains k :=
      rfl
    rw [h, ih, contains_insert, List.any_cons, BEq.comm (a := k), ← Bool.or_assoc,
      Bool.or_comm (List.any _ _)]

theorem resolve?_empty (bag : Bag) : bag.resolve? "" = none := rfl

theorem resolve?_congr {b b' : Bag} {path : String} (h : b.get? path = b'.get? path)
    (hh : b.get? (pathHead path) = b'.get? (pathHead path)) :
    b.resolve? path = b'.resolve? path := by
  simp only [resolve?, h, hh]

theorem resolve?_eq_or {bag : Bag} {path : String} (hp : path ≠ "") :
    bag.resolve? path = (bag.get? path).or ((bag.get? (pathHead path)).bind fun v ↦
      v.walk? (pathTail path)) := by
  rw [resolve?, if_neg (mt String.isEmpty_iff.1 hp)]
  cases bag.get? path <;> rfl

theorem resolve?_of_contains {bag : Bag} {path : String} (hp : path ≠ "") (h : bag.contains path) :
    bag.resolve? path = bag.get? path := by
  obtain ⟨v, hv⟩ := Option.isSome_iff_exists.1 h
  rw [resolve?_eq_or hp, hv, Option.some_or]

theorem resolve?_of_not_contains {bag : Bag} {path : String} (hp : path ≠ "")
    (h : ¬ bag.contains path) :
    bag.resolve? path = (bag.get? (pathHead path)).bind fun v ↦ v.walk? (pathTail path) := by
  have hn : bag.get? path = none := Option.not_isSome_iff_eq_none.1 h
  rw [resolve?_eq_or hp, hn, Option.none_or]

theorem resolve?_congr_of_contains {b b' : Bag} {path : String} (hc : b.contains path)
    (h : b.get? path = b'.get? path) : b.resolve? path = b'.resolve? path := by
  by_cases hp : path = ""
  · subst hp
    rw [resolve?_empty, resolve?_empty]
  · rw [resolve?_of_contains hp hc, resolve?_of_contains hp (contains_congr h ▸ hc), h]

/-- The key that a path is read at: the path itself, if the bag has that key, and otherwise its
head. -/
def readKey (bag : Bag) (path : String) : String :=
  if bag.contains path then path else pathHead path

theorem readKey_congr {b b' : Bag} {path : String} (h : b.contains path = b'.contains path) :
    b.readKey path = b'.readKey path := by
  rw [readKey, readKey, h]

theorem resolve?_congr_of_readKey {b b' : Bag} {path : String}
    (hc : b.contains path = b'.contains path)
    (h : b.get? (b.readKey path) = b'.get? (b.readKey path)) :
    b.resolve? path = b'.resolve? path := by
  by_cases hp : b.contains path
  · rw [readKey, if_pos hp] at h
    exact resolve?_congr_of_contains hp h
  · rw [readKey, if_neg hp] at h
    have hp' : ¬ b'.contains path := hc ▸ hp
    have hn : b.get? path = none := Option.not_isSome_iff_eq_none.1 hp
    have hn' : b'.get? path = none := Option.not_isSome_iff_eq_none.1 hp'
    exact resolve?_congr (hn.trans hn'.symm) h

/-- A write of another key than the one that a path is read at does not move the path. -/
theorem resolve?_insert_of_ne {b : Bag} {key path : String} {value : Json} (hp : path ≠ key)
    (hk : b.readKey path ≠ key) : (b.insert key value).resolve? path = b.resolve? path := by
  have hc : (b.insert key value).contains path = b.contains path :=
    contains_congr (get?_insert_of_ne b value hp)
  apply resolve?_congr_of_readKey hc
  rw [readKey_congr hc, get?_insert_of_ne b value hk]

/-- A write that moves a path writes the key that the path is read at from then on. -/
theorem readKey_insert_of_moved {b : Bag} {key path : String} {value : Json}
    (h : (b.insert key value).resolve? path ≠ b.resolve? path) :
    (b.insert key value).readKey path = key := by
  by_cases hp : path = key
  · rw [readKey, contains_insert, hp, beq_self_eq_true, Bool.true_or, if_pos rfl]
  · rw [readKey_congr (contains_congr (get?_insert_of_ne b value hp))]
    exact Decidable.byContradiction fun hk ↦ h (resolve?_insert_of_ne hp hk)

end Formwork.Record
