import Formwork.Proofs.Number.Whole
import Formwork.Proofs.Record.Frame

namespace Formwork

def pathSegments (path : String) : List String := (path.toList.splitOn '.').map String.ofList

theorem splitOn_dot (cs : List Char) :
    cs.splitOn '.' = (splitAtDots cs).1 :: (splitAtDots cs).2 := by
  induction cs with
  | nil => rfl
  | cons c cs ih =>
    rw [List.splitOn_cons_eq_if_modifyHead, ih, splitAtDots]
    by_cases hc : c = '.'
    · simp [hc]
    · simp [hc]

theorem pathSegments_eq (path : String) : pathSegments path = pathHead path :: pathTail path := by
  rw [pathSegments, splitOn_dot]
  rfl

namespace Json

/-- The ends of walks. A segment is the key of a member or the index of an item; a walk comes to
nothing as soon as there is none. -/
inductive WalksTo : Json → List String → Option Json → Prop
  | here (v : Json) : WalksTo v [] (some v)
  | member {members : List (String × Json)} {key : String} {x : Json} {rest : List String}
      {r : Option Json} :
      members.lookup key = some x → WalksTo x rest r → WalksTo (.object members) (key :: rest) r
  | item {items : List Json} {segment : String} {i : Nat} {x : Json} {rest : List String}
      {r : Option Json} :
      Whole.Spells segment i → items[i]? = some x → WalksTo x rest r →
      WalksTo (.array items) (segment :: rest) r
  | noMember {members : List (String × Json)} {key : String} {rest : List String} :
      key ∉ members.map Prod.fst → WalksTo (.object members) (key :: rest) none
  | noIndex {items : List Json} {segment : String} {rest : List String} :
      (∀ i, ¬ Whole.Spells segment i) → WalksTo (.array items) (segment :: rest) none
  | noItem {items : List Json} {segment : String} {i : Nat} {rest : List String} :
      Whole.Spells segment i → items.length ≤ i → WalksTo (.array items) (segment :: rest) none
  | scalar {v : Json} {segment : String} {rest : List String} :
      (∀ members, v ≠ .object members) → (∀ items, v ≠ .array items) →
      WalksTo v (segment :: rest) none

variable {v : Json} {segment : String} {i : Nat} {segments : List String} {r : Option Json}

theorem child?_object (members : List (String × Json)) (key : String) :
    (object members).child? key = members.lookup key := rfl

theorem child?_array (h : Whole.Spells segment i) (items : List Json) :
    (array items).child? segment = items[i]? := by
  rw [child?, Whole.ofText?_eq_some_iff.2 h, Option.bind_some]

theorem child?_array_of_not_spells (h : ∀ i, ¬ Whole.Spells segment i) (items : List Json) :
    (array items).child? segment = none := by
  have hnone : Whole.ofText? segment = none := Option.eq_none_iff_forall_ne_some.2 fun i hi ↦
    h i (Whole.ofText?_eq_some_iff.1 hi)
  rw [child?, hnone, Option.bind_none]

theorem WalksTo.walk?_eq (h : v.WalksTo segments r) : v.walk? segments = r := by
  induction h with
  | here v => exact walk?_nil v
  | member hx _ ih => rw [walk?_cons, child?_object, hx, Option.bind_some, ih]
  | item hi hx _ ih => rw [walk?_cons, child?_array hi, hx, Option.bind_some, ih]
  | noMember hx => rw [walk?_cons, child?_object, lookup_eq_none_iff_notMem.2 hx, Option.bind_none]
  | noIndex hi => rw [walk?_cons, child?_array_of_not_spells hi, Option.bind_none]
  | noItem hi hx => rw [walk?_cons, child?_array hi, List.getElem?_eq_none hx, Option.bind_none]
  | @scalar v _ _ ho ha =>
    rw [walk?_cons]
    cases v with
    | object members => exact absurd rfl (ho members)
    | array items => exact absurd rfl (ha items)
    | _ => rfl

theorem walksTo_walk? (v : Json) (segments : List String) :
    v.WalksTo segments (v.walk? segments) := by
  induction segments generalizing v with
  | nil => exact .here v
  | cons segment rest ih =>
    rw [walk?_cons]
    cases v with
    | object members =>
      rw [child?_object]
      cases hx : members.lookup segment with
      | none => exact .noMember (lookup_eq_none_iff_notMem.1 hx)
      | some x => exact .member hx (ih x)
    | array items =>
      by_cases hs : ∃ i, Whole.Spells segment i
      · obtain ⟨i, hi⟩ := hs
        rw [child?_array hi]
        cases hx : items[i]? with
        | none => exact .noItem hi (List.getElem?_eq_none_iff.1 hx)
        | some x => exact .item hi hx (ih x)
      · rw [child?_array_of_not_spells (not_exists.1 hs)]
        exact .noIndex (not_exists.1 hs)
    | _ => exact .scalar nofun nofun

theorem walk?_eq_iff : v.walk? segments = r ↔ v.WalksTo segments r :=
  ⟨fun h ↦ h ▸ walksTo_walk? v segments, WalksTo.walk?_eq⟩

end Json

namespace Record

variable {bag : Bag} {name path first : String} {rest : List String}

theorem resolve?_insert_self (bag : Bag) (v : Json) (hp : path ≠ "") :
    (bag.insert path v).resolve? path = some v := by
  have hc : (bag.insert path v).contains path := by
    rw [contains_insert, beq_self_eq_true, Bool.true_or]
  rw [resolve?_of_contains hp hc, get?_insert_self]

theorem readKey_ne (hn : path ≠ name) (h : bag.contains path ∨ pathHead path ≠ name) :
    bag.readKey path ≠ name := by
  rw [readKey]
  split
  · exact hn
  · next hc => exact h.resolve_left hc

theorem resolve?_insert_pathHead (v : Json) (hp : path ≠ "") (hn : path ≠ pathHead path)
    (hc : ¬ bag.contains path) :
    (bag.insert (pathHead path) v).resolve? path = v.walk? (pathTail path) := by
  have hc' : ¬ (bag.insert (pathHead path) v).contains path := by
    rwa [contains_congr (get?_insert_of_ne bag v hn)]
  rw [resolve?_of_not_contains hp hc', get?_insert_self, Option.bind_some]

/-- A write shows under its own key and under the paths through it, and nowhere else. -/
theorem resolve?_insert_iff (bag : Bag) (name : String) (v : Json)
    (hs : pathSegments path = first :: rest) (r : Option Json) :
    (bag.insert name v).resolve? path = r ↔
      if path = "" then r = none
      else if path = name then r = some v
      else if bag.contains path ∨ first ≠ name then r = bag.resolve? path
      else v.WalksTo rest r := by
  rw [pathSegments_eq] at hs
  obtain ⟨rfl, rfl⟩ := List.cons.inj hs
  split
  · next hp => rw [hp, resolve?_empty, eq_comm]
  · next hp =>
    split
    · next hn => rw [← hn, resolve?_insert_self bag v hp, eq_comm]
    · next hn =>
      split
      · next h => rw [resolve?_insert_of_ne hn (readKey_ne hn h), eq_comm]
      · next h =>
        obtain ⟨hc, hh⟩ := not_or.1 h
        obtain rfl := Decidable.not_not.1 hh
        rw [resolve?_insert_pathHead v hp hn hc]
        exact Json.walk?_eq_iff

def nightsOn (days : List String) : Json := .object [("nights", .array (days.map .string))]

def lodgers : Bag := .ofList [("stay", nightsOn ["Fri"]), ("stay.guests", .int 2)]

theorem resolve?_insert_iff_lodgers :
    pathSegments "stay.nights.+01" = ["stay", "nights", "+01"] ∧
    (lodgers.insert "stay" (nightsOn ["Mon", "Tue"])).resolve? "stay.nights.+01" =
      some (.string "Tue") ∧
    pathSegments "stay.nights.2" = ["stay", "nights", "2"] ∧
    (lodgers.insert "stay" (nightsOn ["Mon", "Tue"])).resolve? "stay.nights.2" = none ∧
    pathSegments "stay.guests" = ["stay", "guests"] ∧
    (lodgers.insert "stay" (nightsOn ["Mon", "Tue"])).resolve? "stay.guests" =
      lodgers.resolve? "stay.guests" := by
  have hnight : pathSegments "stay.nights.+01" = ["stay", "nights", "+01"] := by decide
  have hlate : pathSegments "stay.nights.2" = ["stay", "nights", "2"] := by decide
  have hguests : pathSegments "stay.guests" = ["stay", "guests"] := by decide
  have hone : Whole.Spells "+01" 1 := Whole.ofText?_eq_some_iff.1 (by decide)
  have htwo : Whole.Spells "2" 2 := Whole.ofText?_eq_some_iff.1 (by decide)
  have hwalk : (nightsOn ["Mon", "Tue"]).WalksTo ["nights", "+01"] (some (.string "Tue")) :=
    .member rfl (.item hone rfl (.here _))
  have hmiss : (nightsOn ["Mon", "Tue"]).WalksTo ["nights", "2"] none :=
    .member rfl (.noItem htwo (Nat.le_refl 2))
  refine ⟨hnight, ?_, hlate, ?_, hguests, ?_⟩
  · rw [resolve?_insert_iff lodgers "stay" _ hnight, if_neg (by decide), if_neg (by decide),
      if_neg (by decide)]
    exact hwalk
  · rw [resolve?_insert_iff lodgers "stay" _ hlate, if_neg (by decide), if_neg (by decide),
      if_neg (by decide)]
    exact hmiss
  · rw [resolve?_insert_iff lodgers "stay" _ hguests, if_neg (by decide), if_neg (by decide),
      if_pos (by decide)]

end Record

end Formwork
