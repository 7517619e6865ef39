import Formwork.Json.Basic
import Formwork.Number.Notation

namespace Formwork

/-- Puts an entry into an ordered list, in the place of an entry with the same key if there is
one. -/
def insertEntry (key : String) (value : Json) : List (String × Json) → List (String × Json)
  | [] => [(key, value)]
  | (k, v) :: rest =>
    if key < k then (key, value) :: (k, v) :: rest
    else if key = k then (key, value) :: rest
    else (k, v) :: insertEntry key value rest

theorem mem_insertEntry {key : String} {value : Json} {e : String × Json}
    {es : List (String × Json)} (h : e ∈ insertEntry key value es) : e = (key, value) ∨ e ∈ es := by
  induction es with
  | nil => simpa [insertEntry] using h
  | cons a es ih =>
    obtain ⟨k, v⟩ := a
    rw [insertEntry] at h
    split at h
    · simpa using h
    · split at h
      · rcases List.mem_cons.1 h with h | h
        · exact .inl h
        · exact .inr (List.mem_cons_of_mem _ h)
      · rcases List.mem_cons.1 h with h | h
        · exact .inr (h ▸ List.mem_cons_self)
        · exact (ih h).imp_right (List.mem_cons_of_mem _)

theorem insertEntry_sorted {key : String} {value : Json} {es : List (String × Json)}
    (h : es.Pairwise (fun a b ↦ a.1 < b.1)) :
    (insertEntry key value es).Pairwise (fun a b ↦ a.1 < b.1) := by
  induction es with
  | nil => simp [insertEntry]
  | cons a es ih =>
    obtain ⟨k, v⟩ := a
    obtain ⟨hk, hs⟩ := List.pairwise_cons.1 h
    rw [insertEntry]
    split
    · next hlt =>
      refine List.pairwise_cons.2 ⟨fun e he ↦ ?_, h⟩
      rcases List.mem_cons.1 he with rfl | he
      · exact hlt
      · exact String.lt_trans hlt (hk e he)
    · next hlt =>
      split
      · next heq => exact List.pairwise_cons.2 ⟨fun e he ↦ heq ▸ hk e he, hs⟩
      · next hne =>
        refine List.pairwise_cons.2 ⟨fun e he ↦ ?_, ih hs⟩
        rcases mem_insertEntry he with rfl | he
        · exact Decidable.byContradiction fun hgt ↦
            hne (String.le_antisymm (String.not_lt.1 hgt) (String.not_lt.1 hlt))
        · exact hk e he

theorem lookup_cons_eq_ite (key : String) (value : Json) (es : List (String × Json)) (k : String) :
    ((key, value) :: es).lookup k = if k = key then some value else es.lookup k := by
  rw [List.lookup_cons]
  split
  · next h => rw [if_pos (beq_iff_eq.1 h)]
  · next h => rw [if_neg (beq_eq_false_iff_ne.1 h)]

theorem lookup_insertEntry (key : String) (value : Json) (es : List (String × Json)) (k : String) :
    (insertEntry key value es).lookup k = if k = key then some value else es.lookup k := by
  induction es with
  | nil => rw [insertEntry, lookup_cons_eq_ite]
  | cons a es ih =>
    obtain ⟨l, v⟩ := a
    rw [insertEntry]
    split
    · rw [lookup_cons_eq_ite]
    · split
      · next heq =>
        subst heq
        simp only [lookup_cons_eq_ite]
        split <;> rfl
      · next hne =>
        simp only [lookup_cons_eq_ite, ih]
        by_cases h : k = key
        · rw [if_pos h, if_pos h, if_neg fun hl ↦ hne (h.symm.trans hl)]
        · rw [if_neg h, if_neg h]

theorem lookup_eq_none_iff_notMem {α : Type} {es : List (String × α)} {k : String} :
    es.lookup k = none ↔ k ∉ es.map Prod.fst := by
  rw [List.lookup_eq_none_iff, List.mem_map, not_exists]
  simp only [not_and, bne_iff_ne, ne_eq, @eq_comm _ k]

theorem lookup_eq_none_of_lt {k : String} {es : List (String × Json)} (h : ∀ e ∈ es, k < e.1) :
    es.lookup k = none := by
  induction es with
  | nil => rfl
  | cons a es ih =>
    have hne : k ≠ a.1 := fun heq ↦ String.lt_irrefl _ (heq ▸ h a List.mem_cons_self)
    rw [lookup_cons_eq_ite, if_neg hne]
    exact ih fun e he ↦ h e (List.mem_cons_of_mem _ he)

theorem le_of_lookup {k l : String} {v : Json} {es : List (String × Json)}
    (h : es.lookup k = some v) (hs : ∀ e ∈ es, l < e.1) : l ≤ k :=
  String.not_lt.1 fun hlt ↦
    Option.some_ne_none v (h.symm.trans
      (lookup_eq_none_of_lt fun e he ↦ String.lt_trans hlt (hs e he)))

theorem eq_of_lookup_eq {es fs : List (String × Json)} (he : es.Pairwise (fun a b ↦ a.1 < b.1))
    (hf : fs.Pairwise (fun a b ↦ a.1 < b.1)) (h : ∀ k, es.lookup k = fs.lookup k) : es = fs := by
  induction es generalizing fs with
  | nil =>
    cases fs with
    | nil => rfl
    | cons b fs =>
      have hb := h b.1
      rw [lookup_cons_eq_ite, if_pos rfl] at hb
      cases hb
  | cons a es ih =>
    obtain ⟨k, v⟩ := a
    obtain ⟨hk, hes⟩ := List.pairwise_cons.1 he
    cases fs with
    | nil =>
      have ha := h k
      rw [lookup_cons_eq_ite, if_pos rfl] at ha
      cases ha
    | cons b fs =>
      obtain ⟨l, w⟩ := b
      obtain ⟨hl, hfs⟩ := List.pairwise_cons.1 hf
      simp only [lookup_cons_eq_ite] at h
      have hkl : k = l := by
        refine Decidable.byContradiction fun hne ↦ ?_
        have h1 : fs.lookup k = some v := by simpa [hne] using (h k).symm
        have h2 : es.lookup l = some w := by simpa [Ne.symm hne] using h l
        exact hne (String.le_antisymm (le_of_lookup h2 hk) (le_of_lookup h1 hl))
      subst hkl
      obtain rfl : v = w := by simpa using h k
      refine congrArg _ (ih hes hfs fun x ↦ ?_)
      by_cases hx : x = k
      · rw [hx, lookup_eq_none_of_lt hk, lookup_eq_none_of_lt hl]
      · simpa [hx] using h x

/-- A finite map from keys to values, in ascending order of the keys. -/
structure Record where
  entries : List (String × Json)
  sorted : entries.Pairwise (fun a b ↦ a.1 < b.1)

abbrev Bag := Record

namespace Record

def empty : Record := ⟨[], .nil⟩

instance : Inhabited Record := ⟨empty⟩

def get? (r : Record) (key : String) : Option Json := r.entries.lookup key

def contains (r : Record) (key : String) : Bool := (r.get? key).isSome

def keys (r : Record) : List String := r.entries.map Prod.fst

def insert (r : Record) (key : String) (value : Json) : Record :=
  ⟨insertEntry key value r.entries, insertEntry_sorted r.sorted⟩

/-- Writes entries one after the other; the last one of a key stays. -/
def insertAll (r : Record) (es : List (String × Json)) : Record :=
  es.foldl (fun r e ↦ r.insert e.1 e.2) r

def ofList (es : List (String × Json)) : Record := empty.insertAll es

def overlay (r other : Record) : Record := r.insertAll other.entries

def toJson (r : Record) : Json := .object r.entries

theorem get?_empty (k : String) : empty.get? k = none := rfl

theorem get?_insert (r : Record) (key : String) (value : Json) (k : String) :
    (r.insert key value).get? k = if k = key then some value else r.get? k :=
  lookup_insertEntry key value r.entries k

theorem eq_of_get?_eq {r s : Record} (h : ∀ k, r.get? k = s.get? k) : r = s := by
  obtain ⟨es, he⟩ := r
  obtain ⟨fs, hf⟩ := s
  obtain rfl := eq_of_lookup_eq he hf h
  rfl

end Record

def splitAtDots : List Char → List Char × List (List Char)
  | [] => ([], [])
  | c :: cs =>
    let (first, rest) := splitAtDots cs
    if c = '.' then ([], first :: rest) else (c :: first, rest)

def pathHead (path : String) : String := String.ofList (splitAtDots path.toList).1

def pathTail (path : String) : List String := (splitAtDots path.toList).2.map String.ofList

namespace Json

def child? (v : Json) (segment : String) : Option Json :=
  match v with
  | .object members => members.lookup segment
  | .array items => (Whole.ofText? segment).bind fun i ↦ items[i]?
  | _ => none

def walk? (v : Json) (segments : List String) : Option Json := segments.foldlM child? v

theorem walk?_nil (v : Json) : v.walk? [] = some v := rfl

theorem walk?_cons (v : Json) (segment : String) (rest : List String) :
    v.walk? (segment :: rest) = (v.child? segment).bind fun x ↦ x.walk? rest :=
  List.foldlM_cons

end Json

namespace Record

/-- The value that a path leads to. A key wins over a walk, and the empty path leads nowhere. -/
def resolve? (bag : Bag) (path : String) : Option Json :=
  if path.isEmpty then none
  else match bag.get? path with
    | some v => some v
    | none => (bag.get? (pathHead path)).bind fun v ↦ v.walk? (pathTail path)

end Record

end Formwork
