import Formwork.Proofs.Record.Frame
import Mathlib.Data.List.Nodup

namespace Formwork

theorem lookup_filter_fst (p : String → Bool) (es : List (String × Json)) (k : String) :
    (es.filter fun e ↦ p e.1).lookup k = if p k then es.lookup k else none := by
  induction es with
  | nil => simp
  | cons e es ih =>
    rw [List.filter_cons]
    by_cases hk : k = e.1
    · subst hk
      by_cases hp : p e.1
      · rw [if_pos hp, if_pos hp, lookup_cons_eq_ite, lookup_cons_eq_ite, if_pos rfl, if_pos rfl]
      · rw [if_neg hp, ih, if_neg hp, if_neg hp]
    · have hskip : (e :: es).lookup k = es.lookup k := by rw [lookup_cons_eq_ite, if_neg hk]
      rw [hskip, ← ih]
      split
      · rw [lookup_cons_eq_ite, if_neg hk]
      · rfl

theorem mem_of_lookup {α : Type} {es : List (String × α)} {k : String} {v : α}
    (h : es.lookup k = some v) :
    (k, v) ∈ es := by
  obtain ⟨before, behind, rfl, -⟩ := List.lookup_eq_some_iff.1 h
  exact List.mem_append_right before (.head behind)

theorem lookup_of_mem {α : Type} {es : List (String × α)} (hd : (es.map Prod.fst).Nodup)
    {k : String} {v : α} (h : (k, v) ∈ es) : es.lookup k = some v := by
  obtain ⟨before, behind, rfl⟩ := List.append_of_mem h
  refine List.lookup_eq_some_iff.2 ⟨before, behind, rfl, fun e he ↦ bne_iff_ne.2 fun hk ↦ ?_⟩
  rw [List.map_append, List.map_cons] at hd
  have hbefore : e.1 ∈ before.map Prod.fst := List.mem_map_of_mem he
  exact List.disjoint_of_nodup_append hd hbefore (hk ▸ .head _)

theorem lookup_eq_some_iff_mem {α : Type} {es : List (String × α)} (hd : (es.map Prod.fst).Nodup)
    {k : String} {v : α} : es.lookup k = some v ↔ (k, v) ∈ es :=
  ⟨mem_of_lookup, lookup_of_mem hd⟩

namespace Record

@[simp]
theorem insertAll_append (r : Record) (es fs : List (String × Json)) :
    r.insertAll (es ++ fs) = (r.insertAll es).insertAll fs :=
  List.foldl_append

@[simp]
theorem insertAll_cons (r : Record) (e : String × Json) (es : List (String × Json)) :
    r.insertAll (e :: es) = (r.insert e.1 e.2).insertAll es := rfl

@[simp]
theorem insertAll_nil (r : Record) : r.insertAll [] = r := rfl

@[simp]
theorem lookup_entries (r : Record) (k : String) : r.entries.lookup k = r.get? k := rfl

theorem get?_insertAll_of_nodup {es : List (String × Json)} (hd : (es.map Prod.fst).Nodup)
    (r : Record) (k : String) :
    (r.insertAll es).get? k = (es.lookup k).or (r.get? k) := by
  induction es generalizing r with
  | nil => rfl
  | cons e es ih =>
    obtain ⟨he, hes⟩ := List.nodup_cons.1 hd
    rw [insertAll_cons, ih hes, get?_insert, lookup_cons_eq_ite]
    by_cases hk : k = e.1
    · have hnone : es.lookup k = none := lookup_eq_none_iff_notMem.2 (hk ▸ he)
      rw [if_pos hk, if_pos hk, hnone, Option.none_or, Option.some_or]
    · rw [if_neg hk, if_neg hk]

theorem nodup_of_sorted {es : List (String × Json)} (hs : es.Pairwise fun a b ↦ a.1 < b.1) :
    (es.map Prod.fst).Nodup :=
  List.pairwise_map.2 (hs.imp fun {a b} hlt (heq : a.1 = b.1) ↦ String.lt_irrefl b.1 (heq ▸ hlt))

theorem nodup_keys (r : Record) : (r.entries.map Prod.fst).Nodup :=
  nodup_of_sorted r.sorted

theorem entries_ofList {es : List (String × Json)} (hs : es.Pairwise fun a b ↦ a.1 < b.1) :
    (ofList es).entries = es := by
  refine eq_of_lookup_eq (ofList es).sorted hs fun k ↦ ?_
  rw [lookup_entries, ofList, get?_insertAll_of_nodup (nodup_of_sorted hs), get?_empty,
    Option.or_none]

theorem mem_entries_iff {r : Record} {k : String} {v : Json} :
    (k, v) ∈ r.entries ↔ r.get? k = some v :=
  (lookup_eq_some_iff_mem r.nodup_keys).symm

theorem mem_entries_insertAll {r : Record} {es : List (String × Json)} {e : String × Json}
    (h : e ∈ (r.insertAll es).entries) : e ∈ es ∨ e ∈ r.entries := by
  induction es generalizing r with
  | nil => exact .inr h
  | cons a es ih =>
    rcases ih h with hes | hr
    · exact .inl (.tail a hes)
    · rcases mem_entries_insert hr with rfl | hr
      · exact .inl (.head es)
      · exact .inr hr

theorem mem_of_mem_entries_ofList {es : List (String × Json)} {e : String × Json}
    (h : e ∈ (ofList es).entries) :
    e ∈ es :=
  (mem_entries_insertAll h).resolve_right List.not_mem_nil

theorem exists_mem_entries_ofList {es : List (String × Json)} {k : String}
    (h : k ∈ es.map Prod.fst) :
    ∃ v, (k, v) ∈ (ofList es).entries := by
  have hk : (ofList es).contains k := by
    obtain ⟨e, he, rfl⟩ := List.mem_map.1 h
    have hany : es.any (·.1 == e.1) := List.any_eq_true.2 ⟨e, he, beq_self_eq_true e.1⟩
    rw [ofList, contains_insertAll, hany, Bool.true_or]
  obtain ⟨v, hv⟩ := Option.isSome_iff_exists.1 hk
  exact ⟨v, mem_entries_iff.2 hv⟩

theorem get?_overlay (r s : Record) (k : String) :
    (r.overlay s).get? k = (s.get? k).or (r.get? k) := by
  rw [overlay, get?_insertAll_of_nodup s.nodup_keys, lookup_entries]

@[simp]
theorem overlay_self (r : Record) : r.overlay r = r :=
  eq_of_get?_eq fun k ↦ by rw [get?_overlay, Option.or_self]

/-- A record that was laid over another one need not be laid over it again. -/
@[simp]
theorem overlay_overlay (r s : Record) : r.overlay (r.overlay s) = r.overlay s :=
  eq_of_get?_eq fun k ↦ by rw [get?_overlay, get?_overlay, Option.or_assoc, Option.or_self]

theorem get?_ofList_filter (r : Record) (p : String → Bool) (k : String) :
    (ofList (r.entries.filter fun e ↦ p e.1)).get? k = if p k then r.get? k else none := by
  have hd : ((r.entries.filter fun e ↦ p e.1).map Prod.fst).Nodup :=
    r.nodup_keys.sublist (List.filter_sublist.map Prod.fst)
  rw [ofList, get?_insertAll_of_nodup hd, get?_empty, Option.or_none, lookup_filter_fst]
  rfl

end Record

end Formwork
