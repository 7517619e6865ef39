import Formwork.Proofs.Pattern.Repetition

namespace Formwork.Pattern.Regular

variable {a : Alphabet} {text : Array Char} {p q : Nat}

def Matches (a : Alphabet) (text : Array Char) : Regular → Nat → Nat → Prop
  | .empty, p, q => p = q
  | .fail, _, _ => False
  | .one s, p, q => past a text s p = some q
  | .edge e, p, q => e.isAt text p ∧ p = q
  | .concat m n, p, q => ∃ o, m.Matches a text p o ∧ n.Matches a text o q
  | .alternate m n, p, q => m.Matches a text p q ∨ n.Matches a text p q
  | .iterate body low high _, p, q => Iterates (body.Matches a text) low high p q

theorem past_eq_some_iff {s : CharSet} :
    past a text s p = some q ↔ ∃ c, text[p]? = some c ∧ s.contains a c ∧ q = p + 1 := by
  rw [past]
  split
  · next c hc =>
    rw [hc, Option.ite_none_right_eq_some]
    simp only [Option.some.injEq, exists_eq_left', eq_comm]
  · next hc =>
    rw [hc]
    exact iff_of_false nofun nofun

theorem follows_ends (r : Regular) : Follows (r.ends a text) (r.Matches a text) text.size := by
  induction r with
  | empty => exact ⟨fun _ ↦ exists_eq_right.symm, fun hp he ↦ he ▸ hp⟩
  | fail => exact ⟨fun _ ↦ iff_of_false List.not_mem_nil nofun, fun _ ↦ nofun⟩
  | one s =>
    refine ⟨fun _ ↦ List.mem_filterMap, fun {p q} _ h ↦ ?_⟩
    obtain ⟨c, hc, -, rfl⟩ := past_eq_some_iff.1 h
    obtain ⟨hlt, -⟩ := Array.getElem?_eq_some_iff.1 hc
    exact hlt
  | edge e =>
    refine ⟨fun {ps q} _ ↦ ?_, fun hp h ↦ h.2 ▸ hp⟩
    rw [ends, List.mem_filter]
    simp only [Matches, ← and_assoc, exists_eq_right]
  | concat m n ihm ihn =>
    refine ⟨fun {ps q} hps ↦ ?_, fun hp ⟨o, hm, hn⟩ ↦ ihn.le (ihm.le hp hm) hn⟩
    rw [ends, ihn.mem_iff (ihm.le_of_mem hps)]
    constructor
    · rintro ⟨o, ho, hn⟩
      obtain ⟨p, hp, hm⟩ := (ihm.mem_iff hps).1 ho
      exact ⟨p, hp, o, hm, hn⟩
    · rintro ⟨p, hp, o, hm, hn⟩
      exact ⟨o, (ihm.mem_iff hps).2 ⟨p, hp, hm⟩, hn⟩
  | alternate m n ihm ihn =>
    have hle : ∀ {p q}, p ≤ text.size → (alternate m n).Matches a text p q → q ≤ text.size := by
      intro p q hp h
      exact h.elim (ihm.le hp) (ihn.le hp)
    have hmem : ∀ {p q}, p ≤ text.size →
        (q ∈ m.ends a text [p] ++ n.ends a text [p] ↔ (alternate m n).Matches a text p q) := by
      intro p q hp
      rw [List.mem_append, ihm.mem_singleton hp, ihn.mem_singleton hp]
      exact Iff.rfl
    refine ⟨fun {ps q} hps ↦ ?_, hle⟩
    rw [ends, mem_distinct, List.mem_flatMap]
    · exact exists_congr fun p ↦ and_congr_right fun hp ↦ hmem (hps p hp)
    · intro q hq
      obtain ⟨p, hp, hq⟩ := List.mem_flatMap.1 hq
      exact hle (hps p hp) ((hmem (hps p hp)).1 hq)
  | iterate body low high greedy ih => exact ih.iterated low high greedy

theorem mem_ends_iff (r : Regular) {ps : List Nat} (hps : ∀ p ∈ ps, p ≤ text.size) :
    q ∈ r.ends a text ps ↔ ∃ p ∈ ps, r.Matches a text p q :=
  r.follows_ends.mem_iff hps

theorem isFoundIn_iff (r : Regular) (t : String) :
    r.isFoundIn a t = true ↔ ∃ p ≤ t.toList.length, ∃ q, r.Matches a t.toList.toArray p q := by
  have hps : ∀ p ∈ List.range (t.toList.toArray.size + 1), p ≤ t.toList.toArray.size := fun p hp ↦
    Nat.le_of_lt_succ (List.mem_range.1 hp)
  rw [isFoundIn, Bool.not_eq_true', List.isEmpty_eq_false_iff_exists_mem]
  refine (exists_congr fun q ↦ r.mem_ends_iff hps).trans ?_
  simp only [List.mem_range, Nat.lt_succ_iff, List.size_toArray]
  constructor
  · rintro ⟨q, p, hp, h⟩
    exact ⟨p, hp, q, h⟩
  · rintro ⟨p, hp, q, h⟩
    exact ⟨q, p, hp, h⟩

end Formwork.Pattern.Regular
