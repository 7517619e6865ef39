import Formwork.Proofs.Pattern.Matches
import Mathlib.Computability.Language

namespace Formwork.Pattern

def Between (L : Language Char) (cs : List Char) (p q : Nat) : Prop :=
  ∃ w ∈ L, cs.drop p = w ++ cs.drop q ∧ q = p + w.length

section Between

variable {L M : Language Char} {cs : List Char} {p q : Nat}

theorem between_one : Between 1 cs p q ↔ p = q := by
  constructor
  · rintro ⟨w, hw, -, rfl⟩
    rw [(Language.mem_one w).1 hw, List.length_nil, Nat.add_zero]
  · rintro rfl
    exact ⟨[], Language.nil_mem_one, rfl, rfl⟩

theorem between_add : Between (L + M) cs p q ↔ Between L cs p q ∨ Between M cs p q := by
  simp only [Between, Language.mem_add, or_and_right, exists_or]

theorem between_mul : Between (L * M) cs p q ↔ ∃ o, Between L cs p o ∧ Between M cs o q := by
  constructor
  · rintro ⟨w, hw, hdrop, rfl⟩
    obtain ⟨u, hu, v, hv, rfl⟩ := Language.mem_mul.1 hw
    rw [List.append_assoc] at hdrop
    have hrest : cs.drop (p + u.length) = v ++ cs.drop (p + (u ++ v).length) := by
      rw [← List.drop_drop, hdrop, List.drop_left]
    refine ⟨p + u.length, ⟨u, hu, by rw [hdrop, hrest], rfl⟩, v, hv, hrest, ?_⟩
    rw [List.length_append, Nat.add_assoc]
  · rintro ⟨_, ⟨u, hu, hp, rfl⟩, v, hv, ho, rfl⟩
    refine ⟨u ++ v, Language.mem_mul.2 ⟨u, hu, v, hv, rfl⟩, ?_, ?_⟩
    · rw [hp, ho, List.append_assoc]
    · rw [List.length_append, Nat.add_assoc]

theorem between_pow {k : Nat} : Between (L ^ k) cs p q ↔ Repeats (Between L cs) k p q := by
  induction k generalizing p with
  | zero =>
    rw [pow_zero, between_one]
    exact Iff.rfl
  | succ k ih =>
    rw [pow_succ', between_mul]
    exact exists_congr fun m ↦ and_congr_right fun _ ↦ ih

theorem between_whole : Between L cs 0 cs.length ↔ cs ∈ L := by
  constructor
  · rintro ⟨w, hw, hdrop, -⟩
    rw [List.drop_zero, List.drop_length, List.append_nil] at hdrop
    rwa [hdrop]
  · exact fun h ↦ ⟨cs, h, by rw [List.drop_zero, List.drop_length, List.append_nil],
      (Nat.zero_add _).symm⟩

end Between

namespace Regular

variable {a : Alphabet} {text : Array Char} {p q : Nat}

def IsEdgeless : Regular → Prop
  | .edge _ => False
  | .concat m n | .alternate m n => m.IsEdgeless ∧ n.IsEdgeless
  | .iterate body _ _ _ => body.IsEdgeless
  | .empty | .fail | .one _ => True

def language (a : Alphabet) : Regular → Language Char
  | .empty => 1
  | .fail | .edge _ => 0
  | .one s => {w | ∃ c, w = [c] ∧ s.contains a c = true}
  | .concat m n => m.language a * n.language a
  | .alternate m n => m.language a + n.language a
  | .iterate body low high _ =>
    {w | ∃ k, low ≤ k ∧ (∀ h, high = some h → k ≤ max low h) ∧ w ∈ body.language a ^ k}

theorem between_iterate {body : Regular} {low : Nat} {high : Option Nat} {greedy : Bool}
    {cs : List Char} :
    Between ((iterate body low high greedy).language a) cs p q ↔
      Iterates (Between (body.language a) cs) low high p q := by
  constructor
  · rintro ⟨w, ⟨k, hlow, hhigh, hw⟩, h⟩
    exact ⟨k, hlow, hhigh, between_pow.1 ⟨w, hw, h⟩⟩
  · rintro ⟨k, hlow, hhigh, hk⟩
    obtain ⟨w, hw, h⟩ := between_pow.2 hk
    exact ⟨w, ⟨k, hlow, hhigh, hw⟩, h⟩

theorem matches_one_iff {s : CharSet} :
    (one s).Matches a text p q ↔ Between ((one s).language a) text.toList p q := by
  rw [Matches, past_eq_some_iff]
  constructor
  · rintro ⟨c, hc, hs, rfl⟩
    refine ⟨[c], ⟨c, rfl, hs⟩, ?_, rfl⟩
    obtain ⟨hlt, rfl⟩ := Array.getElem?_eq_some_iff.1 hc
    exact List.drop_eq_getElem_cons hlt
  · rintro ⟨_, ⟨c, rfl, hs⟩, hdrop, rfl⟩
    refine ⟨c, ?_, hs, rfl⟩
    rw [← Array.getElem?_toList, ← List.head?_drop, hdrop]
    rfl

theorem matches_iff {r : Regular} (h : r.IsEdgeless) :
    r.Matches a text p q ↔ Between (r.language a) text.toList p q := by
  induction r generalizing p q with
  | empty => exact between_one.symm
  | fail => exact iff_of_false id fun ⟨w, hw, _⟩ ↦ Language.notMem_zero w hw
  | one s => exact matches_one_iff
  | edge e => exact h.elim
  | concat m n ihm ihn =>
    rw [language, between_mul]
    exact exists_congr fun o ↦ and_congr (ihm h.1) (ihn h.2)
  | alternate m n ihm ihn =>
    rw [language, between_add]
    exact or_congr (ihm h.1) (ihn h.2)
  | iterate body low high greedy ih =>
    have hbody : body.Matches a text = Between (body.language a) text.toList := by
      funext p q
      exact propext (ih h)
    rw [between_iterate, ← hbody]
    exact Iff.rfl

theorem matches_concatAll_cons {r : Regular} {rs : List Regular} :
    (concatAll (r :: rs)).Matches a text p q ↔
    ∃ o, r.Matches a text p o ∧ (concatAll rs).Matches a text o q := by
  cases rs with
  | nil => exact exists_eq_right.symm
  | cons s rs => exact Iff.rfl

theorem matches_textEnd {rs : List Regular} (hrs : ∀ r ∈ rs, r.IsEdgeless) :
    (concatAll (rs ++ [.edge .textEnd])).Matches a text p q ↔
      Between (rs.map (language a)).prod text.toList p q ∧ q = text.size := by
  induction rs generalizing p with
  | nil =>
    rw [List.map_nil, List.prod_nil, between_one, and_comm]
    have hend : Edge.textEnd.isAt text p = true ↔ p = text.size := beq_iff_eq
    exact (and_congr_left' hend).trans ⟨fun ⟨hp, he⟩ ↦ ⟨he ▸ hp, he⟩, fun ⟨hq, he⟩ ↦ ⟨he ▸ hq, he⟩⟩
  | cons r rs ih =>
    rw [List.cons_append, matches_concatAll_cons, List.map_cons, List.prod_cons, between_mul,
      exists_and_right.symm]
    refine exists_congr fun o ↦ ?_
    rw [matches_iff (hrs r (.head _)), ih fun r hr ↦ hrs r (.tail _ hr), and_assoc]

/-- Expressions without edges, one behind the other, that take a text from its start to its end. -/
theorem isFoundIn_concatAll_iff {rs : List Regular} (hrs : ∀ r ∈ rs, r.IsEdgeless) (t : String) :
    (concatAll (.edge .textStart :: (rs ++ [.edge .textEnd]))).isFoundIn a t = true ↔
      t.toList ∈ (rs.map (language a)).prod := by
  have hstart {p : Nat} : Edge.textStart.isAt t.toList.toArray p = true ↔ p = 0 := beq_iff_eq
  simp only [isFoundIn_iff, matches_concatAll_cons, matches_textEnd hrs]
  constructor
  · rintro ⟨p, -, q, _, ⟨hp, rfl⟩, h, rfl⟩
    rw [hstart.1 hp] at h
    exact between_whole.1 h
  · exact fun h ↦ ⟨0, Nat.zero_le _, _, 0, ⟨hstart.2 rfl, rfl⟩, between_whole.2 h, rfl⟩

end Regular

end Formwork.Pattern
