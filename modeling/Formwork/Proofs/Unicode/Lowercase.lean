import Formwork.Choice.Filter
import Mathlib.Data.List.TakeWhile

namespace Formwork.Unicode

variable {before before' cs after after' : List Char} {c : Char}

def endsWord (before after : List Char) : Bool := startsCased before && !startsCased after

def lowercaseAt (before : List Char) (c : Char) (after : List Char) : List Char :=
  if c.toNat == 0x3a3 then [Char.ofNat (if endsWord before after then 0x3c2 else 0x3c3)]
  else if c.toNat == 0x130 then ['i', Char.ofNat 0x307]
  else [lowercaseChar c]

def lowercaseWithin : List Char → List Char → List Char → List Char
  | _, [], _ => []
  | before, c :: cs, after =>
    lowercaseAt before c (cs ++ after) ++ lowercaseWithin (c :: before) cs after

theorem lowercaseFrom_eq (before cs : List Char) :
    lowercaseFrom before cs = lowercaseWithin before cs [] := by
  induction cs generalizing before with
  | nil => rfl
  | cons c cs ih =>
    rw [lowercaseFrom, lowercaseWithin, ih, List.append_nil]
    rfl

theorem toList_lowercase (s : String) : (lowercase s).toList = lowercaseWithin [] s.toList [] := by
  rw [lowercase, String.toList_ofList, lowercaseFrom_eq]

theorem lowercaseWithin_append (before xs ys after : List Char) :
    lowercaseWithin before (xs ++ ys) after =
      lowercaseWithin before xs (ys ++ after) ++
        lowercaseWithin (xs.reverse ++ before) ys after := by
  induction xs generalizing before with
  | nil => rfl
  | cons x xs ih =>
    rw [List.cons_append, lowercaseWithin, ih, lowercaseWithin, List.append_assoc,
      List.append_assoc, List.reverse_cons, List.append_assoc]
    rfl

theorem length_lowercaseAt (before before' after after' : List Char) (c : Char) :
    (lowercaseAt before c after).length = (lowercaseAt before' c after').length := by
  unfold lowercaseAt
  split
  · rfl
  · rfl

theorem lowercaseAt_sigma (before after : List Char) :
    lowercaseAt before 'Σ' after = [if endsWord before after then 'ς' else 'σ'] := by
  rw [lowercaseAt, if_pos (by decide)]
  split <;> rfl

theorem lowercaseAt_of_ne (h : c ≠ 'Σ') (before before' after after' : List Char) :
    lowercaseAt before c after = lowercaseAt before' c after' := by
  have hn : ¬ (c.toNat == 0x3a3) := fun he ↦ h (Char.toNat_inj.1 (beq_iff_eq.1 he))
  rw [lowercaseAt, lowercaseAt, if_neg hn, if_neg hn]

theorem lowercaseAt_eq_iff :
    lowercaseAt before c after = lowercaseAt before' c after' ↔
      (c = 'Σ' → endsWord before after = endsWord before' after') := by
  by_cases hc : c = 'Σ'
  · rw [hc, lowercaseAt_sigma, lowercaseAt_sigma, List.singleton_inj]
    simp only [true_imp_iff]
    cases endsWord before after <;> cases endsWord before' after' <;> decide
  · exact iff_of_true (lowercaseAt_of_ne hc _ _ _ _) fun h ↦ absurd h hc

/-- Every capital sigma of a part ends a word in both of two surroundings, or in neither. -/
def SigmasAgree (cs before after before' after' : List Char) : Prop :=
  ∀ xs ys, cs = xs ++ 'Σ' :: ys →
    endsWord (xs.reverse ++ before) (ys ++ after) = endsWord (xs.reverse ++ before') (ys ++ after')

theorem sigmasAgree_cons :
    SigmasAgree (c :: cs) before after before' after' ↔
      (c = 'Σ' → endsWord before (cs ++ after) = endsWord before' (cs ++ after')) ∧
        SigmasAgree cs (c :: before) after (c :: before') after' := by
  constructor
  · intro h
    refine ⟨?_, fun xs ys he ↦ ?_⟩
    · rintro rfl
      exact h [] cs rfl
    · have hc := h (c :: xs) ys (congrArg (c :: ·) he)
      rwa [List.reverse_cons, List.append_assoc, List.append_assoc] at hc
  · rintro ⟨hc, h⟩ xs ys he
    cases xs with
    | nil =>
      obtain ⟨rfl, rfl⟩ := List.cons.inj he
      exact hc rfl
    | cons x xs =>
      obtain ⟨hx, hxs⟩ := List.cons.inj he
      rw [List.reverse_cons, List.append_assoc, List.append_assoc, ← hx]
      exact h xs ys hxs

theorem lowercaseWithin_eq_iff :
    lowercaseWithin before cs after = lowercaseWithin before' cs after' ↔
      SigmasAgree cs before after before' after' := by
  induction cs generalizing before before' with
  | nil =>
    exact iff_of_true rfl fun xs ys he ↦ absurd he.symm (List.append_ne_nil_of_right_ne_nil _ nofun)
  | cons c cs ih =>
    have hlength := length_lowercaseAt before before' (cs ++ after) (cs ++ after') c
    rw [sigmasAgree_cons, ← ih, ← lowercaseAt_eq_iff, lowercaseWithin, lowercaseWithin]
    exact ⟨fun h ↦ List.append_inj h hlength, fun ⟨hhead, htail⟩ ↦ by rw [hhead, htail]⟩

def CaseIgnored (cs : List Char) : Prop := ∀ c ∈ cs, caseIgnorable.contains c

theorem startsCased_of_ignored (h : CaseIgnored cs) : startsCased cs = false := by
  rw [startsCased, List.dropWhile_eq_nil_iff.2 h]

theorem startsCased_append_of_ignored (h : CaseIgnored cs) (after : List Char) :
    startsCased (cs ++ after) = startsCased after := by
  rw [startsCased, startsCased, List.dropWhile_append_of_pos h]

theorem startsCased_append_of_not_ignored (h : ¬ CaseIgnored cs) (after : List Char) :
    startsCased (cs ++ after) = startsCased cs := by
  have hrest : cs.dropWhile caseIgnorable.contains ≠ [] :=
    fun he ↦ h (List.dropWhile_eq_nil_iff.1 he)
  rw [startsCased, startsCased, List.dropWhile_append, if_neg (mt List.isEmpty_iff.1 hrest)]
  cases hcs : cs.dropWhile caseIgnorable.contains with
  | nil => exact absurd hcs hrest
  | cons c rest => rfl

/-- What follows makes a difference to the end of a word only behind characters that case ignores,
and by going on with a cased one. -/
theorem endsWord_append_ne_iff :
    endsWord before (cs ++ after) ≠ endsWord before cs ↔
      startsCased before ∧ CaseIgnored cs ∧ startsCased after := by
  by_cases h : CaseIgnored cs
  · rw [endsWord, endsWord, startsCased_append_of_ignored h, startsCased_of_ignored h]
    cases startsCased before <;> cases startsCased after <;> simp [h]
  · rw [endsWord, endsWord, startsCased_append_of_not_ignored h]
    exact iff_of_false (fun hne ↦ hne rfl) fun ha ↦ h ha.2.1

theorem not_sigmasAgree_iff_of_prefix :
    ¬ SigmasAgree cs [] after [] [] ↔
      ∃ xs ys, cs = xs ++ 'Σ' :: ys ∧ startsCased xs.reverse ∧ CaseIgnored ys ∧
        startsCased after := by
  simp only [SigmasAgree, List.append_nil, not_forall, ← endsWord_append_ne_iff, ne_eq, exists_prop]

end Formwork.Unicode
