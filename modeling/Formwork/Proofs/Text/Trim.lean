import Formwork.Text.Basic
import Mathlib.Data.List.DropRight

namespace Formwork.Text

variable {l cs r : List Char}

instance (cs : List Char) : Decidable (AllBlank cs) := List.decidableBAll (isBlank · = true) cs

/-- No white space at either end. -/
def Trimmed (cs : List Char) : Prop :=
  (∀ c ∈ cs.head?, ¬ isBlank c) ∧ ∀ c ∈ cs.getLast?, ¬ isBlank c

theorem trimRight_eq (cs : List Char) : trimRight cs = cs.rdropWhile isBlank := rfl

theorem trimChars_eq_nil_iff : trimChars cs = [] ↔ AllBlank cs := by
  rw [trimChars, trimRight_eq, trimLeft, List.rdropWhile_eq_nil_iff]
  constructor
  · intro h
    have hall : ∀ c ∈ cs.takeWhile isBlank ++ cs.dropWhile isBlank, isBlank c :=
      List.forall_mem_append.2 ⟨fun c hc ↦ List.mem_takeWhile_imp hc, h⟩
    rwa [List.takeWhile_append_dropWhile] at hall
  · intro h c hc
    exact h c ((List.dropWhile_suffix _).mem hc)

theorem trimLeft_append (h : AllBlank l) (cs : List Char) : trimLeft (l ++ cs) = trimLeft cs :=
  List.dropWhile_append_of_pos h

theorem trimRight_append (cs : List Char) (h : AllBlank r) :
    trimRight (cs ++ r) = trimRight cs := by
  rw [trimRight, trimRight, List.reverse_append, List.dropWhile_append_of_pos]
  exact fun c hc ↦ h c (List.mem_reverse.1 hc)

theorem trimChars_append (hl : AllBlank l) (cs : List Char) (hr : AllBlank r) :
    trimChars (l ++ cs ++ r) = trimChars cs := by
  rw [List.append_assoc, trimChars, trimChars, trimLeft_append hl]
  by_cases h : AllBlank cs
  · have hall : AllBlank (cs ++ r) := List.forall_mem_append.2 ⟨h, hr⟩
    rw [trimLeft, trimLeft, List.dropWhile_eq_nil_iff.2 h, List.dropWhile_eq_nil_iff.2 hall]
  · have hrest : cs.dropWhile isBlank ≠ [] := fun he ↦ h (List.dropWhile_eq_nil_iff.1 he)
    rw [trimLeft, List.dropWhile_append, if_neg (mt List.isEmpty_iff.1 hrest)]
    exact trimRight_append _ hr

theorem trimmed_trimChars (cs : List Char) : Trimmed (trimChars cs) := by
  rw [trimChars, trimRight_eq, trimLeft]
  constructor
  · intro c hc
    obtain ⟨rest, hrest⟩ := List.rdropWhile_prefix isBlank (cs.dropWhile isBlank)
    have hhead : (cs.dropWhile isBlank).head? = some c := by
      rw [← hrest, List.head?_append, hc, Option.some_or]
    have hnot := List.head?_dropWhile_not isBlank cs
    rw [hhead] at hnot
    exact Bool.eq_false_iff.1 hnot
  · intro c hc
    have hne : (cs.dropWhile isBlank).rdropWhile isBlank ≠ [] := fun he ↦ by
      rw [he] at hc
      cases hc
    have hlast := (List.getLast?_eq_some_getLast hne).symm.trans hc
    exact Option.some.inj hlast ▸ List.rdropWhile_last_not isBlank _ hne

theorem trimChars_of_trimmed (h : Trimmed cs) : trimChars cs = cs := by
  have hleft : trimLeft cs = cs := by
    cases cs with
    | nil => rfl
    | cons c cs => exact List.dropWhile_cons_of_neg (h.1 c rfl)
  rw [trimChars, hleft, trimRight_eq, List.rdropWhile_eq_self_iff]
  exact fun hne ↦ h.2 _ (List.getLast?_eq_some_getLast hne)

theorem exists_blank_append_trimChars (cs : List Char) :
    ∃ l r, AllBlank l ∧ AllBlank r ∧ cs = l ++ trimChars cs ++ r := by
  refine ⟨cs.takeWhile isBlank, (trimLeft cs).rtakeWhile isBlank, ?_, ?_, ?_⟩
  · exact fun c hc ↦ List.mem_takeWhile_imp hc
  · exact fun c hc ↦ List.mem_rtakeWhile_imp hc
  · rw [trimChars, trimRight_eq, List.append_assoc, List.rdropWhile_append_rtakeWhile, trimLeft,
      List.takeWhile_append_dropWhile]

end Formwork.Text
