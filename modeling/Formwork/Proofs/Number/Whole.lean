import Formwork.Number.Notation
import Mathlib.Algebra.Group.Nat.Defs

namespace Formwork.Whole

variable {c : Char} {cs ds : List Char} {n : Nat}

/-- Decimal digits, at least one, with no more than a plus sign before them, of a number that fits
64 bits. -/
def Spells (s : String) (n : Nat) : Prop :=
  ∃ ds : List Char, ds ≠ [] ∧ (∀ d ∈ ds, d.isDigit = true) ∧
    (s.toList = ds ∨ s.toList = '+' :: ds) ∧
    Nat.ofDigitChars 10 ds 0 = n ∧ n < 2 ^ 64

theorem isSigned_eq_false (h : c ≠ '+') : isSigned (c :: cs) = false := by
  rw [isSigned]
  intro _ he
  exact h (List.cons.inj he).1

theorem plus_ne_digit (hd : ∀ d ∈ ds, d.isDigit = true) : '+' :: cs ≠ ds := by
  rintro rfl
  exact absurd (hd '+' (.head cs)) (by decide)

theorem unsigned_eq_iff (hd : ∀ d ∈ ds, d.isDigit = true) :
    (if isSigned cs then cs.drop 1 else cs) = ds ↔ cs = ds ∨ cs = '+' :: ds := by
  cases cs with
  | nil => simp [isSigned]
  | cons c cs =>
    by_cases hc : c = '+'
    · subst hc
      have hsigned : (if isSigned ('+' :: cs) then ('+' :: cs).drop 1 else '+' :: cs) = cs := rfl
      rw [hsigned, List.cons_inj_right, or_iff_right (plus_ne_digit hd)]
    · have hne : c :: cs ≠ '+' :: ds := fun he ↦ hc (List.cons.inj he).1
      rw [isSigned_eq_false hc, or_iff_left hne]
      rfl

theorem value_eq_ofDigitChars (ds : List Char) :
    ds.foldl (fun n c ↦ n * 10 + (c.toNat - '0'.toNat)) 0 = Nat.ofDigitChars 10 ds 0 := by
  simp only [Nat.ofDigitChars, Nat.mul_comm 10]

theorem ofChars?_eq_some_iff (h : (if isSigned cs then cs.drop 1 else cs) = ds) :
    ofChars? cs = some n ↔ ds ≠ [] ∧ (∀ d ∈ ds, d.isDigit = true) ∧ Nat.ofDigitChars 10 ds 0 = n ∧
    n < 2 ^ 64 := by
  have hbad : (ds.isEmpty || !ds.all Char.isDigit) = true ↔
      ¬ (ds ≠ [] ∧ ∀ d ∈ ds, d.isDigit = true) := by
    simp [Decidable.or_iff_not_imp_left]
  rw [ofChars?, h, value_eq_ofDigitChars]
  by_cases hok : ds ≠ [] ∧ ∀ d ∈ ds, d.isDigit = true
  · rw [if_neg fun hb ↦ hbad.1 hb hok, Option.ite_none_right_eq_some, Option.some_inj, and_comm]
    constructor
    · rintro ⟨rfl, hn⟩
      exact ⟨hok.1, hok.2, rfl, hn⟩
    · rintro ⟨-, -, rfl, hn⟩
      exact ⟨rfl, hn⟩
  · rw [if_pos (hbad.2 hok)]
    exact ⟨nofun, fun hn ↦ absurd ⟨hn.1, hn.2.1⟩ hok⟩

theorem ofText?_eq_some_iff {s : String} : ofText? s = some n ↔ Spells s n := by
  rw [ofText?, ofChars?_eq_some_iff rfl]
  constructor
  · rintro ⟨hne, hd, hv, hn⟩
    exact ⟨_, hne, hd, (unsigned_eq_iff hd).1 rfl, hv, hn⟩
  · rintro ⟨ds, hne, hd, hs, hv, hn⟩
    obtain rfl := (unsigned_eq_iff hd).2 hs
    exact ⟨hne, hd, hv, hn⟩

end Formwork.Whole
