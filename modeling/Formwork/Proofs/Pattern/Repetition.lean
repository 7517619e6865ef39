import Formwork.Proofs.Pattern.Walk
import Mathlib.Data.Finset.Card
import Mathlib.Data.Finset.Range

namespace Formwork.Pattern

variable {size p q : Nat} {step : Nat → List Nat}

def Stays (step : Nat → List Nat) (size : Nat) : Prop := ∀ p ≤ size, ∀ q ∈ step p, q ≤ size

def unboundedWalk (step : Nat → List Nat) (size : Nat) : Walk Nat where
  place := id
  mark := some
  next := step
  fits p := p ≤ size

theorem lawful_unboundedWalk (h : Stays step size) : (unboundedWalk step size).Lawful size where
  place_le := id
  mark_inj := fun _ _ hn hm ↦ Option.some.inj (hm.trans hn.symm)
  fits_next := fun hn hm ↦ h _ hn _ hm
  next_eq_nil := nofun

def unvisited (size : Nat) (t : Trail) : Nat :=
  ((Finset.range (size + 1)).filter fun p ↦ ¬ t.IsVisited p).card

theorem unvisited_lt {t s : Trail} (h : ∀ i, t.IsVisited i → s.IsVisited i) (hp : p ≤ size)
    (ht : ¬ t.IsVisited p) (hs : s.IsVisited p) : unvisited size s < unvisited size t := by
  refine Finset.card_lt_card ⟨Finset.monotone_filter_right _ fun p _ hp hv ↦ hp (h p hv),
    fun hsub ↦ ?_⟩
  have hmem := hsub (Finset.mem_filter.2 ⟨Finset.mem_range.2 (Nat.lt_succ_of_le hp), ht⟩)
  exact (Finset.mem_filter.1 hmem).2 hs

theorem roam_explores (hstep : Stays step size) (greedy : Bool) {fuel : Nat} {t : Trail}
    (hp : p ≤ size) (ht : t.finds.Sound size) (hfuel : unvisited size t ≤ fuel) :
    (unboundedWalk step size).Explores size t (roam step greedy fuel p t) [p] := by
  have hw := lawful_unboundedWalk hstep
  induction fuel generalizing p t with
  | zero =>
    refine Walk.Explores.push (w := unboundedWalk step size) (n := p) ht hp ?_
    by_contra hv
    have hlt := unvisited_lt (s := t.visit p) (fun i hi ↦ Trail.isVisited_visit.2 (.inr hi)) hp hv
      (Trail.isVisited_visit.2 (.inl rfl))
    omega
  | succ fuel ih =>
    rw [roam]
    split
    · next hv => exact .of_isDone ht hv
    · next hv =>
      extract_lets onward
      refine Walk.Explores.turn_of_order (n := p) hw hp rfl ht onward (fun s hs hvisit ↦ ?_) greedy
      have hfold := Walk.Explores.foldl (w := unboundedWalk step size) id
        (fun t q ↦ if q == p then t.push p else roam step greedy fuel q t)
          (step p) hs fun q hq s' hs' hmono ↦ ?_
      · rwa [List.map_id] at hfold
      have hp' : s'.IsVisited p := hmono p ((hvisit p).2 (.inl rfl))
      by_cases he : q = p
      · subst he
        rw [if_pos BEq.rfl]
        exact Walk.Explores.push (w := unboundedWalk step size) (n := q) hs' hp hp'
      · rw [if_neg (mt eq_of_beq he)]
        refine ih (hstep p hp q hq) hs' ?_
        have hlt := unvisited_lt (fun i hi ↦ hmono i ((hvisit i).2 (.inr hi))) hp hv hp'
        omega

theorem mem_roam (hstep : Stays step size) (greedy : Bool) {ps : List Nat}
    (hps : ∀ p ∈ ps, p ≤ size) :
    q ∈ (ps.foldl (fun t p ↦ roam step greedy (size + 1) p t) (.start 1 size)).ends ↔
      ∃ p ∈ ps, ∃ k, Repeats (fun a b ↦ b ∈ step a) k p q := by
  have hunvisited (t : Trail) : unvisited size t ≤ size + 1 :=
    (Finset.card_filter_le _ _).trans_eq (Finset.card_range _)
  have hfold := Walk.Explores.foldl (w := unboundedWalk step size) (t := .start 1 size) id
    (fun t p ↦ roam step greedy (size + 1) p t) ps (Finds.sound_start size)
    fun p hp s hs _ ↦ roam_explores hstep greedy (hps p hp) hs (hunvisited s)
  rw [List.map_id] at hfold
  rw [Trail.ends, List.mem_reverse, hfold.mem_iff (lawful_unboundedWalk hstep) hps]
  · simp only [Trail.start, Finds.start, List.not_mem_nil, false_or, Walk.Leads, unboundedWalk, id,
      exists_eq_right]
  · rintro n i hn ⟨⟩ hv
    have := (Trail.isVisited_start 1 size).1 hv
    have hn : n ≤ size := hn
    omega

/-- Places with the number of steps that may yet be made from there. -/
def boundedWalk (step : Nat → List Nat) (size budget : Nat) : Walk (Nat × Nat) where
  place := Prod.snd
  mark
    | (0, _) => none
    | (b + 1, p) => some (b * (size + 1) + p)
  next
    | (0, _) => []
    | (b + 1, p) => (step p).map (b, ·)
  fits n := n.1 ≤ budget ∧ n.2 ≤ size

theorem eq_of_mark_eq {b b' p p' : Nat} (hp : p ≤ size) (hp' : p' ≤ size)
    (h : b * (size + 1) + p = b' * (size + 1) + p') : b = b' ∧ p = p' := by
  have hdiv (b p : Nat) (hp : p ≤ size) : (b * (size + 1) + p) / (size + 1) = b := by
    rw [Nat.mul_comm, Nat.mul_add_div (Nat.succ_pos _), Nat.div_eq_of_lt (Nat.lt_succ_of_le hp),
      Nat.add_zero]
  have hb : b = b' := by
    rw [← hdiv b p hp, h, hdiv b' p' hp']
  subst hb
  exact ⟨rfl, Nat.add_left_cancel h⟩

theorem lawful_boundedWalk (h : Stays step size) (budget : Nat) :
    (boundedWalk step size budget).Lawful size where
  place_le := fun hn ↦ hn.2
  mark_inj := by
    rintro ⟨_ | b, p⟩ ⟨_ | b', p'⟩ i ⟨-, hp⟩ ⟨-, hp'⟩ hn hm <;> try contradiction
    obtain ⟨rfl, rfl⟩ := eq_of_mark_eq hp hp' (Option.some.inj (hn.trans hm.symm))
    rfl
  fits_next := by
    rintro ⟨_ | b, p⟩ m ⟨hb, hp⟩ hm
    · contradiction
    · obtain ⟨q, hq, rfl⟩ := List.mem_map.1 hm
      exact ⟨by omega, h p hp q hq⟩
  next_eq_nil := by
    rintro ⟨_ | b, p⟩ hn
    · rfl
    · contradiction

theorem leads_boundedWalk {size budget b : Nat} : (boundedWalk step size budget).Leads (b, p) q ↔
    ∃ k ≤ b, Repeats (fun a b ↦ b ∈ step a) k p q := by
  constructor
  · rintro ⟨k, m, hk, rfl⟩
    induction k generalizing b p with
    | zero =>
      obtain rfl : (b, p) = m := hk
      exact ⟨0, Nat.zero_le b, rfl⟩
    | succ k ih =>
      obtain ⟨l, hl, hk⟩ := hk
      cases b with
      | zero => contradiction
      | succ b =>
        obtain ⟨r, hr, rfl⟩ := List.mem_map.1 hl
        obtain ⟨j, hj, hjr⟩ := ih hk
        exact ⟨j + 1, Nat.succ_le_succ hj, r, hr, hjr⟩
  · rintro ⟨k, hk, hr⟩
    induction k generalizing b p with
    | zero =>
      obtain rfl : p = q := hr
      exact ⟨0, (b, p), rfl, rfl⟩
    | succ k ih =>
      obtain ⟨b, rfl⟩ := Nat.exists_eq_succ_of_ne_zero (show b ≠ 0 by omega)
      obtain ⟨r, hr, hk'⟩ := hr
      exact (ih (by omega) hk').cons (List.mem_map.2 ⟨r, hr, rfl⟩)

theorem upTo_explores (hstep : Stays step size) (greedy : Bool) {budget b : Nat} {t : Trail}
    (hb : b ≤ budget) (hp : p ≤ size) (ht : t.finds.Sound size) :
    (boundedWalk step size budget).Explores size t (upTo step greedy size b p t) [(b, p)] := by
  have hw := lawful_boundedWalk hstep budget
  induction b generalizing p t with
  | zero =>
    exact Walk.Explores.push (w := boundedWalk step size budget) (n := (0, p)) ht hp
      ((ht.mem_push hp).2 (.inl rfl))
  | succ b ih =>
    rw [upTo]
    split
    · next hv => exact .of_isDone ht hv
    · extract_lets onward
      refine Walk.Explores.turn_of_order (n := (b + 1, p)) hw ⟨hb, hp⟩ rfl ht onward
        (fun s hs _ ↦ ?_) greedy
      exact .foldl (b, ·) _ (step p) hs fun q hq s' hs' _ ↦ ih (by omega) (hstep p hp q hq) hs'

theorem mem_upTo (hstep : Stays step size) (greedy : Bool) (budget : Nat) {ps : List Nat}
    (hps : ∀ p ∈ ps, p ≤ size) :
    q ∈ (ps.foldl (fun t p ↦ upTo step greedy size budget p t) (.start budget size)).ends ↔
      ∃ p ∈ ps, ∃ k ≤ budget, Repeats (fun a b ↦ b ∈ step a) k p q := by
  have hfold :=
    Walk.Explores.foldl (w := boundedWalk step size budget) (t := .start budget size) (budget, ·)
    (fun t p ↦ upTo step greedy size budget p t) ps (Finds.sound_start size)
    fun p hp s hs _ ↦ upTo_explores hstep greedy le_rfl (hps p hp) hs
  rw [Trail.ends, List.mem_reverse, hfold.mem_iff (lawful_boundedWalk hstep budget)]
  · simp only [Trail.start, Finds.start, List.not_mem_nil, false_or, List.mem_map,
      exists_exists_and_eq_and, leads_boundedWalk]
  · intro n hn
    obtain ⟨p, hp, rfl⟩ := List.mem_map.1 hn
    exact ⟨le_rfl, hps p hp⟩
  · rintro ⟨_ | b, p⟩ i ⟨hb, hp⟩ ⟨⟩ hv
    have hle := (Trail.isVisited_start budget size).1 hv
    have hmul : (b + 1) * (size + 1) ≤ budget * (size + 1) := Nat.mul_le_mul_right _ hb
    rw [Nat.succ_mul] at hmul
    have hp : p ≤ size := hp
    omega

def Iterates (R : Nat → Nat → Prop) (low : Nat) (high : Option Nat) (p q : Nat) : Prop :=
  ∃ k, low ≤ k ∧ (∀ h, high = some h → k ≤ max low h) ∧ Repeats R k p q

theorem repeats_add {R : Nat → Nat → Prop} {k l : Nat} :
    Repeats R (k + l) p q ↔ ∃ m, Repeats R k p m ∧ Repeats R l m q := by
  induction k generalizing p with
  | zero =>
    rw [Nat.zero_add]
    simp only [Repeats, exists_eq_left']
  | succ k ih =>
    rw [Nat.succ_add]
    simp only [Repeats, ih]
    constructor
    · rintro ⟨o, ho, m, hm, hq⟩
      exact ⟨m, ⟨o, ho, hm⟩, hq⟩
    · rintro ⟨m, ⟨o, ho, hm⟩, hq⟩
      exact ⟨o, ho, m, hm, hq⟩

/-- What takes places of a text to those that are related to one of them. -/
structure Follows (step : List Nat → List Nat) (R : Nat → Nat → Prop) (size : Nat) : Prop where
  mem_iff : ∀ {ps q}, (∀ p ∈ ps, p ≤ size) → (q ∈ step ps ↔ ∃ p ∈ ps, R p q)
  le : ∀ {p q}, p ≤ size → R p q → q ≤ size

namespace Follows

variable {step : List Nat → List Nat} {R : Nat → Nat → Prop}

theorem mem_singleton (h : Follows step R size) (hp : p ≤ size) : q ∈ step [p] ↔ R p q := by
  rw [h.mem_iff (List.forall_mem_singleton.2 hp)]
  simp only [List.mem_singleton, exists_eq_left]

theorem le_of_mem (h : Follows step R size) {ps : List Nat} (hps : ∀ p ∈ ps, p ≤ size) :
    ∀ q ∈ step ps, q ≤ size := by
  intro q hq
  obtain ⟨p, hp, hpq⟩ := (h.mem_iff hps).1 hq
  exact h.le (hps p hp) hpq

theorem le_of_repeats (h : Follows step R size) {k : Nat} (hp : p ≤ size) (hk : Repeats R k p q) :
    q ≤ size := by
  induction k generalizing p with
  | zero =>
    obtain rfl : p = q := hk
    exact hp
  | succ k ih =>
    obtain ⟨m, hm, hk⟩ := hk
    exact ih (h.le hp hm) hk

theorem repeats_singleton (h : Follows step R size) {k : Nat} (hp : p ≤ size) :
    Repeats (fun a b ↦ b ∈ step [a]) k p q ↔ Repeats R k p q := by
  induction k generalizing p with
  | zero => exact Iff.rfl
  | succ k ih =>
    refine exists_congr fun m ↦ (and_congr_left' (h.mem_singleton hp)).trans ?_
    exact and_congr_right fun hm ↦ ih (h.le hp hm)

theorem power (h : Follows step R size) (n : Nat) : Follows (power step n) (Repeats R n) size where
  le := h.le_of_repeats
  mem_iff := by
    intro ps q hps
    induction n generalizing ps with
    | zero => exact exists_eq_right.symm
    | succ n ih =>
      rw [Pattern.power]
      split
      · next hnil =>
        rw [List.isEmpty_iff.1 hnil]
        exact iff_of_false List.not_mem_nil nofun
      · rw [ih (h.le_of_mem hps)]
        constructor
        · rintro ⟨m, hm, hq⟩
          obtain ⟨p, hp, hpm⟩ := (h.mem_iff hps).1 hm
          exact ⟨p, hp, m, hpm, hq⟩
        · rintro ⟨p, hp, m, hpm, hq⟩
          exact ⟨m, (h.mem_iff hps).2 ⟨p, hp, hpm⟩, hq⟩

theorem exists_behind_power (h : Follows step R size) {ps : List Nat} (hps : ∀ p ∈ ps, p ≤ size)
    (low : Nat) (P : Nat → Prop) :
    (∃ m ∈ Pattern.power step low ps, ∃ k, P k ∧ Repeats (fun a b ↦ b ∈ step [a]) k m q) ↔
      ∃ p ∈ ps, ∃ k, low ≤ k ∧ P (k - low) ∧ Repeats R k p q := by
  have hmem {m : Nat} : m ∈ Pattern.power step low ps ↔ ∃ p ∈ ps, Repeats R low p m :=
    (h.power low).mem_iff hps
  have hle := (h.power low).le_of_mem hps
  constructor
  · rintro ⟨m, hm, k, hP, hk⟩
    obtain ⟨p, hp, hpm⟩ := hmem.1 hm
    have hsteps : Repeats R (low + k) p q :=
      repeats_add.2 ⟨m, hpm, (h.repeats_singleton (hle m hm)).1 hk⟩
    exact ⟨p, hp, low + k, Nat.le_add_right low k, by rwa [Nat.add_sub_cancel_left], hsteps⟩
  · rintro ⟨p, hp, k, hlow, hP, hk⟩
    obtain ⟨k, rfl⟩ := Nat.exists_eq_add_of_le hlow
    rw [Nat.add_sub_cancel_left] at hP
    obtain ⟨m, hpm, hk⟩ := repeats_add.1 hk
    have hm := hmem.2 ⟨p, hp, hpm⟩
    exact ⟨m, hm, k, hP, (h.repeats_singleton (hle m hm)).2 hk⟩

theorem iterated (h : Follows step R size) (low : Nat) (high : Option Nat) (greedy : Bool) :
    Follows (iterated step low high greedy size) (Iterates R low high) size where
  le := fun hp ⟨_, _, _, hk⟩ ↦ h.le_of_repeats hp hk
  mem_iff := by
    intro ps q hps
    have hstarts := (h.power low).le_of_mem hps
    have hstay : Stays (fun p ↦ step [p]) size :=
      fun p hp ↦ h.le_of_mem (List.forall_mem_singleton.2 hp)
    simp only [Pattern.iterated]
    split
    · rw [mem_roam hstay greedy hstarts]
      have hall := h.exists_behind_power (q := q) hps low fun _ ↦ True
      simp only [true_and] at hall
      rw [hall]
      simp only [Iterates, reduceCtorEq, false_implies, implies_true, true_and]
    · next high =>
      split
      · next hle =>
        rw [(h.power low).mem_iff hps]
        refine exists_congr fun p ↦ and_congr_right fun _ ↦ ⟨fun hk ↦ ⟨low, le_rfl, ?_, hk⟩, ?_⟩
        · exact fun _ _ ↦ Nat.le_max_left _ _
        · rintro ⟨k, hlow, hhigh, hk⟩
          have hk' := hhigh high rfl
          rw [Nat.max_eq_left hle] at hk'
          rwa [Nat.le_antisymm hk' hlow] at hk
      · next hlt =>
        rw [mem_upTo hstay greedy _ hstarts, h.exists_behind_power hps low fun k ↦ k ≤ high - low]
        refine exists_congr fun p ↦ and_congr_right fun _ ↦ exists_congr fun k ↦
          and_congr_right fun hlow ↦ ?_
        have hmax : max low high = high := Nat.max_eq_right (Nat.le_of_not_le hlt)
        simp only [Option.some.injEq, forall_eq', hmax,
          Nat.sub_le_sub_iff_right (Nat.le_of_not_le hlt)]

end Follows

end Formwork.Pattern
