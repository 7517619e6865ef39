import Formwork.Pattern.Regular
import Mathlib.Tactic.ByContra

namespace Formwork.Pattern

variable {size p q : Nat}

def Repeats {α : Type} (R : α → α → Prop) : Nat → α → α → Prop
  | 0, p, q => p = q
  | k + 1, p, q => ∃ m, R p m ∧ Repeats R k m q

namespace Finds

variable {f : Finds}

structure Sound (f : Finds) (size : Nat) : Prop where
  size_known : f.known.size = size + 1
  mem_iff : ∀ p, p ∈ f.places ↔ f.known[p]? = some true

theorem sound_start (size : Nat) : (start size).Sound size where
  size_known := Array.size_replicate
  mem_iff := by
    intro p
    rw [start, Array.getElem?_replicate]
    split <;> simp

theorem Sound.le (h : f.Sound size) (hp : p ∈ f.places) : p ≤ size := by
  obtain ⟨hlt, -⟩ := Array.getElem?_eq_some_iff.1 ((h.mem_iff p).1 hp)
  rw [h.size_known] at hlt
  omega

theorem Sound.push (h : f.Sound size) (p : Nat) : (f.push p).Sound size := by
  rw [Finds.push]
  split
  · exact h
  · next hp =>
    rw [Array.getD_eq_getD_getElem?] at hp
    refine ⟨by rw [Array.size_setIfInBounds, h.size_known], fun q ↦ ?_⟩
    rw [Array.getElem?_setIfInBounds, List.mem_cons, h.mem_iff]
    by_cases hq : p = q
    · subst hq
      have hlt : p < f.known.size := by
        by_contra hle
        rw [Array.getElem?_eq_none (Nat.not_lt.1 hle)] at hp
        exact hp rfl
      rw [if_pos rfl, if_pos hlt]
      exact iff_of_true (.inl rfl) rfl
    · rw [if_neg hq, or_iff_right fun he ↦ hq he.symm]

theorem Sound.mem_push (h : f.Sound size) (hp : p ≤ size) :
    q ∈ (f.push p).places ↔ q = p ∨ q ∈ f.places := by
  rw [Finds.push]
  split
  · next hknown =>
    rw [Array.getD_eq_getD_getElem?] at hknown
    have hlt : p < f.known.size := by
      rw [h.size_known]
      omega
    rw [Array.getElem?_eq_getElem hlt, Option.getD_some] at hknown
    have hmem : p ∈ f.places := (h.mem_iff p).2 (by rw [Array.getElem?_eq_getElem hlt, hknown])
    exact ⟨.inr, fun hq ↦ hq.elim (fun he ↦ he ▸ hmem) id⟩
  · exact List.mem_cons

end Finds

theorem mem_distinct {ps : List Nat} (hps : ∀ p ∈ ps, p ≤ size) :
    q ∈ distinct size ps ↔ q ∈ ps := by
  have hfold : ∀ (f : Finds), f.Sound size →
      (q ∈ (ps.foldl .push f).places ↔ q ∈ ps ∨ q ∈ f.places) := by
    induction ps with
    | nil => exact fun f hf ↦ (or_iff_right List.not_mem_nil).symm
    | cons p ps ih =>
      intro f hf
      have hp := hps p (.head _)
      rw [List.foldl_cons, ih (fun p hp ↦ hps p (.tail _ hp)) _ (hf.push p), hf.mem_push hp,
        List.mem_cons, or_left_comm, or_assoc]
  rw [distinct, List.mem_reverse, hfold _ (Finds.sound_start size)]
  exact or_iff_left List.not_mem_nil

namespace Trail

variable {t : Trail} {i j : Nat}

def IsVisited (t : Trail) (i : Nat) : Prop := t.visited.getD i true = true

instance (t : Trail) (i : Nat) : Decidable (t.IsVisited i) := inferInstanceAs (Decidable (_ = _))

theorem isVisited_visit : (t.visit i).IsVisited j ↔ j = i ∨ t.IsVisited j := by
  simp only [IsVisited, visit, Array.getD_eq_getD_getElem?, Array.getElem?_setIfInBounds]
  by_cases h : i = j
  · subst h
    rw [if_pos rfl]
    split
    · exact iff_of_true rfl (.inl rfl)
    · exact iff_of_true rfl (.inl rfl)
  · rw [if_neg h, or_iff_right fun he ↦ h he.symm]

theorem isVisited_start (levels size : Nat) :
    (start levels size).IsVisited i ↔ levels * (size + 1) ≤ i := by
  rw [IsVisited, start, Array.getD_eq_getD_getElem?, Array.getElem?_replicate]
  split
  · next h => exact iff_of_false nofun (Nat.not_le.2 h)
  · next h => exact iff_of_true rfl (Nat.not_lt.1 h)

end Trail

/-- Points that can be explored. Each is at a place of the text and leads to others; most of them
are told apart by marks, under which it is noted that they were visited. -/
structure Walk (α : Type) where
  place : α → Nat
  mark : α → Option Nat
  next : α → List α
  fits : α → Prop

namespace Walk

variable {α : Type} {w : Walk α} {t t' t'' : Trail} {n : α} {ns ms : List α} {i : Nat}

structure Lawful (w : Walk α) (size : Nat) : Prop where
  place_le : ∀ {n}, w.fits n → w.place n ≤ size
  mark_inj : ∀ {n m i}, w.fits n → w.fits m → w.mark n = some i → w.mark m = some i → m = n
  fits_next : ∀ {n m}, w.fits n → m ∈ w.next n → w.fits m
  next_eq_nil : ∀ {n}, w.mark n = none → w.next n = []

def Leads (w : Walk α) (n : α) (q : Nat) : Prop :=
  ∃ k m, Repeats (fun a b ↦ b ∈ w.next a) k n m ∧ w.place m = q

theorem Leads.cons {m : α} (h : w.Leads m q) (hm : m ∈ w.next n) : w.Leads n q := by
  obtain ⟨k, l, hl, hq⟩ := h
  exact ⟨k + 1, l, ⟨m, hm, hl⟩, hq⟩

/-- Nothing is left to explore from the point, once all is finished that was begun. -/
def IsDone (w : Walk α) (t : Trail) (n : α) : Prop :=
  match w.mark n with
  | some i => t.IsVisited i
  | none => w.place n ∈ t.finds.places

structure Explores (w : Walk α) (size : Nat) (t t' : Trail) (ns : List α) : Prop where
  sound : t'.finds.Sound size
  visited : ∀ i, t.IsVisited i → t'.IsVisited i
  found : ∀ q ∈ t.finds.places, q ∈ t'.finds.places
  done : ∀ n ∈ ns, w.IsDone t' n
  closed : ∀ n i, w.fits n → w.mark n = some i → t'.IsVisited i →
    t.IsVisited i ∨ w.place n ∈ t'.finds.places ∧ ∀ m ∈ w.next n, w.IsDone t' m
  reached : ∀ q ∈ t'.finds.places, q ∈ t.finds.places ∨ ∃ n ∈ ns, w.Leads n q

theorem IsDone.mono (h : w.IsDone t n) (hv : ∀ i, t.IsVisited i → t'.IsVisited i)
    (hf : ∀ q ∈ t.finds.places, q ∈ t'.finds.places) : w.IsDone t' n := by
  rw [IsDone] at h ⊢
  split at h
  · exact hv _ h
  · exact hf _ h

namespace Explores

theorem nil (h : t.finds.Sound size) : w.Explores size t t [] where
  sound := h
  visited := fun _ ↦ id
  found := fun _ ↦ id
  done := nofun
  closed := fun _ _ _ _ ↦ .inl
  reached := fun _ ↦ .inl

theorem trans (h : w.Explores size t t' ns) (h' : w.Explores size t' t'' ms) :
    w.Explores size t t'' (ns ++ ms) where
  sound := h'.sound
  visited := fun i hi ↦ h'.visited i (h.visited i hi)
  found := fun q hq ↦ h'.found q (h.found q hq)
  done := by
    intro n hn
    rcases List.mem_append.1 hn with hn | hn
    · exact (h.done n hn).mono h'.visited h'.found
    · exact h'.done n hn
  closed := by
    intro n i hn hi hv
    rcases h'.closed n i hn hi hv with hv | hc
    · refine (h.closed n i hn hi hv).imp_right fun hc ↦ ⟨h'.found _ hc.1, fun m hm ↦ ?_⟩
      exact (hc.2 m hm).mono h'.visited h'.found
    · exact .inr hc
  reached := by
    intro q hq
    rcases h'.reached q hq with hq | ⟨n, hn, hl⟩
    · exact (h.reached q hq).imp_right fun ⟨n, hn, hl⟩ ↦ ⟨n, List.mem_append_left _ hn, hl⟩
    · exact .inr ⟨n, List.mem_append_right _ hn, hl⟩

theorem foldl {β : Type} (node : β → α) (f : Trail → β → Trail) (ps : List β)
    (ht : t.finds.Sound size)
    (hf : ∀ p ∈ ps, ∀ s : Trail, s.finds.Sound size → (∀ i, t.IsVisited i → s.IsVisited i) →
      w.Explores size s (f s p) [node p]) :
    w.Explores size t (ps.foldl f t) (ps.map node) := by
  induction ps generalizing t with
  | nil => exact nil ht
  | cons p ps ih =>
    have hp := hf p (.head _) t ht fun _ ↦ id
    exact hp.trans (ih hp.sound fun q hq s hs hv ↦ hf q (.tail _ hq) s hs fun i hi ↦ hv i
      (hp.visited i hi))

theorem of_isDone (ht : t.finds.Sound size) (h : w.IsDone t n) : w.Explores size t t [n] :=
  { nil (w := w) ht with
    done := by
      intro m hm
      rwa [List.mem_singleton.1 hm]
    reached := fun _ ↦ .inl }

theorem push (ht : t.finds.Sound size) (hn : w.place n ≤ size)
    (h : w.IsDone (t.push (w.place n)) n) :
    w.Explores size t (t.push (w.place n)) [n] where
  sound := ht.push _
  visited := fun _ ↦ id
  found := fun q hq ↦ (ht.mem_push hn).2 (.inr hq)
  done := by
    intro m hm
    rwa [List.mem_singleton.1 hm]
  closed := fun _ _ _ _ ↦ .inl
  reached := by
    intro q hq
    rcases (ht.mem_push hn).1 hq with rfl | hq
    · exact .inr ⟨n, .head _, 0, n, rfl, rfl⟩
    · exact .inl hq

theorem turn (hw : w.Lawful size) (hn : w.fits n) (hi : w.mark n = some i) {s s' : Trail}
    (h : w.Explores size s s' (w.next n)) (hs : ∀ j, s.IsVisited j ↔ j = i ∨ t.IsVisited j)
    (hfrom : ∀ q ∈ s.finds.places, q = w.place n ∨ q ∈ t.finds.places)
    (hto : ∀ q ∈ t.finds.places, q ∈ s.finds.places) (ht' : t'.finds.Sound size)
    (hvisited : ∀ j, t'.IsVisited j ↔ s'.IsVisited j)
    (hplaces : ∀ q, q ∈ t'.finds.places ↔ q = w.place n ∨ q ∈ s'.finds.places) :
    w.Explores size t t' [n] where
  sound := ht'
  visited := fun j hj ↦ (hvisited j).2 (h.visited j ((hs j).2 (.inr hj)))
  found := fun q hq ↦ (hplaces q).2 (.inr (h.found q (hto q hq)))
  done := by
    intro m hm
    rw [List.mem_singleton.1 hm, IsDone, hi]
    exact (hvisited i).2 (h.visited i ((hs i).2 (.inl rfl)))
  closed := by
    have hmono : ∀ m, w.IsDone s' m → w.IsDone t' m := fun m hm ↦
      hm.mono (fun j ↦ (hvisited j).2) fun q hq ↦ (hplaces q).2 (.inr hq)
    intro m j hm hj hv
    rcases h.closed m j hm hj ((hvisited j).1 hv) with hv | hc
    · rcases (hs j).1 hv with rfl | hv
      · obtain rfl := hw.mark_inj hn hm hi hj
        exact .inr ⟨(hplaces _).2 (.inl rfl), fun l hl ↦ hmono l (h.done l hl)⟩
      · exact .inl hv
    · exact .inr ⟨(hplaces _).2 (.inr hc.1), fun l hl ↦ hmono l (hc.2 l hl)⟩
  reached := by
    have hself : ∀ q, q = w.place n → ∃ m ∈ [n], w.Leads m q :=
      fun q hq ↦ ⟨n, .head _, 0, n, rfl, hq.symm⟩
    intro q hq
    rcases (hplaces q).1 hq with hq | hq
    · exact .inr (hself q hq)
    · rcases h.reached q hq with hq | ⟨m, hm, hl⟩
      · exact (hfrom q hq).symm.imp_right (hself q)
      · exact .inr ⟨n, .head _, hl.cons hm⟩

theorem turn_of_order (hw : w.Lawful size) (hn : w.fits n) (hi : w.mark n = some i)
    (ht : t.finds.Sound size) (onward : Trail → Trail)
    (h : ∀ s : Trail, s.finds.Sound size → (∀ j, s.IsVisited j ↔ j = i ∨ t.IsVisited j) →
      w.Explores size s (onward s) (w.next n)) (greedy : Bool) :
    w.Explores size t (if greedy then (onward (t.visit i)).push (w.place n)
      else onward ((t.visit i).push (w.place n))) [n] := by
  have hp := hw.place_le hn
  have hvisit (j : Nat) : (t.visit i).IsVisited j ↔ j = i ∨ t.IsVisited j := Trail.isVisited_visit
  cases greedy
  · have h := h ((t.visit i).push (w.place n)) (ht.push _) hvisit
    have hplace := h.found _ ((ht.mem_push hp).2 (.inl rfl))
    refine h.turn hw hn hi hvisit (fun q ↦ (ht.mem_push hp).1)
      (fun q hq ↦ (ht.mem_push hp).2 (.inr hq)) h.sound
      (fun j ↦ Iff.rfl) fun q ↦ ⟨.inr, fun hq ↦ hq.elim (fun he ↦ he ▸ hplace) id⟩
  · have h := h (t.visit i) ht hvisit
    exact h.turn hw hn hi hvisit (fun q ↦ .inr) (fun q ↦ id) (h.sound.push _) (fun j ↦ Iff.rfl)
      fun q ↦ h.sound.mem_push hp

/-- From points none of which was visited before, all is found that they lead to. -/
theorem mem_iff (hw : w.Lawful size) (h : w.Explores size t t' ns) (hns : ∀ n ∈ ns, w.fits n)
    (ht : ∀ n i, w.fits n → w.mark n = some i → ¬ t.IsVisited i) :
    q ∈ t'.finds.places ↔ q ∈ t.finds.places ∨ ∃ n ∈ ns, w.Leads n q := by
  refine ⟨h.reached q, fun hq ↦ hq.elim (h.found q) ?_⟩
  rintro ⟨n, hn, k, m, hk, rfl⟩
  have hclosed : ∀ n i, w.fits n → w.mark n = some i → w.IsDone t' n →
      w.place n ∈ t'.finds.places ∧ ∀ m ∈ w.next n, w.IsDone t' m := by
    intro n i hn hi hdone
    rw [IsDone, hi] at hdone
    exact (h.closed n i hn hi hdone).resolve_left (ht n i hn hi)
  have hfit := hns n hn
  have hdone := h.done n hn
  clear hn
  induction k generalizing n with
  | zero =>
    obtain rfl : n = m := hk
    cases hi : w.mark n with
    | some i => exact (hclosed n i hfit hi hdone).1
    | none => rwa [IsDone, hi] at hdone
  | succ k ih =>
    obtain ⟨l, hl, hk⟩ := hk
    cases hi : w.mark n with
    | some i => exact ih l hk (hw.fits_next hfit hl) ((hclosed n i hfit hi hdone).2 l hl)
    | none => exact absurd (hw.next_eq_nil hi ▸ hl) List.not_mem_nil

end Explores

end Walk

end Formwork.Pattern
