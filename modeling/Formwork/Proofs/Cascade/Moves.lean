import Formwork.Proofs.Cascade.Trail
import Formwork.Proofs.Condition.Equality

namespace Formwork.Cascade

variable {fields : List Field} {origin : String} {cleared : List String}
  {values reference a b : Bag} {ps : List (List Field)} {f : Field} {path : String}

theorem contains_clearAll_eq {pass : List Field} (h : Covers pass b) (k : String) :
    (clearAll b pass).contains k = b.contains k := by
  by_cases hk : k ∈ pass.map Field.name
  · obtain ⟨f, hf, rfl⟩ := List.mem_map.1 hk
    rw [contains_clearAll (h f hf) pass, h f hf]
  · exact Record.contains_congr (get?_clearAll_of_notMem hk b)

theorem resolve?_clearAll_of_notMem {pass : List Field} (h : Covers pass b)
    (hk : b.readKey path ∉ pass.map Field.name) :
    (clearAll b pass).resolve? path = b.resolve? path :=
  (Record.resolve?_congr_of_readKey (contains_clearAll_eq h path).symm
    (get?_clearAll_of_notMem hk b).symm).symm

theorem readKey_clearAll_of_moved {pass : List Field} (h : Covers pass b)
    (hm : (clearAll b pass).resolve? path ≠ b.resolve? path) :
    (clearAll b pass).readKey path ∈ pass.map Field.name := by
  rw [Record.readKey_congr (contains_clearAll_eq h path)]
  exact Decidable.byContradiction fun hk ↦ hm (resolve?_clearAll_of_notMem h hk)

theorem eq_of_infix_replicate {α : Type} {v w x y : α} {m n : Nat}
    (h : [v, w] <:+: List.replicate m x ++ List.replicate n y) (hne : w ≠ v) : v = x ∧ w = y := by
  induction m with
  | zero =>
    rw [List.replicate_zero, List.nil_append] at h
    have hv := List.eq_of_mem_replicate (h.subset (.head _))
    have hw := List.eq_of_mem_replicate (h.subset (.tail _ (.head _)))
    exact absurd (hw.trans hv.symm) hne
  | succ m ih =>
    rw [List.replicate_succ, List.cons_append, List.infix_cons_iff, List.cons_prefix_cons] at h
    rcases h with ⟨rfl, hfirst⟩ | h
    · rcases List.mem_append.1 (hfirst.subset (.head _)) with hw | hw
      · exact absurd (List.eq_of_mem_replicate hw) hne
      · exact ⟨rfl, List.eq_of_mem_replicate hw⟩
    · exact ih h

theorem exists_recent_of_isDue {recent : List String}
    (hr : ∀ k, k ∉ recent → values.get? k = reference.get? k) (h : f.isDue values reference) :
    ∃ c ∈ f.clearRules, c.sees values reference ∧
    (c.field ∈ recent ∨ pathHead c.field ∈ recent) := by
  simp only [Field.isDue, Bool.and_eq_true] at h
  obtain ⟨c, hc, hs⟩ := List.any_eq_true.1 h.1.1
  refine ⟨c, hc, hs, Classical.byContradiction fun hk ↦ ?_⟩
  rw [not_or] at hk
  have hsame := Record.resolve?_congr (hr _ hk.1) (hr _ hk.2)
  rw [Condition.sees_eq_false hsame] at hs
  cases hs

/-- The last step at which a field sees a change: if it sees one between the ends, then it sees one
there, and behind that step it sees none any more. -/
theorem exists_last_change (h : f.seesChange (clearAll values ps.flatten) reference) :
    ∃ a b, [a, b] <:+: trail values reference ps ∧ f.seesChange b a ∧
      ∀ c ∈ f.clearRules, c.sees (clearAll values ps.flatten) b = false := by
  induction ps generalizing values reference with
  | nil =>
    refine ⟨reference, values, adjacent_trail_first values reference [], h, fun c _ ↦ ?_⟩
    exact Condition.sees_eq_false rfl
  | cons pass rest ih =>
    rw [List.flatten_cons, clearAll_append] at h ⊢
    by_cases hl : f.seesChange (clearAll (clearAll values pass) rest.flatten) values
    · obtain ⟨a, b, hab, hs, hb⟩ := ih hl
      exact ⟨a, b, List.infix_cons hab, hs, hb⟩
    · have hstill : ∀ c ∈ f.clearRules,
          c.sees (clearAll (clearAll values pass) rest.flatten) values = false := by
        intro c hc
        exact Bool.eq_false_iff.2 fun hs ↦ hl (List.any_eq_true.2 ⟨c, hc, hs⟩)
      refine ⟨reference, values, adjacent_trail_first values reference _, ?_, hstill⟩
      obtain ⟨c, hc, hs⟩ := List.any_eq_true.1 h
      refine List.any_eq_true.2 ⟨c, hc, ?_⟩
      exact Condition.sees_eq_of_sees_eq_false (hstill c hc) reference ▸ hs

namespace Run

theorem covers_flatten (h : Run fields origin cleared values reference ps)
    (hv : Covers fields values) :
    Covers ps.flatten values :=
  fun f hf ↦ hv f (h.mem_flatten hf).1

theorem resolve?_of_settled (h : Run fields origin cleared values reference ps)
    (hv : Covers fields values) (hk : values.readKey path ∈ origin :: cleared) :
    (clearAll values ps.flatten).resolve? path = values.resolve? path := by
  refine resolve?_clearAll_of_notMem (h.covers_flatten hv) fun hm ↦ ?_
  obtain ⟨f, hf, he⟩ := List.mem_map.1 hm
  obtain ⟨_, hn, hc⟩ := h.mem_flatten hf
  exact (List.mem_cons.1 hk).elim (fun ho ↦ hn (he.trans ho)) fun hm ↦ hc (he ▸ hm)

theorem exists_map_resolve?_trail (h : Run fields origin cleared values reference ps)
    (hv : Covers fields values) (hp : values.resolve? path ≠ reference.resolve? path →
      values.readKey path ∈ origin :: cleared) :
    ∃ m n, (trail values reference ps).map (fun b ↦ b.resolve? path) =
      List.replicate (m + 1) (reference.resolve? path) ++
        List.replicate (n + 1) ((clearAll values ps.flatten).resolve? path) := by
  -- What carries the induction is `hp`: a path that has just moved is read at a key that is not
  -- written again.
  induction h with
  | stop _ => exact ⟨0, 0, rfl⟩
  | @pass cleared values reference pass rest hd hne hr ih =>
    have hrun := Run.pass hd hne hr
    have hpass : Covers pass values := fun f hf ↦ hv f (mem_due.1 (hd ▸ hf)).1.1
    have hlate : (clearAll values pass).resolve? path ≠ values.resolve? path →
        (clearAll values pass).readKey path ∈ origin :: (cleared ++ pass.map Field.name) := fun hc ↦
      List.mem_cons_of_mem _ (List.mem_append_right _ (readKey_clearAll_of_moved hpass hc))
    obtain ⟨m, n, htail⟩ := ih (hv.clearAll pass) hlate
    rw [← clearAll_append, ← List.flatten_cons] at htail
    rw [trail, List.map_cons, htail]
    by_cases hm : values.resolve? path = reference.resolve? path
    · exact ⟨m + 1, n, by rw [hm, List.replicate_succ (n := m + 1), List.cons_append]⟩
    · -- The path is settled, so that it leads to the same at all bags that follow.
      have hend := hrun.resolve?_of_settled hv (hp hm)
      have hlength : m + 1 + (n + 1) = m + n + 1 + 1 := by omega
      refine ⟨0, m + n + 1, ?_⟩
      rw [hend, List.replicate_append_replicate, hlength]
      rfl

/-- A path moves once at most: if it does between two neighbours of the trail, it was until then as
it was at first, and is from then on as it is in the end. -/
theorem ends_of_moved (h : Run fields origin cleared values reference ps)
    (hv : Covers fields values)
    (hp : values.resolve? path ≠ reference.resolve? path → values.readKey path ∈ origin :: cleared)
    (hab : [a, b] <:+: trail values reference ps) (hm : b.resolve? path ≠ a.resolve? path) :
    a.resolve? path = reference.resolve? path ∧
      b.resolve? path = (clearAll values ps.flatten).resolve? path := by
  obtain ⟨m, n, hmap⟩ := h.exists_map_resolve?_trail hv hp
  have hinfix := hab.map fun b ↦ b.resolve? path
  rw [hmap] at hinfix
  exact eq_of_infix_replicate hinfix hm

/-- What makes a pass clear a field: one of its conditions sees a change between two neighbours of
the trail, along a path through a name that was written last before the cascade, or one that was
cleared before the field was. -/
theorem exists_cause {recent : List String} (h : Run fields origin cleared values reference ps)
    (hr : ∀ k, k ∉ recent → values.get? k = reference.get? k) {before after : List Field}
    (he : ps.flatten = before ++ f :: after) :
    ∃ a b, [a, b] <:+: trail values reference ps ∧ ∃ c ∈ f.clearRules, c.sees b a ∧
      (c.field ∈ recent ++ before.map Field.name ∨
        pathHead c.field ∈ recent ++ before.map Field.name) := by
  -- Behind a pass the names written last are those of that pass, which stand before all that is
  -- cleared later.
  induction h generalizing recent before with
  | stop _ => exact absurd he.symm (List.append_ne_nil_of_right_ne_nil _ (List.cons_ne_nil _ _))
  | @pass cleared values reference pass rest hd _ _ ih =>
    have hlater : ∀ mid, before = pass ++ mid → rest.flatten = mid ++ f :: after →
        ∃ a b, [a, b] <:+: trail values reference (pass :: rest) ∧ ∃ c ∈ f.clearRules, c.sees b a ∧
          (c.field ∈ recent ++ before.map Field.name ∨
            pathHead c.field ∈ recent ++ before.map Field.name) := by
      rintro mid rfl hmid
      have hkept : ∀ k, k ∉ pass.map Field.name →
          (clearAll values pass).get? k = values.get? k := by
        intro k hk
        exact get?_clearAll_of_notMem hk values
      obtain ⟨a, b, hab, c, hc, hs, hk⟩ := ih hkept hmid
      rw [← List.map_append] at hk
      exact ⟨a, b, List.infix_cons hab, c, hc, hs,
        hk.imp (List.mem_append_right _) (List.mem_append_right _)⟩
    rw [List.flatten_cons, List.append_eq_append_iff] at he
    rcases he with ⟨mid, hbefore, he⟩ | ⟨mid, hpass, he⟩
    · exact hlater mid hbefore he
    · rcases List.cons_eq_append_iff.1 he with ⟨rfl, hrest⟩ | ⟨mid, rfl, _⟩
      · exact hlater [] (by rw [hpass, List.append_nil, List.append_nil]) hrest
      · have hf : f ∈ pass := hpass ▸ List.mem_append_right _ List.mem_cons_self
        obtain ⟨c, hc, hs, hk⟩ := exists_recent_of_isDue hr (mem_due.1 (hd ▸ hf)).2
        exact ⟨reference, values, adjacent_trail_first values reference _, c, hc, hs,
          hk.imp (List.mem_append_left _) (List.mem_append_left _)⟩

end Run

end Formwork.Cascade
