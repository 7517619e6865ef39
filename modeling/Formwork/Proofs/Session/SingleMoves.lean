import Formwork.Proofs.Session.Causes

namespace Formwork

def neighbours {α : Type} (l : List α) : List (α × α) := l.zip l.tail

theorem neighbours_cons_cons {α : Type} (a b : α) (l : List α) :
    neighbours (a :: b :: l) = (a, b) :: neighbours (b :: l) := rfl

theorem neighbours_map {α β : Type} (f : α → β) (l : List α) :
    neighbours (l.map f) = (neighbours l).map (Prod.map f f) := by
  rw [neighbours, neighbours, ← List.map_tail, List.zip_map]

theorem countP_neighbours_replicate {α : Type} {r : α → α → Bool} (hr : ∀ a, r a a = false)
    (a b : α) (m n : ℕ) :
    (neighbours (List.replicate (m + 1) a ++ List.replicate (n + 1) b)).countP (fun e ↦ r e.1 e.2) =
      if r a b then 1 else 0 := by
  have hone (n : ℕ) : (neighbours (List.replicate (n + 1) b)).countP (fun e ↦ r e.1 e.2) = 0 := by
    induction n with
    | zero => rfl
    | succ n ih =>
      rw [List.replicate_succ, List.replicate_succ, neighbours_cons_cons, ← List.replicate_succ]
      simp [hr, ih]
  induction m with
  | zero =>
    rw [List.replicate_succ, List.replicate_zero, List.singleton_append, List.replicate_succ,
      neighbours_cons_cons, ← List.replicate_succ, List.countP_cons, hone, Nat.zero_add]
  | succ m ih =>
    rw [List.replicate_succ, List.replicate_succ, List.cons_append, List.cons_append,
      neighbours_cons_cons, ← List.cons_append, ← List.replicate_succ]
    simp [hr, ih]

def Record.moves (before after : Bag) (path : String) : Bool :=
  !Json.sameOption (after.resolve? path) (before.resolve? path)

namespace Session

variable {u : Session} {s t : State} {name : String} {value : Json} {cleared : List String}

theorem countP_moves_trail (hs : Cascade.Covers u.form.fields s.values) (name : String)
    (value : Json) (revalidate : Bool) (path : String) :
    (neighbours (u.trail s name value)).countP (fun e ↦ e.1.moves e.2 path) =
      if s.values.moves (u.write s name value revalidate).1.values path then 1 else 0 := by
  have hsettled : (s.values.insert name value).resolve? path ≠ s.values.resolve? path →
      (s.values.insert name value).readKey path ∈ [name] := by
    intro hm
    rw [Record.readKey_insert_of_moved hm]
    exact List.mem_cons_self
  obtain ⟨m, n, hmap⟩ :=
    (u.run_passes s name value).exists_map_resolve?_trail (hs.insert name value) hsettled
  have hcount := countP_neighbours_replicate (r := fun v w ↦ !Json.sameOption w v)
    (fun v ↦ by rw [Json.sameOption_self, Bool.not_true]) (s.values.resolve? path)
    ((u.write s name value revalidate).1.values.resolve? path) m n
  rw [write_values, ← hmap, neighbours_map, List.countP_map] at hcount
  rw [write_values]
  exact hcount

theorem exists_neighbours_sees_iff (hs : Cascade.Covers u.form.fields s.values) (name : String)
    (value : Json) (revalidate : Bool) (path : String) :
    (∃ e ∈ neighbours (u.trail s name value), e.1.moves e.2 path) ↔
      s.values.moves (u.write s name value revalidate).1.values path := by
  refine List.countP_pos_iff.symm.trans ?_
  rw [countP_moves_trail hs name value revalidate]
  split
  · next h => exact iff_of_true Nat.one_pos h
  · next h => exact iff_of_false (Nat.lt_irrefl 0) h

/-- A path that a change moves is moved in one step. So what a field sees from step to step is what
it sees between the ends of the change. -/
theorem moves_once_of_accepts (hs : u.Reachable s) (ha : u.Accepts s name value (t, cleared)) :
    (∃ rest, u.trail s name value = s.values :: s.values.insert name value :: rest) ∧
    (u.trail s name value).getLast? = some t.values ∧
    (∀ path,
      (neighbours (u.trail s name value)).countP (fun e ↦ e.1.moves e.2 path) ≤ 1 ∧
      ((∃ e ∈ neighbours (u.trail s name value), e.1.moves e.2 path) ↔
        s.values.moves t.values path)) ∧
    ∀ f : Field,
      (∃ e ∈ neighbours (u.trail s name value), f.seesChange e.2 e.1) ↔
        f.seesChange t.values s.values := by
  obtain ⟨revalidate, he⟩ := ha.eq_write
  obtain rfl : t = (u.write s name value revalidate).1 := congrArg Prod.fst he
  have hiff := exists_neighbours_sees_iff hs.covers name value revalidate
  refine ⟨Cascade.exists_trail_eq _ _ _, ?_, ?_, ?_⟩
  · rw [trail, Cascade.getLast?_trail, write_values]
  · intro path
    refine ⟨?_, hiff path⟩
    rw [countP_moves_trail hs.covers name value revalidate]
    split <;> omega
  · intro f
    simp only [Field.seesChange, List.any_eq_true]
    constructor
    · rintro ⟨e, hm, c, hc, hsees⟩
      exact ⟨c, hc, (hiff c.field).1 ⟨e, hm, hsees⟩⟩
    · rintro ⟨c, hc, hsees⟩
      obtain ⟨e, hm, hmoved⟩ := (hiff c.field).2 hsees
      exact ⟨e, hm, c, hc, hmoved⟩

/-- A lodging whose address goes when another city is given, under a name of its own. -/
def lodging : Session where
  options := .standard
  form := ⟨none, none, none, [
    { Field.named "address" .text with
      defaultValue :=
        some (.object [("city", .string "Oslo"), ("street", .string "Karl Johans gate")]),
      clearRules := [⟨"address.city", .changed, none⟩] }], none, none⟩

def lodged : State :=
  ⟨.ofList [("address", .string ""), ("address.city", .string "Rome")], some lodging.start.values,
    [], [], false⟩

/-- The city moves when it is given, and is then no longer that of the address; the street moves
with the address. -/
theorem moves_once_of_accepts_lodging :
    lodging.Reachable lodging.start ∧
    lodging.Accepts lodging.start "address.city" (.string "Rome") (lodged, ["address"]) ∧
    (neighbours (lodging.trail lodging.start "address.city" (.string "Rome"))).map
        (fun e ↦ (e.1.moves e.2 "address.city", e.1.moves e.2 "address.street")) =
      [(true, false), (false, true)] ∧
    ((∃ e ∈ neighbours (lodging.trail lodging.start "address.city" (.string "Rome")),
      e.1.moves e.2 "address.street") ↔
      lodging.start.values.moves lodged.values "address.street") := by
  have hset : lodging.set? lodging.start "address.city" (.string "Rome") false =
      some (lodged, ["address"]) := by
    with_unfolding_all rfl
  have h := moves_once_of_accepts .start (.set hset)
  exact ⟨.start, .set hset, by with_unfolding_all rfl, (h.2.2.1 "address.street").2⟩

end Session

end Formwork
