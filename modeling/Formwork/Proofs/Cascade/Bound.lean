import Formwork.Proofs.Cascade.Run
import Mathlib.Data.Finset.Card
import Mathlib.Data.Finset.SDiff

namespace Formwork.Cascade

/-- The cascade cut off behind its `n`-th pass, where the pass that finds nothing more to clear
counts as well: the passes that clear something, if it has come to its end by then. -/
def passesWithin? (fields : List Field) (origin : String) :
    ℕ → List String → Bag → Bag → Option (List (List Field))
  | 0, _, _, _ => none
  | n + 1, cleared, values, reference =>
    match due fields origin cleared values reference with
    | [] => some []
    | f :: rest =>
      (passesWithin? fields origin n (cleared ++ (f :: rest).map Field.name)
        (clearAll values (f :: rest)) values).map
        ((f :: rest) :: ·)

def openNames (fields : List Field) (origin : String) (cleared : List String) : Finset String :=
  (fields.map Field.name).toFinset.erase origin \ cleared.toFinset

variable {fields : List Field} {origin : String} {cleared : List String} {values reference : Bag}
  {ps : List (List Field)}

theorem mem_openNames {k : String} :
    k ∈ openNames fields origin cleared ↔
      (k ≠ origin ∧ k ∈ fields.map Field.name) ∧ k ∉ cleared := by
  rw [openNames, Finset.mem_sdiff, Finset.mem_erase, List.mem_toFinset, List.mem_toFinset]

theorem openNames_card_lt {pass : List Field}
    (hd : due fields origin cleared values reference = pass) (hne : pass ≠ []) :
    (openNames fields origin (cleared ++ pass.map Field.name)).card <
      (openNames fields origin cleared).card := by
  obtain ⟨f, hf⟩ := List.exists_mem_of_ne_nil pass hne
  obtain ⟨hm, hn, hc⟩ := (mem_due.1 (hd ▸ hf)).1
  refine Finset.card_lt_card ((Finset.ssubset_iff_of_subset fun k hk ↦ ?_).2
    ⟨f.name, ?_, fun hk ↦ ?_⟩)
  · obtain ⟨hother, hnew⟩ := mem_openNames.1 hk
    exact mem_openNames.2 ⟨hother, fun h ↦ hnew (List.mem_append_left _ h)⟩
  · exact mem_openNames.2 ⟨⟨hn, List.mem_map_of_mem hm⟩, hc⟩
  · exact (mem_openNames.1 hk).2 (List.mem_append_right _ (List.mem_map_of_mem hf))

namespace Run

theorem length_le_card (h : Run fields origin cleared values reference ps) :
    ps.length ≤ (openNames fields origin cleared).card := by
  induction h with
  | stop _ => exact Nat.zero_le _
  | pass hd hne _ ih => exact ih.trans_lt (openNames_card_lt hd hne)

theorem passesWithin?_eq_some (h : Run fields origin cleared values reference ps) {n : ℕ}
    (hn : ps.length < n) :
    passesWithin? fields origin n cleared values reference = some ps := by
  induction h generalizing n with
  | stop hd =>
    obtain ⟨n, rfl⟩ := Nat.exists_eq_add_of_lt hn
    rw [passesWithin?, hd]
  | @pass cleared values reference pass rest hd hne _ ih =>
    obtain ⟨f, more, rfl⟩ := List.exists_cons_of_ne_nil hne
    obtain ⟨n, rfl⟩ := Nat.exists_eq_succ_of_ne_zero (Nat.ne_zero_of_lt hn)
    simp only [passesWithin?, hd, ih (Nat.lt_of_succ_lt_succ hn), Option.map_some]

end Run

/-- Whatever the conditions look at, each other and themselves included, a cascade ends, with one
pass for each name of the form beside the edited one, at most, and one that finds nothing more to
clear. -/
theorem passesWithin?_cascade (form : Form) (origin : String) (values before : Bag) :
    passesWithin? form.fields origin ((form.fieldNames.toFinset.erase origin).card + 1) []
        values before =
      some (form.cascade origin values before) := by
  have hrun := run_passes form.fields origin [] values before
  have hnames : openNames form.fields origin [] = form.fieldNames.toFinset.erase origin := by
    rw [openNames, List.toFinset_nil, Finset.sdiff_empty]
    rfl
  exact hrun.passesWithin?_eq_some (Nat.lt_succ_of_le (hnames ▸ hrun.length_le_card))

def follower (name leader : String) : Field :=
  { Field.named name .text with
    defaultValue := some (.string name), clearRules := [⟨leader, .changed, none⟩] }

/-- Three fields, each of which is cleared where the one before it changes, and the first where the
last does. -/
def ring : Form :=
  ⟨none, none, none, [follower "a" "c", follower "b" "a", follower "c" "b"], none, none⟩

example :
    passesWithin? ring.fields "a" 2 []
      (ring.initialBag.insert "a" (.string "new")) ring.initialBag = none ∧
      passesWithin? ring.fields "a" 3 []
          (ring.initialBag.insert "a" (.string "new")) ring.initialBag =
        some [[follower "b" "a"], [follower "c" "b"]] :=
  ⟨rfl, rfl⟩

end Formwork.Cascade
