import Formwork.Proofs.Record.Sameness
import Formwork.Proofs.Session.Effect
import Formwork.Proofs.Session.Run

namespace Formwork

theorem Cascade.passes_eq_nil {fields : List Field} {values reference : Bag}
    (h : values.Same reference) (origin : String) (cleared : List String) :
    passes fields origin cleared values reference = [] := by
  have hdue : due fields origin cleared values reference = [] := by
    apply List.eq_nil_iff_forall_not_mem.2
    intro f hf
    have hdue := (mem_due.1 hf).2
    simp only [Field.isDue, Bool.and_eq_true] at hdue
    obtain ⟨c, _, hsees⟩ := List.any_eq_true.1 hdue.1.1
    rw [Condition.sees, h.sameOption_resolve? c.field] at hsees
    cases hsees
  exact (Run.stop hdue).eq_passes.symm

namespace Session

variable {u : Session} {s t : State} {name : String} {value : Json} {cleared : List String}

theorem write_of_same (h : Json.sameOption (some value) (s.values.get? name)) (revalidate : Bool) :
    (u.write s name value revalidate).2 = [] ∧
      (u.write s name value revalidate).1.values = s.values.insert name value := by
  have hnone : u.passes s name value = [] := Cascade.passes_eq_nil (Record.same_insert h) name []
  rw [write_cleared, write_values, hnone]
  exact ⟨rfl, rfl⟩

theorem write_of_get? (h : s.values.get? name = some value) (revalidate : Bool) :
    (u.write s name value revalidate).2 = [] ∧
    (u.write s name value revalidate).1.values = s.values := by
  have hsame : Json.sameOption (some value) (s.values.get? name) := by rw [h, Json.sameOption_self]
  have hw := u.write_of_same hsame revalidate
  rwa [Record.insert_of_get? h] at hw

theorem Accepts.exists_accepts (h : u.Accepts s name value (t, cleared)) (r : State) :
    ∃ change, u.Accepts r name value change := by
  cases h with
  | set h =>
    rw [set?] at h
    split at h
    · next ha =>
      have hset : u.set? r name value false = some (u.write r name value false) := if_pos ha
      exact ⟨_, .set hset⟩
    · cases h
  | @clear f _ hf _ =>
    have hclear : u.clear? r name = some (u.write r name f.blankValue false) := by
      rw [clear?, hf, Option.map_some]
    exact ⟨_, .clear hf hclear⟩

theorem same_of_accepts (h : Json.sameOption (some value) (s.values.get? name))
    {change : State × List String}
    (ha : u.Accepts s name value change) : change.2 = [] ∧ change.1.values.Same s.values := by
  obtain ⟨revalidate, rfl⟩ := ha.eq_write
  obtain ⟨hcleared, hvalues⟩ := u.write_of_same h revalidate
  refine ⟨hcleared, ?_⟩
  rw [hvalues]
  exact Record.same_insert h

/-- A write that was accepted is accepted once more, and then clears nothing and leaves the values
as they are. Any write of a value that equals the entry of its name clears nothing and leaves every
entry equal to what it was. -/
theorem keeps_of_repeated (u : Session) (s : State) (name : String) (value : Json) :
    (∀ t cleared, u.Accepts s name value (t, cleared) →
      (∃ change, u.Accepts t name value change) ∧
      ∀ change, u.Accepts t name value change → change.2 = [] ∧ change.1.values = t.values) ∧
    (Json.sameOption (some value) (s.values.get? name) →
      (∀ change, u.Accepts s name value change → change.2 = [] ∧ change.1.values.Same s.values) ∧
      ∀ revalidate, ¬ u.admits name value →
        u.step s (.set name value revalidate) = ⟨s, .rejected, []⟩) := by
  constructor
  · intro t cleared ha
    obtain ⟨revalidate, he⟩ := ha.eq_write
    obtain rfl : t = (u.write s name value revalidate).1 := congrArg Prod.fst he
    refine ⟨ha.exists_accepts _, ?_⟩
    intro change hagain
    obtain ⟨revalidate', rfl⟩ := hagain.eq_write
    exact write_of_get? (u.get?_write_self s name value revalidate) revalidate'
  · intro hsame
    refine ⟨fun change ha ↦ same_of_accepts hsame ha, ?_⟩
    intro revalidate hrefused
    exact step_set_of_not_admits hrefused s revalidate

def zero (negative : Bool) : Json := .number (.float (.zero negative))

def remark : Field :=
  { Field.named "remark" .text with
    defaultValue := some (.string "for free"), clearRules := [⟨"fee", .neq, some (.string "")⟩] }

def booth : Session where
  options := .standard
  form := ⟨none, none, none,
    [{ Field.named "fee" .number with defaultValue := some (zero false) }, remark], none, none⟩

def signed : State :=
  ⟨booth.start.values.insert "fee" (zero true), some booth.start.values, [], [], false⟩

/-- The remark waits for nothing but a change of the fee. The other zero is none; the whole number
is one. -/
theorem keeps_of_repeated_booth :
    booth.Accepts booth.start "fee" (zero true) (signed, []) ∧
    remark.mustClear booth.start.values (some booth.start.values) ∧
    remark.holdsNothing (booth.start.values.resolve? "remark") = false ∧
    Json.sameOption (some (zero true)) (booth.start.values.get? "fee") ∧
    signed.values.Same booth.start.values ∧
    (∃ change, booth.Accepts signed "fee" (zero true) change ∧ change.2 = [] ∧
      change.1.values = signed.values) ∧
    (booth.step booth.start (.set "fee" (.int 0) false)).event = .changed ["remark"] := by
  have hset : booth.set? booth.start "fee" (zero true) false = some (signed, []) := by
    with_unfolding_all rfl
  have hsame : Json.sameOption (some (zero true)) (booth.start.values.get? "fee") := by decide
  obtain ⟨hrepeated, hequal⟩ := keeps_of_repeated booth booth.start "fee" (zero true)
  obtain ⟨⟨change, hagain⟩, hkeeps⟩ := hrepeated signed [] (.set hset)
  exact ⟨.set hset, by decide, by decide, hsame, ((hequal hsame).1 _ (.set hset)).2,
    ⟨change, hagain, hkeeps change hagain⟩, by with_unfolding_all rfl⟩

end Session

end Formwork
