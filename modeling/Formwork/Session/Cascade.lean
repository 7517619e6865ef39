import Formwork.Condition.Basic
import Formwork.Form.Basic

namespace Formwork

namespace Field

def isVisible (f : Field) (values : Bag) : Bool := allMet f.visibilityRules .visibility values none

/-- A list of conditions is a conjunction, but an empty one neither disables nor clears. -/
def isDisabled (f : Field) (values : Bag) : Bool :=
  f.disabled || (!f.disableRules.isEmpty && allMet f.disableRules .disable values none)

def mustClear (f : Field) (values : Bag) (previous : Option Bag) : Bool :=
  !f.clearRules.isEmpty && allMet f.clearRules .clear values previous

def seesChange (f : Field) (values reference : Bag) : Bool :=
  f.clearRules.any fun c ↦ c.sees values reference

/-- Whether a pass over `values` clears the field, given the bag before the last pass. -/
def isDue (f : Field) (values reference : Bag) : Bool :=
  f.seesChange values reference && f.mustClear values (some reference) &&
    !f.holdsNothing (values.resolve? f.name)

end Field

namespace Cascade

def candidates (fields : List Field) (origin : String) (cleared : List String) : List Field :=
  fields.filter fun f ↦ f.name != origin && !cleared.contains f.name

def due (fields : List Field) (origin : String) (cleared : List String) (values reference : Bag) :
    List Field :=
  (candidates fields origin cleared).filter fun f ↦ f.isDue values reference

def clearAll (values : Bag) (fields : List Field) : Bag :=
  fields.foldl (fun b f ↦ b.insert f.name f.blankValue) values

theorem candidates_append (fields : List Field) (origin : String) (cleared more : List String) :
    candidates fields origin (cleared ++ more) =
      (candidates fields origin cleared).filter fun f ↦ !more.contains f.name := by
  simp only [candidates, List.filter_filter]
  congr 1
  funext f
  simp [List.contains_eq_mem, Bool.and_comm, Bool.and_assoc]

theorem candidates_length_lt {fields : List Field} {origin : String} {cleared : List String}
    {f : Field} {rest : List Field} {values reference : Bag}
    (h : due fields origin cleared values reference = f :: rest) :
    (candidates fields origin (cleared ++ (f :: rest).map Field.name)).length <
      (candidates fields origin cleared).length := by
  have hf : f ∈ candidates fields origin cleared :=
    (List.mem_filter.1 (h ▸ List.mem_cons_self : f ∈ due fields origin cleared values reference)).1
  rw [candidates_append]
  exact List.length_filter_lt_length_iff_exists.2 ⟨f, hf, by simp⟩

/-- The passes of a cascade, each with the fields it clears. `reference` is the bag before the last
change. -/
def passes (fields : List Field) (origin : String) (cleared : List String)
    (values reference : Bag) : List (List Field) :=
  match _h : due fields origin cleared values reference with
  | [] => []
  | f :: rest =>
    (f :: rest) :: passes fields origin (cleared ++ (f :: rest).map Field.name)
      (clearAll values (f :: rest)) values
termination_by (candidates fields origin cleared).length
decreasing_by exact candidates_length_lt _h

end Cascade

def Form.cascade (form : Form) (origin : String) (values before : Bag) : List (List Field) :=
  Cascade.passes form.fields origin [] values before

end Formwork
