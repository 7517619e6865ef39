import Formwork.Form.Decoder
import Formwork.Form.Encoder
import Formwork.Proofs.Cascade.Repeats
import Formwork.Proofs.Session.Reachable

namespace Formwork.Session

variable {u : Session} {s t : State} {name : String} {value : Json} {cleared : List String}

/-- Each field is cleared at most once. A name is reported again only for a namesake that the same
pass finds due. -/
theorem nodup_cleared_iff (h : u.Accepts s name value (t, cleared)) :
    cleared.Subperm u.form.fieldNames ∧
      (cleared.Nodup ↔ ∀ pass ∈ u.passes s name value, (pass.map Field.name).Nodup) := by
  obtain ⟨revalidate, he⟩ := h.eq_write
  obtain rfl : cleared = (u.passes s name value).flatten.map Field.name := congrArg Prod.snd he
  have hrun := u.run_passes s name value
  exact ⟨hrun.subperm_names, hrun.nodup_names_iff⟩

def twinField : Field :=
  { Field.named "city" .text with
    defaultValue := some (.string "Troy"), clearRules := [⟨"country", .changed, none⟩] }

/-- A country, and two fields for one city, which goes with the country. -/
def tour : Session where
  options := .standard
  form := ⟨none, none, none,
    [{ Field.named "country" .text with defaultValue := some (.string "us") }, twinField,
      twinField], none, none⟩

def toured : State :=
  ⟨.ofList [("city", .string ""), ("country", .string "ca")], some tour.start.values, [], [], false⟩

theorem tour_set :
    tour.set? tour.start "country" (.string "ca") false = some (toured, ["city", "city"]) := by
  with_unfolding_all rfl

theorem nodup_cleared_iff_tour :
    tour.Accepts tour.start "country" (.string "ca") (toured, ["city", "city"]) ∧
    ["city", "city"].Subperm tour.form.fieldNames ∧
    ¬ ∀ pass ∈ tour.passes tour.start "country" (.string "ca"), (pass.map Field.name).Nodup := by
  obtain ⟨hsub, hiff⟩ := nodup_cleared_iff (.set tour_set)
  exact ⟨.set tour_set, hsub, fun hall ↦ absurd (hiff.2 hall) (by decide)⟩

/-- A form with a repeated name can be read, and its namesakes are cleared together, each for
itself. -/
theorem not_nodup_cleared :
    ¬ ∀ (u : Session) (s t : State) (name : String) (value : Json) (cleared : List String),
      (∃ v, Form.ofJson v = .ok u.form) → u.Reachable s → u.Accepts s name value (t, cleared) →
      cleared.Nodup := by
  intro h
  have hread : Form.ofJson tour.form.toJson = .ok tour.form := by with_unfolding_all rfl
  exact absurd (h tour tour.start toured _ _ _ ⟨_, hread⟩ .start (.set tour_set)) (by decide)

end Formwork.Session
