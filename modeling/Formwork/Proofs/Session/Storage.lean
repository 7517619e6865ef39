import Formwork.Proofs.Session.Run
import Formwork.Proofs.Session.Waiting
import Formwork.Proofs.Validation.Complaints

namespace Formwork

theorem Cascade.covers_of_mem_trail {fields : List Field} {values reference b : Bag}
    {ps : List (List Field)} (hr : Covers fields reference) (hv : Covers fields values)
    (h : b ∈ trail values reference ps) :
    Covers fields b := by
  induction ps generalizing values reference with
  | nil =>
    simp only [trail, List.mem_cons, List.not_mem_nil, or_false] at h
    cases h with
    | inl h => exact h ▸ hr
    | inr h => exact h ▸ hv
  | cons pass rest ih =>
    rw [trail, List.mem_cons] at h
    cases h with
    | inl h => exact h ▸ hr
    | inr h => exact ih hv (hv.clearAll pass) h

namespace Session

variable {u : Session} {s t : State} {name : String} {f : Field}

theorem Leads.covers_previous {c : Command} (h : u.Leads s c t)
    (hs : Cascade.Covers u.form.fields s.values)
    (hp : ∀ b, s.previous = some b → Cascade.Covers u.form.fields b) {b : Bag}
    (hb : t.previous = some b) :
    Cascade.Covers u.form.fields b := by
  cases h with
  | set _ =>
    rw [write_previous] at hb
    exact Option.some.inj hb ▸ hs
  | clear _ =>
    rw [write_previous] at hb
    exact Option.some.inj hb ▸ hs
  | blur name =>
    apply hp
    rw [← hb, Session.blur]
    split <;> rfl
  | refuse _ => exact hp b hb
  | ignore _ => exact hp b hb
  | submit => exact hp b hb
  | reset => cases hb

theorem Reachable.covers_previous (h : u.Reachable s) {b : Bag} (hb : s.previous = some b) :
    Cascade.Covers u.form.fields b := by
  induction h generalizing b with
  | start => cases hb
  | step c hs ih => exact (u.leads_step _ c).covers_previous hs.covers (fun _ ↦ ih) hb
  | validate _ ih => exact ih hb

/-- Whatever looks at a name looks at the entry under it. -/
structure SharesStorage (u : Session) (s : State) (name : String) : Prop where
  read : s.values.resolve? name = s.values.get? name
  checked : (u.checks.validate s.values).lookup name =
    (u.form.fields.filter (·.name == name)).findSome? fun f ↦
      (f.checks u.options.backend).validate (s.values.resolve? name)
  judged : ∀ c : Condition, c.field = name → ∀ purpose,
    c.holds purpose s.values s.previous =
      if c.operator = .changed ∧ purpose = .clear then
        s.previous.any fun b ↦ !Json.sameOption (s.values.get? name) (b.get? name)
      else (c.operator.test? (s.values.get? name) c.value).getD purpose.fallback
  during : ∀ edited value, ∀ b ∈ u.trail s edited value, b.resolve? name = b.get? name

theorem shares_storage (hs : u.Reachable s) (hf : f ∈ u.form.fields) :
    s.values.contains f.name ∧ (f.name ≠ "" → u.SharesStorage s f.name) := by
  have hcov := hs.covers
  refine ⟨hcov f hf, fun hn ↦ ?_⟩
  have hread {b : Bag} (hb : Cascade.Covers u.form.fields b) : b.resolve? f.name = b.get? f.name :=
    Record.resolve?_of_contains hn (hb f hf)
  refine ⟨hread hcov, ?_, ?_, ?_⟩
  · rw [FormChecks.lookup_validate, FormChecks.validateField, hread hcov, checks, Form.checks,
      List.filter_map, List.findSome?_map]
    rfl
  · rintro c hc purpose
    rw [Condition.holds, hc, hread hcov]
    split
    · cases hp : s.previous with
      | none => rfl
      | some b =>
        rw [Option.any_some, Option.any_some, Condition.sees, hc, hread hcov,
          hread (hs.covers_previous hp)]
    · rfl
  · intro edited value b hb
    exact hread (Cascade.covers_of_mem_trail hcov (hcov.insert edited value) hb)

def cityOf (city : String) : Json := .object [("city", .string city)]

def addressCity : Field :=
  { Field.named "address.city" .text with
    defaultValue := some (.string "Bergen"), validation := [.ofKind .required],
    clearRules := [⟨"address", .changed, none⟩] }

/-- An address with a city in it, and a city whose name is the path to that one. -/
def parcel : Session where
  options := { Options.standard with initialValues := some (.ofList [("address", cityOf "Oslo")]) }
  form := ⟨none, none, none, [Field.named "address" .file, addressCity], none, none⟩

def addressed : State := parcel.after parcel.start [.set "address" (cityOf "Rome") true]

theorem shares_storage_parcel :
    addressCity ∈ parcel.form.fields ∧ parcel.Reachable addressed ∧ addressCity.name ≠ "" ∧
    addressed.values.contains "address.city" ∧ parcel.SharesStorage addressed "address.city" ∧
    Json.sameOption (addressed.values.get? "address") (some (cityOf "Rome")) ∧
    Json.sameOption (addressed.values.resolve? "address.city") (some (.string "")) ∧
    addressed.errors = [("address.city", "Required")] := by
  have hf : addressCity ∈ parcel.form.fields := .tail _ (.head _)
  have hs : parcel.Reachable addressed := Reachable.start.after _
  have hn : addressCity.name ≠ "" := by decide
  obtain ⟨hstored, hshares⟩ := shares_storage hs hf
  exact ⟨hf, hs, hn, hstored, hshares hn, by decide +kernel, by decide +kernel, by decide +kernel⟩

end Session

end Formwork
