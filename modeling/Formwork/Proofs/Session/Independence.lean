import Formwork.Proofs.Condition.Equality
import Formwork.Proofs.Session.Reachable

namespace Formwork

def Field.LooksAt (f : Field) (key : String) : Prop :=
  ∃ c ∈ f.clearRules, c.field = key ∨ pathHead c.field = key

/-- The names that a change of one entry may reach: its own, and that of each field that looks at
one of them. -/
inductive Form.Wake (form : Form) (name : String) : String → Prop
  | origin : Wake form name name
  | field {f : Field} {key : String} :
      Wake form name key → f ∈ form.fields → f.LooksAt key → Wake form name f.name

theorem Form.Wake.mem_of_closed {form : Form} {name k : String} {names : List String}
    (h : form.Wake name k) (hn : name ∈ names)
    (hc : ∀ f ∈ form.fields, ∀ c ∈ f.clearRules, c.field ∈ names ∨ pathHead c.field ∈ names →
      f.name ∈ names) :
    k ∈ names := by
  induction h with
  | origin => exact hn
  | field _ hf hl ih =>
    obtain ⟨c, hm, hk⟩ := hl
    refine hc _ hf c hm ?_
    rcases hk with rfl | rfl
    · exact .inl ih
    · exact .inr ih

def Record.EqOff (names : String → Prop) (b b' : Bag) : Prop :=
  ∀ k, ¬ names k → b.get? k = b'.get? k

theorem Record.EqOff.insert {names : String → Prop} {b b' : Bag} (h : EqOff names b b')
    (key : String) (value : Json) :
    EqOff names (b.insert key value) (b'.insert key value) := by
  intro k hk
  rw [get?_insert, get?_insert, h k hk]

namespace Field

variable {f : Field} {b b' r r' : Bag}

theorem resolve?_eq_of_looksAt (h : ∀ k, f.LooksAt k → b.get? k = b'.get? k) {c : Condition}
    (hc : c ∈ f.clearRules) :
    b.resolve? c.field = b'.resolve? c.field :=
  Record.resolve?_congr (h _ ⟨c, hc, .inl rfl⟩) (h _ ⟨c, hc, .inr rfl⟩)

theorem seesChange_eq_false (h : ∀ k, f.LooksAt k → b.get? k = r.get? k) :
    f.seesChange b r = false := by
  refine List.any_eq_false.2 fun c hc hs ↦ ?_
  rw [Condition.sees_eq_false (resolve?_eq_of_looksAt h hc)] at hs
  cases hs

theorem isDue_congr (hb : ∀ k, f.LooksAt k → b.get? k = b'.get? k)
    (hr : ∀ k, f.LooksAt k → r.get? k = r'.get? k)
    (hn : b.resolve? f.name = b'.resolve? f.name) : f.isDue b r = f.isDue b' r' := by
  have hs : f.seesChange b r = f.seesChange b' r' := by
    rw [Bool.eq_iff_iff, seesChange, seesChange, List.any_eq_true, List.any_eq_true]
    refine exists_congr fun c ↦ and_congr_right fun hc ↦ ?_
    rw [Condition.sees_congr (resolve?_eq_of_looksAt hb hc) (resolve?_eq_of_looksAt hr hc)]
  have ha : allMet f.clearRules .clear b (some r) = allMet f.clearRules .clear b' (some r') := by
    rw [Bool.eq_iff_iff, allMet, allMet, List.all_eq_true, List.all_eq_true]
    refine forall_congr' fun c ↦ imp_congr_right fun hc ↦ ?_
    rw [Condition.holds_congr (resolve?_eq_of_looksAt hb hc) (resolve?_eq_of_looksAt hr hc)]
  simp only [isDue, mustClear, hs, ha, hn]

end Field

namespace Cascade.Run

variable {form : Form} {origin : String} {cleared : List String} {values reference : Bag}
  {ps : List (List Field)}

theorem wake_of_isDue (h : Record.EqOff (form.Wake origin) values reference) {f : Field}
    (hf : f ∈ form.fields) (hd : f.isDue values reference) : form.Wake origin f.name := by
  refine Classical.byContradiction fun hw ↦ ?_
  have hs : f.seesChange values reference = false :=
    Field.seesChange_eq_false fun k hk ↦ h k fun hwk ↦ hw (.field hwk hf hk)
  rw [Field.isDue, hs, Bool.false_and, Bool.false_and] at hd
  cases hd

theorem eqOff_clearAll (h : Record.EqOff (form.Wake origin) values reference) {pass : List Field}
    (hp : due form.fields origin cleared values reference = pass) :
    Record.EqOff (form.Wake origin) (clearAll values pass) values := by
  intro k hk
  refine get?_clearAll_of_notMem (fun hm ↦ ?_) values
  obtain ⟨f, hf, rfl⟩ := List.mem_map.1 hm
  obtain ⟨⟨hf, _, _⟩, hd⟩ := mem_due.1 (hp ▸ hf)
  exact hk (wake_of_isDue h hf hd)

theorem wake_of_mem (h : Run form.fields origin cleared values reference ps)
    (hv : Record.EqOff (form.Wake origin) values reference) {f : Field} (hf : f ∈ ps.flatten) :
    form.Wake origin f.name := by
  induction h with
  | stop _ => cases hf
  | pass hd _ _ ih =>
    rw [List.flatten_cons, List.mem_append] at hf
    rcases hf with hf | hf
    · obtain ⟨⟨hm, _, _⟩, hdue⟩ := mem_due.1 (hd ▸ hf)
      exact wake_of_isDue hv hm hdue
    · exact ih (eqOff_clearAll hv hd) hf

/-- A cascade does not notice entries that are out of its reach, if no field that looks at them is
in its reach. -/
theorem congr_off {names : String → Prop} {values' reference' : Bag}
    (h : Run form.fields origin cleared values reference ps)
    (hclosed : ∀ f ∈ form.fields, ∀ k, f.LooksAt k → names k → names f.name)
    (hapart : ∀ k, form.Wake origin k → ¬ names k) (hcov : Covers form.fields values)
    (hv : Record.EqOff names values values') (hr : Record.EqOff names reference reference')
    (hw : Record.EqOff (form.Wake origin) values reference)
    (hw' : Record.EqOff (form.Wake origin) values' reference') :
    Run form.fields origin cleared values' reference' ps := by
  have hdue {cleared : List String} {v v' r r' : Bag} (hc : Covers form.fields v)
      (hv : Record.EqOff names v v') (hr : Record.EqOff names r r')
        (hw : Record.EqOff (form.Wake origin) v r)
      (hw' : Record.EqOff (form.Wake origin) v' r') :
      due form.fields origin cleared v r = due form.fields origin cleared v' r' := by
    refine List.filter_congr fun f hf ↦ ?_
    have hm : f ∈ form.fields := (List.mem_filter.1 hf).1
    by_cases hn : names f.name
    · -- A field beyond the reach of the change sees none, whatever the two bags say elsewhere.
      have hreach : ∀ k, f.LooksAt k → ¬ form.Wake origin k :=
        fun k hk hwk ↦ hapart _ (.field hwk hm hk) hn
      have hs := Field.seesChange_eq_false fun k hk ↦ hw k (hreach k hk)
      have hs' := Field.seesChange_eq_false fun k hk ↦ hw' k (hreach k hk)
      simp only [Field.isDue, hs, hs', Bool.false_and]
    · have hlook : ∀ k, f.LooksAt k → ¬ names k := fun k hk hkn ↦ hn (hclosed f hm k hk hkn)
      exact Field.isDue_congr (fun k hk ↦ hv k (hlook k hk)) (fun k hk ↦ hr k (hlook k hk))
        (Record.resolve?_congr_of_contains (hc f hm) (hv _ hn))
  induction h generalizing values' reference' with
  | stop hd => exact .stop (hdue hcov hv hr hw hw' ▸ hd)
  | @pass cleared values reference pass rest hd hne _ ih =>
    have hd' := (hdue hcov hv hr hw hw').symm.trans hd
    refine .pass hd' hne (ih (hcov.clearAll pass) (fun k hk ↦ ?_) hv (eqOff_clearAll hw hd)
      (eqOff_clearAll hw' hd'))
    exact get?_clearAll_congr (hv k hk) pass

end Cascade.Run

namespace Session

variable {u : Session} {s : State} {name other : String} {value : Json}

def setOrKeep (u : Session) (s : State) (name : String) (value : Json) (revalidate : Bool) :
    State × List String :=
  (u.set? s name value revalidate).getD (s, [])

theorem setOrKeep_of_admits (h : u.admits name value) (s : State) (revalidate : Bool) :
    u.setOrKeep s name value revalidate = u.write s name value revalidate := by
  rw [setOrKeep, set?, if_pos h, Option.getD_some]

theorem setOrKeep_of_not_admits (h : ¬ u.admits name value) (s : State) (revalidate : Bool) :
    u.setOrKeep s name value revalidate = (s, []) := by
  rw [setOrKeep, set?, if_neg h, Option.getD_none]

theorem eqOff_insert (form : Form) (b : Bag) (name : String) (value : Json) :
    Record.EqOff (form.Wake name) (b.insert name value) b :=
  fun _ hk ↦ Record.get?_insert_of_ne b value fun he ↦ hk (he ▸ .origin)

theorem eqOff_write (u : Session) (s : State) (name : String) (value : Json) (revalidate : Bool) :
    Record.EqOff (u.form.Wake name) (u.write s name value revalidate).1.values s.values := by
  intro k hk
  have hm : k ∉ (u.passes s name value).flatten.map Field.name := by
    intro h
    obtain ⟨f, hf, rfl⟩ := List.mem_map.1 h
    exact hk ((u.run_passes s name value).wake_of_mem (eqOff_insert u.form s.values name value) hf)
  rw [write_values, Cascade.get?_clearAll_of_notMem hm,
    eqOff_insert u.form s.values name value k hk]

theorem passes_congr {s' : State} (hs : Cascade.Covers u.form.fields s.values)
    (h : Record.EqOff (u.form.Wake other) s.values s'.values)
    (hd : ∀ k, u.form.Wake name k → ¬ u.form.Wake other k) :
    u.passes s' name value = u.passes s name value :=
  ((u.run_passes s name value).congr_off (fun _ hf _ hk hw ↦ .field hw hf hk) hd
    (hs.insert name value) (h.insert name value) h (eqOff_insert u.form s.values name value)
    (eqOff_insert u.form s'.values name value)).eq_passes.symm

theorem write_get?_congr {s' : State} {k : String} (h : s.values.get? k = s'.values.get? k)
    (hp : u.passes s' name value = u.passes s name value) (revalidate : Bool) :
    (u.write s name value revalidate).1.values.get? k =
      (u.write s' name value revalidate).1.values.get? k := by
  rw [write_values, write_values, hp]
  refine Cascade.get?_clearAll_congr ?_ _
  rw [Record.get?_insert, Record.get?_insert, h]

theorem write_comm {value' : Json} (hs : Cascade.Covers u.form.fields s.values)
    (hd : ∀ k, u.form.Wake name k → ¬ u.form.Wake other k) (revalidate revalidate' : Bool) :
    (u.write (u.write s name value revalidate).1 other value' revalidate').1.values =
      (u.write (u.write s other value' revalidate').1 name value revalidate).1.values := by
  have hp : u.passes (u.write s other value' revalidate').1 name value = u.passes s name value :=
    passes_congr hs (fun k hk ↦ (eqOff_write u s other value' revalidate' k hk).symm) hd
  have hp' : u.passes (u.write s name value revalidate).1 other value' = u.passes s other value' :=
    passes_congr hs (fun k hk ↦ (eqOff_write u s name value revalidate k hk).symm) fun k hk hk' ↦
      hd k hk' hk
  refine Record.eq_of_get?_eq fun k ↦ ?_
  by_cases hk : u.form.Wake other k
  · have hn : ¬ u.form.Wake name k := fun h ↦ hd k h hk
    rw [eqOff_write u _ name value revalidate k hn]
    exact (write_get?_congr (eqOff_write u s name value revalidate k hn).symm hp' revalidate').symm
  · rw [eqOff_write u _ other value' revalidate' k hk]
    exact write_get?_congr (eqOff_write u s other value' revalidate' k hk).symm hp revalidate

/-- Two values that are set where the wakes share no name can be set in either order: the bag is the
same in the end, and each of the two clears the same names in both orders. -/
theorem setOrKeep_comm {value' : Json} {revalidate revalidate' : Bool} (hs : u.Reachable s)
    (hd : ∀ k, u.form.Wake name k → ¬ u.form.Wake other k) :
    (u.setOrKeep (u.setOrKeep s name value revalidate).1 other value' revalidate').1.values =
      (u.setOrKeep (u.setOrKeep s other value' revalidate').1 name value revalidate).1.values ∧
    (u.setOrKeep (u.setOrKeep s other value' revalidate').1 name value revalidate).2 =
      (u.setOrKeep s name value revalidate).2 ∧
    (u.setOrKeep (u.setOrKeep s name value revalidate).1 other value' revalidate').2 =
      (u.setOrKeep s other value' revalidate').2 := by
  by_cases ha : u.admits name value
  · by_cases ha' : u.admits other value'
    · have hd' : ∀ k, u.form.Wake other k → ¬ u.form.Wake name k := fun k hk hk' ↦ hd k hk' hk
      simp only [setOrKeep_of_admits ha, setOrKeep_of_admits ha', write_cleared]
      rw [passes_congr hs.covers (fun k hk ↦
        (eqOff_write u s other value' revalidate' k hk).symm) hd,
        passes_congr hs.covers (fun k hk ↦ (eqOff_write u s name value revalidate k hk).symm) hd']
      exact ⟨write_comm hs.covers hd revalidate revalidate', rfl, rfl⟩
    · simp only [setOrKeep_of_not_admits ha', and_self]
  · simp only [setOrKeep_of_not_admits ha, and_self]

/-- A country and a state that clear each other, and a seat that goes with the name of a guest. -/
def booking : Session where
  options := .standard
  form := ⟨none, none, none, [
    { Field.named "country" .text with
      defaultValue := some (.string "us"), clearRules := [⟨"state", .changed, none⟩] },
    { Field.named "state" .text with
      defaultValue := some (.string "NY"), clearRules := [⟨"country", .changed, none⟩] },
    Field.named "guest" .text,
    { Field.named "seat" .text with
      defaultValue := some (.string "7a"), clearRules :=
        [⟨"guest.name", .changed, none⟩] }], none, none⟩

def moved : State × List String := booking.setOrKeep booking.start "country" (.string "ca") false

def seated : State × List String :=
  booking.setOrKeep booking.start "guest" (.object [("name", .string "Ann")]) false

theorem setOrKeep_comm_booking :
    booking.Reachable booking.start ∧
    (∀ k, booking.form.Wake "country" k → ¬ booking.form.Wake "guest" k) ∧
    (booking.setOrKeep moved.1 "guest" (.object [("name", .string "Ann")]) false).1.values =
      (booking.setOrKeep seated.1 "country" (.string "ca") false).1.values ∧
    (booking.setOrKeep seated.1 "country" (.string "ca") false).2 = moved.2 ∧
    (booking.setOrKeep moved.1 "guest" (.object [("name", .string "Ann")]) false).2 = seated.2 := by
  have hd : ∀ k, booking.form.Wake "country" k → ¬ booking.form.Wake "guest" k := by
    intro k hk hk'
    have hc : k ∈ ["country", "state"] := hk.mem_of_closed (by decide) (by decide +kernel)
    have hg : k ∈ ["guest", "seat"] := hk'.mem_of_closed (by decide) (by decide +kernel)
    revert hc hg
    simp only [List.mem_cons, List.not_mem_nil, or_false]
    rintro (rfl | rfl) <;> decide
  exact ⟨.start, hd, setOrKeep_comm .start hd⟩

end Session

end Formwork
