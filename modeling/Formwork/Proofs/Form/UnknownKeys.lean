import Formwork.Form.Place
import Formwork.Proofs.Form.RoundTrip
import Formwork.Proofs.Json.WellFormed

namespace Formwork

namespace Json

variable {f : String → Json → Json} {members : List (String × Json)} {k : String}

theorem lookup_mapMembers (f : String → Json → Json) (members : List (String × Json)) (k : String) :
    (members.map fun e ↦ (e.1, f e.1 e.2)).lookup k = (members.lookup k).map (f k) := by
  induction members with
  | nil => rfl
  | cons e members ih =>
    rw [List.map_cons, lookup_cons_eq_ite, lookup_cons_eq_ite, ih]
    split
    · next h => rw [h, Option.map_some]
    · rfl

theorem filter_mapMembers {p : String → Bool} (h : ∀ k, p k → f k = id) :
    (members.map fun e ↦ (e.1, f e.1 e.2)).filter (fun e ↦ p e.1) =
      members.filter fun e ↦ p e.1 := by
  induction members with
  | nil => rfl
  | cons e members ih =>
    rw [List.map_cons, List.filter_cons, List.filter_cons, ih]
    split
    · next hp => rw [h e.1 hp, id]
    · rfl

theorem underKey_self (k : String) (f : Json → Json) : underKey k f k = f := if_pos rfl

theorem underKey_of_ne {key : String} (h : k ≠ key) (f : Json → Json) :
    underKey key f k = id := if_neg h

theorem follow?_modifyAt (f : Json → Json) (steps : List Step) (v : Json) :
    (v.modifyAt f steps).follow? steps = (v.follow? steps).map f := by
  induction steps generalizing v with
  | nil => rfl
  | cons step rest ih =>
    cases step with
    | key key =>
      cases v with
      | object members =>
        simp only [modifyAt, mapMembers, follow?, lookup_mapMembers, underKey_self]
        cases members.lookup key with
        | none => rfl
        | some w => exact ih w
      | _ => rfl
    | item i =>
      cases v with
      | array items =>
        simp only [modifyAt, modifyItem, follow?, List.getElem?_modify_eq]
        cases items[i]? with
        | none => rfl
        | some w => exact ih w
      | _ => rfl

end Json

namespace Decode

variable {α : Type} {decode : Json → Except DecodeError α} {f : Json → Json} {g : α → α}

/-- What the one function does to a value, the other one does to what is read from it. -/
def Tracks (decode : Json → Except DecodeError α) (f : Json → Json) (g : α → α) : Prop :=
  ∀ v a, v.WellFormed → decode v = .ok a → decode (f v) = .ok (g a)

theorem tracks_id (decode : Json → Except DecodeError α) : Tracks decode id id := fun _ _ _ h ↦ h

theorem forall₂_modify {items : List Json} {as : List α} {R : Json → α → Prop}
    (h : List.Forall₂ R items as) (hfg : ∀ w ∈ items, ∀ a, R w a → R (f w) (g a)) (i : Nat) :
    List.Forall₂ R (items.modify i f) (as.modify i g) := by
  induction h generalizing i with
  | nil =>
    rw [List.modify_nil, List.modify_nil]
    exact .nil
  | cons ha _ ih =>
    obtain ⟨hhead, htail⟩ := List.forall_mem_cons.1 hfg
    cases i with
    | zero =>
      rw [List.modify_zero_cons, List.modify_zero_cons]
      exact .cons (hhead _ ha) ‹_›
    | succ i =>
      rw [List.modify_succ_cons, List.modify_succ_cons]
      exact .cons ha (ih htail i)

theorem tracks_list (h : Tracks decode f g) (i : Nat) :
    Tracks (list decode) (Json.modifyItem i f) fun as ↦ as.modify i g := by
  intro v as hw hv
  obtain ⟨items, rfl, hitems⟩ := list_eq_ok_iff.1 hv
  refine list_eq_ok_iff.2 ⟨_, rfl, forall₂_modify hitems (fun w hm a ha ↦ ?_) i⟩
  exact h w a (Json.wellFormedItems_iff.1 hw w hm) ha

theorem tracks_list_id (h : Tracks decode f id) (i : Nat) :
    Tracks (list decode) (Json.modifyItem i f) id := by
  intro v as hw hv
  exact (tracks_list h i v as hw hv).trans (congrArg _ (List.modify_id i as))

section

variable {members members' : List (String × Json)} {key k : String} {x : Json} {default a : α}

theorem member_congr (h : members'.lookup key = members.lookup key) :
    member decode members' key = member decode members key := by
  rw [member, member, h]

theorem memberD_congr (h : members'.lookup key = members.lookup key) :
    memberD decode members' key default = memberD decode members key default := by
  rw [memberD, memberD, member_congr h]

theorem present?_congr (h : members'.lookup key = members.lookup key) :
    present? members' key = present? members key := by
  rw [present?, present?, h]

theorem memberD_mapMembers {f : String → Json → Json} (h : Tracks decode (f key) g)
    (hw : Json.WellFormedMembers members) (hd : g default = default)
    (ha : memberD decode members key default = .ok a) :
    memberD decode (members.map fun e ↦ (e.1, f e.1 e.2)) key default = .ok (g a) := by
  rw [memberD_eq_ok_iff, Json.lookup_mapMembers]
  rcases memberD_eq_ok_iff.1 ha with ⟨hl, rfl⟩ | ⟨v, hl, hv⟩
  · exact .inl ⟨by rw [hl, Option.map_none], hd⟩
  · exact .inr ⟨f key v, by rw [hl, Option.map_some], h v a (Json.wellFormed_of_lookup hw hl) hv⟩

theorem lookup_insertEntry_of_mem {declared : List String} (hkey : key ∉ declared) (x : Json)
    (members : List (String × Json)) (hk : k ∈ declared) :
    (insertEntry key x members).lookup k = members.lookup k := by
  rw [lookup_insertEntry, if_neg fun he : k = key ↦ hkey (he ▸ hk)]

theorem extras_insertEntry {declared : List String} (hkey : key ∉ declared)
    (hs : members.Pairwise fun a b ↦ a.1 < b.1) (x : Json) :
    extras declared (insertEntry key x members) = (extras declared members).insert key x := by
  refine Record.eq_of_get?_eq fun k ↦ ?_
  have hold := get?_extras declared ⟨members, hs⟩ k
  have hnew := get?_extras declared (Record.insert ⟨members, hs⟩ key x) k
  rw [Record.get?_insert] at hnew
  refine hnew.trans ?_
  rw [Record.get?_insert, hold]
  by_cases hk : k = key
  · rw [hk, if_neg hkey, if_pos rfl, if_pos rfl]
  · rw [if_neg hk, if_neg hk]

theorem extras_mapMembers {declared : List String} {f : String → Json → Json}
    (h : ∀ k ∉ declared, f k = id) :
    extras declared (members.map fun e ↦ (e.1, f e.1 e.2)) = extras declared members := by
  refine congrArg Record.ofList (Json.filter_mapMembers
    (p := fun k ↦ !declared.contains k) fun k hk ↦ h k ?_)
  simpa using hk

end

def listKeys : List String :=
  ["options", "validation", "visibilityRules", "disableRules", "clearValueRules"]

theorem ReadsField.update {members members' : List (String × Json)} {f : Field}
    {options : List Choice} {extra : Record} (h : ReadsField members f)
    (hl : ∀ k, k ∈ fieldKeys ∧ k ∉ listKeys → members'.lookup k = members.lookup k)
    (ho : memberD (list choice) members' "options" [] = .ok options)
    (hr : memberD (list rule) members' "validation" [] = .ok f.validation)
    (hc : ∀ purpose : Purpose, memberD (list condition) members' purpose.key [] =
      .ok (f.conditions purpose))
    (hx : extras fieldKeys members' = extra) :
    ReadsField members' { f with options, extra } where
  id := (member_congr (hl "id" (by decide))).trans h.id
  name := (member_congr (hl "name" (by decide))).trans h.name
  label := (memberD_congr (hl "label" (by decide))).trans h.label
  type := (member_congr (hl "type" (by decide))).trans h.type
  defaultValue := (hl "defaultValue" (by decide)).trans h.defaultValue
  validation := hr
  visibilityRules := hc .visibility
  disableRules := hc .disable
  clearRules := hc .clear
  multiple := (memberD_congr (hl "multiple" (by decide))).trans h.multiple
  disabled := (memberD_congr (hl "disabled" (by decide))).trans h.disabled
  hidden := (memberD_congr (hl "hidden" (by decide))).trans h.hidden
  reserveSpace := (memberD_congr (hl "reserveSpace" (by decide))).trans h.reserveSpace
  validateOnChange := (memberD_congr (hl "validateOnChange" (by decide))).trans h.validateOnChange
  restrictInput := (memberD_congr (hl "restrictInput" (by decide))).trans h.restrictInput
  clearable := (memberD_congr (hl "clearable" (by decide))).trans h.clearable
  placeholder := (memberD_congr (hl "placeholder" (by decide))).trans h.placeholder
  helperText := (memberD_congr (hl "helperText" (by decide))).trans h.helperText
  options := ho
  extra := hx

theorem ReadsForm.update {members members' : List (String × Json)} {form : Form}
    {fields : List Field} (h : ReadsForm members form)
    (hl : ∀ k ∈ Place.form.declared, k ≠ "fields" → members'.lookup k = members.lookup k)
    (hf : memberD (list field) members' "fields" [] = .ok fields) :
    ReadsForm members' { form with fields } where
  id := (memberD_congr (hl "id" (by decide) (by decide))).trans h.id
  title := (memberD_congr (hl "title" (by decide) (by decide))).trans h.title
  description := (memberD_congr (hl "description" (by decide) (by decide))).trans h.description
  fields := hf
  layout := (present?_congr (hl "layout" (by decide) (by decide))).trans h.layout
  styling := (present?_congr (hl "styling" (by decide) (by decide))).trans h.styling

section

variable {key : String} (x : Json)

theorem tracks_rule_extend (hkey : key ∉ (Place.rule 0 0).declared) :
    Tracks rule (Json.extend key x) id := by
  intro v r _ h
  cases rule_eq_ok_iff.1 h with
  | @object members _ hkind hvalue hmessage =>
    have hl {k : String} := lookup_insertEntry_of_mem (k := k) hkey x members
    exact rule_eq_ok_iff.2 (.object ((member_congr (hl (by decide))).trans hkind)
      ((hl (by decide)).trans hvalue)
      ((memberD_congr (hl (by decide))).trans hmessage))
  | kind | value | message => exact h

theorem tracks_condition_extend (hkey : key ∉ (Place.condition 0 .clear 0).declared) :
    Tracks condition (Json.extend key x) id := by
  intro v c _ h
  cases condition_eq_ok_iff.1 h with
  | @object members _ hfield hop hvalue =>
    have hl {k : String} := lookup_insertEntry_of_mem (k := k) hkey x members
    exact condition_eq_ok_iff.2 (.object ((member_congr (hl (by decide))).trans hfield)
      ((member_congr (hl (by decide))).trans hop) ((hl (by decide)).trans hvalue))
  | operator | value => exact h

theorem tracks_choice_extend (hkey : key ∉ choiceKeys) :
    Tracks choice (Json.extend key x) fun c ↦ c.extend key x := by
  intro v c hw hv
  obtain ⟨members, rfl, h⟩ := choice_eq_ok_iff.1 hv
  have hl {k : String} := lookup_insertEntry_of_mem (k := k) hkey x members
  refine choice_eq_ok_iff.2 ⟨_, rfl, {
    label := (member_congr (hl (by decide))).trans h.label
    value := (hl (by decide)).trans h.value
    extra := ?_ }⟩
  exact (extras_insertEntry hkey hw.1 x).trans (congrArg (Record.insert · key x) h.extra)

theorem tracks_field_extend (hkey : key ∉ fieldKeys) :
    Tracks field (Json.extend key x) fun f ↦ f.extend key x := by
  intro v f hw hv
  obtain ⟨members, rfl, h⟩ := field_eq_ok_iff.1 hv
  have hl {k : String} := lookup_insertEntry_of_mem (k := k) hkey x members
  refine field_eq_ok_iff.2 ⟨_, rfl, h.update (fun k hk ↦ hl hk.1) ?_ ?_ ?_ ?_⟩
  · exact (memberD_congr (hl (by decide))).trans h.options
  · exact (memberD_congr (hl (by decide))).trans h.validation
  · rintro (_ | _ | _)
    · exact (memberD_congr (hl (by decide))).trans h.visibilityRules
    · exact (memberD_congr (hl (by decide))).trans h.disableRules
    · exact (memberD_congr (hl (by decide))).trans h.clearRules
  · rw [extras_insertEntry hkey hw.1 x, h.extra]

end

theorem tracks_field_mapMembers {f : String → Json → Json} {g : List Choice → List Choice}
    (ho : Tracks (list choice) (f "options") g) (hg : g [] = [])
    (hr : Tracks (list rule) (f "validation") id)
    (hc : ∀ purpose : Purpose, Tracks (list condition) (f purpose.key) id)
    (hid : ∀ k ∉ listKeys, f k = id) :
    Tracks field (Json.mapMembers f) fun a ↦ { a with options := g a.options } := by
  intro v a hw hv
  obtain ⟨members, rfl, h⟩ := field_eq_ok_iff.1 hv
  refine field_eq_ok_iff.2 ⟨_, rfl, h.update (fun k hk ↦ ?_) ?_ ?_ ?_ ?_⟩
  · rw [Json.lookup_mapMembers, hid k hk.2, Option.map_id_apply]
  · exact memberD_mapMembers ho hw.2 hg h.options
  · exact memberD_mapMembers hr hw.2 rfl h.validation
  · rintro (_ | _ | _)
    · exact memberD_mapMembers (hc .visibility) hw.2 rfl h.visibilityRules
    · exact memberD_mapMembers (hc .disable) hw.2 rfl h.disableRules
    · exact memberD_mapMembers (hc .clear) hw.2 rfl h.clearRules
  · have hdeclared : ∀ k ∈ listKeys, k ∈ fieldKeys := by decide
    rw [extras_mapMembers fun k hk ↦ hid k fun hm ↦ hk (hdeclared k hm), h.extra]

theorem tracks_underKey {key k : String} (h : k = key → Tracks decode f g)
    (hid : k ≠ key → g = id) :
    Tracks decode (Json.underKey key f k) g := by
  by_cases hk : k = key
  · rw [hk, Json.underKey_self]
    exact h hk
  · rw [Json.underKey_of_ne hk, hid hk]
    exact tracks_id decode

theorem tracks_field_underKey {key : String} {g : List Choice → List Choice} (hkey : key ∈ listKeys)
    (hg : g [] = []) (ho : "options" = key → Tracks (list choice) f g)
    (hid : "options" ≠ key → g = id) (hr : "validation" = key → Tracks (list rule) f id)
    (hc : ∀ purpose : Purpose, purpose.key = key → Tracks (list condition) f id) :
    Tracks field (Json.mapMembers (Json.underKey key f)) fun a ↦
      { a with options := g a.options } := by
  refine tracks_field_mapMembers (tracks_underKey ho hid) hg (tracks_underKey hr fun _ ↦ rfl) ?_ ?_
  · exact fun purpose ↦ tracks_underKey (hc purpose) fun _ ↦ rfl
  · intro k hk
    have hne : k ≠ key := fun he ↦ hk (he ▸ hkey)
    exact Json.underKey_of_ne hne f

theorem tracks_field_options {g : List Choice → List Choice} (h : Tracks (list choice) f g)
    (hg : g [] = []) :
    Tracks field (Json.mapMembers (Json.underKey "options" f)) fun a ↦
      { a with options := g a.options } := by
  refine tracks_field_underKey (by decide) hg (fun _ ↦ h) (fun hne ↦ absurd rfl hne) ?_ ?_
  · exact fun he ↦ absurd he (by decide)
  · exact fun purpose he ↦ absurd he (by cases purpose <;> decide)

theorem tracks_field_validation (h : Tracks (list rule) f id) :
    Tracks field (Json.mapMembers (Json.underKey "validation" f)) id := by
  refine tracks_field_underKey (g := id) (by decide) rfl ?_ (fun _ ↦ rfl) (fun _ ↦ h) ?_
  · exact fun he ↦ absurd he (by decide)
  · exact fun purpose he ↦ absurd he (by cases purpose <;> decide)

theorem tracks_field_conditions (h : Tracks (list condition) f id) (purpose : Purpose) :
    Tracks field (Json.mapMembers (Json.underKey purpose.key f)) id := by
  refine tracks_field_underKey (g := id)
    (by cases purpose <;> decide) rfl ?_ (fun _ ↦ rfl) ?_ fun _ _ ↦ h
  · exact fun he ↦ absurd he (by cases purpose <;> decide)
  · exact fun he ↦ absurd he (by cases purpose <;> decide)

theorem entries_extras {members : List (String × Json)} (hs : members.Pairwise fun a b ↦ a.1 < b.1)
    (declared : List String) :
    (extras declared members).entries = members.filter fun e ↦ e.1 ∉ declared := by
  have hfilter : (members.filter fun e ↦ !declared.contains e.1) =
      members.filter fun e ↦ e.1 ∉ declared := by
    simp only [List.contains_eq_mem, decide_not]
  rw [extras, hfilter]
  exact Record.entries_ofList (hs.filter _)

end Decode

namespace Form

variable {v x : Json} {form : Form} {key : String}

theorem ofJson_extend (hkey : key ∉ Place.form.declared) (h : ofJson v = .ok form) (x : Json) :
    ofJson (Json.extend key x v) = .ok form := by
  obtain ⟨members, items, rfl, hl, hreads⟩ := ofJson_eq_ok_iff.1 h
  have hsame {k : String} := Decode.lookup_insertEntry_of_mem (k := k) hkey x members
  have hfields := (Decode.memberD_congr (hsame (by decide))).trans hreads.fields
  refine ofJson_eq_ok_iff.2 ⟨_, items, rfl, (hsame (by decide)).trans hl, ?_⟩
  exact hreads.update (fun k hk _ ↦ hsame hk) hfields

theorem ofJson_modifyField {f : Json → Json} {g : Field → Field}
    (hf : Decode.Tracks Decode.field f g) (hw : v.WellFormed) (h : ofJson v = .ok form) (i : Nat) :
    ofJson (v.mapMembers (Json.underKey "fields" (Json.modifyItem i f))) =
      .ok { form with fields := form.fields.modify i g } := by
  obtain ⟨members, items, rfl, hl, hreads⟩ := ofJson_eq_ok_iff.1 h
  have hfields :
      Decode.Tracks (Decode.list Decode.field)
        (Json.underKey "fields" (Json.modifyItem i f) "fields")
      fun fs ↦ fs.modify i g :=
        Decode.tracks_underKey (fun _ ↦ Decode.tracks_list hf i) fun hne ↦ absurd rfl hne
  refine ofJson_eq_ok_iff.2 ⟨_, items.modify i f, rfl, ?_, hreads.update (fun k _ hk ↦ ?_) ?_⟩
  · rw [Json.lookup_mapMembers, hl, Json.underKey_self]
    rfl
  · rw [Json.lookup_mapMembers, Json.underKey_of_ne hk, Option.map_id_apply]
  · exact Decode.memberD_mapMembers hfields hw.2 (List.modify_nil ..) hreads.fields

theorem ofJson_modifyField_id {f : Json → Json} (hf : Decode.Tracks Decode.field f fun a ↦ a)
    (hw : v.WellFormed) (h : ofJson v = .ok form) (i : Nat) :
    ofJson (v.mapMembers (Json.underKey "fields" (Json.modifyItem i f))) = .ok form := by
  have hfields : form.fields.modify i (fun a ↦ a) = form.fields := List.modify_id i form.fields
  rw [ofJson_modifyField hf hw h, hfields]

theorem ofJson_modifyAt {place : Place} (hkey : key ∉ place.declared) (hw : v.WellFormed)
    (h : ofJson v = .ok form) (x : Json) :
    ofJson (v.modifyAt (Json.extend key x) place.steps) = .ok (form.extend key x place) := by
  cases place with
  | form => exact ofJson_extend hkey h x
  | field i => exact ofJson_modifyField (Decode.tracks_field_extend x hkey) hw h i
  | choice i j =>
    have hchoices := Decode.tracks_list (Decode.tracks_choice_extend x hkey) j
    exact ofJson_modifyField (Decode.tracks_field_options hchoices (List.modify_nil ..)) hw h i
  | rule i j =>
    have hrules := Decode.tracks_list_id (Decode.tracks_rule_extend x hkey) j
    exact ofJson_modifyField_id (Decode.tracks_field_validation hrules) hw h i
  | condition i purpose j =>
    have hconditions := Decode.tracks_list_id (Decode.tracks_condition_extend x hkey) j
    exact ofJson_modifyField_id (Decode.tracks_field_conditions hconditions purpose) hw h i

theorem exists_members_of_extra? {place : Place} {extra : Record} (hw : v.WellFormed)
    (h : ofJson v = .ok form) (he : form.extra? place = some extra) :
    ∃ members, v.follow? place.steps = some (.object members) ∧
      extra.entries = members.filter fun e ↦ e.1 ∉ place.declared := by
  obtain ⟨top, fields, rfl, hl, hreads⟩ := ofJson_eq_ok_iff.1 h
  cases place with
  | form | rule _ _ | condition _ _ _ => cases he
  | field i =>
    obtain ⟨f, hf, rfl⟩ := Option.map_eq_some_iff.1 he
    obtain ⟨items, w, hitems, hi, hfield⟩ := Decode.exists_item_of_getElem? hreads.fields hf
    obtain ⟨members, rfl, hmembers⟩ := Decode.field_eq_ok_iff.1 hfield
    have hwf :=
      Json.wellFormedItems_iff.1 (Json.wellFormed_of_lookup hw.2 hitems) _ (List.mem_of_getElem? hi)
    refine ⟨members, by simp only [Place.steps, Json.follow?, hitems, hi, Option.bind_some], ?_⟩
    rw [← hmembers.extra]
    exact Decode.entries_extras hwf.1 _
  | choice i j =>
    obtain ⟨f, hf, he⟩ := Option.bind_eq_some_iff.1 he
    obtain ⟨c, hc, rfl⟩ := Option.map_eq_some_iff.1 he
    obtain ⟨items, w, hitems, hi, hfield⟩ := Decode.exists_item_of_getElem? hreads.fields hf
    obtain ⟨within, rfl, hwithin⟩ := Decode.field_eq_ok_iff.1 hfield
    have hwf :=
      Json.wellFormedItems_iff.1 (Json.wellFormed_of_lookup hw.2 hitems) _ (List.mem_of_getElem? hi)
    obtain ⟨choices, w, hchoices, hj, hchoice⟩ := Decode.exists_item_of_getElem? hwithin.options hc
    obtain ⟨members, rfl, hmembers⟩ := Decode.choice_eq_ok_iff.1 hchoice
    have hwf :=
      Json.wellFormedItems_iff.1 (Json.wellFormed_of_lookup hwf.2 hchoices) _
        (List.mem_of_getElem? hj)
    refine ⟨members,
      by simp only [Place.steps, Json.follow?, hitems, hi, hchoices, hj, Option.bind_some], ?_⟩
    rw [← hmembers.extra]
    exact Decode.entries_extras hwf.1 _

/-- Fields and choices keep what is not declared as it is, and one more such member is one more
extra entry of the object that it is written into; where no extra entries are kept, it makes no
difference. Every document that is read from a text is well-formed, by
`Json.wellFormed_of_parse`. -/
theorem ofJson_keeps_undeclared (hw : v.WellFormed) (h : ofJson v = .ok form) :
    (∀ place extra, form.extra? place = some extra →
      ∃ members, v.follow? place.steps = some (.object members) ∧
        extra.entries = members.filter fun e ↦ e.1 ∉ place.declared) ∧
    ∀ place key x, key ∉ place.declared →
      (v.modifyAt (Json.extend key x) place.steps).follow? place.steps =
          (v.follow? place.steps).map (Json.extend key x) ∧
        ofJson (v.modifyAt (Json.extend key x) place.steps) = .ok (form.extend key x place) := by
  refine ⟨fun place extra he ↦ exists_members_of_extra? hw h he, fun place key x hkey ↦ ⟨?_, ?_⟩⟩
  · exact Json.follow?_modifyAt _ _ _
  · exact ofJson_modifyAt hkey hw h x

/-- A form with members that nothing is declared for at every kind of place. -/
def poll : Json :=
  .object [
    ("fields", .array [
      .object [
        ("grid", .int 6), ("id", .string "q1"), ("name", .string "vote"),
        ("options",
          .array [.object [("icon", .string "sun"), ("label", .string "Yes"), ("value", .int 1)]]),
        ("type", .string "select"),
        ("validation", .array [.object [("since", .int 2), ("type", .string "required")]]),
        ("visibilityRules", .array [
          .object [("field", .string "age"), ("note", .null), ("operator", .string "gt"),
            ("value", .int 17)]])]]),
    ("version", .int 2)]

def pollForm : Form where
  id := none
  title := none
  description := none
  fields := [
    { Field.named "vote" .select with
      id := "q1"
      label := ""
      visibilityRules := [⟨"age", .gt, some (.int 17)⟩]
      options := [⟨"Yes", .int 1, .ofList [("icon", .string "sun")]⟩]
      validation := [⟨.required, none, none⟩]
      extra := .ofList [("grid", .int 6)] }]
  layout := none
  styling := none

theorem ofJson_keeps_undeclared_poll :
    poll.WellFormed ∧ ofJson poll = .ok pollForm ∧
      (∃ members, poll.follow? (Place.field 0).steps = some (.object members) ∧
        [("grid", .int 6)] = members.filter fun e ↦ e.1 ∉ (Place.field 0).declared) ∧
      ofJson (poll.modifyAt (Json.extend "hue" (.int 3)) (Place.choice 0 0).steps) =
        .ok (pollForm.extend "hue" (.int 3) (.choice 0 0)) ∧
      ofJson (poll.modifyAt (Json.extend "hint" .null) (Place.rule 0 0).steps) = .ok pollForm := by
  have hw : poll.WellFormed := by decide
  have h : ofJson poll = .ok pollForm := by with_unfolding_all rfl
  obtain ⟨hkept, hmore⟩ := ofJson_keeps_undeclared hw h
  refine ⟨hw, h, hkept (.field 0) (.ofList [("grid", .int 6)]) rfl, ?_, ?_⟩
  · exact (hmore (.choice 0 0) "hue" (.int 3) (by decide)).2
  · exact (hmore (.rule 0 0) "hint" .null (by decide)).2

end Form

end Formwork
