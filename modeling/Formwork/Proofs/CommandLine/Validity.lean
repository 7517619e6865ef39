import Formwork.CommandLine.Run
import Formwork.Proofs.Form.Decoding
import Formwork.Proofs.Record.Entries
import Formwork.Proofs.Validation.Reordering

namespace Formwork

namespace Json

def members : Json → List (String × Json)
  | .object es => es
  | _ => []

def column (v : Json) (key : String) : List (String × Json) :=
  v.members.filterMap fun e ↦ (e.2.child? key).map (Prod.mk e.1)

theorem mem_column {v : Json} {key : String} {e : String × Json} :
    e ∈ v.column key ↔ ∃ w, (e.1, w) ∈ v.members ∧ w.child? key = some e.2 := by
  rw [column, List.mem_filterMap]
  constructor
  · rintro ⟨⟨name, w⟩, hmem, hw⟩
    obtain ⟨x, hx, rfl⟩ := Option.map_eq_some_iff.1 hw
    exact ⟨w, hmem, hx⟩
  · rintro ⟨w, hmem, hw⟩
    exact ⟨(e.1, w), hmem, by rw [hw]; rfl⟩

end Json

theorem Decision.child?_error (d : Decision) : d.toJson.child? "error" = d.error.map .string := by
  obtain ⟨visible, disabled, reserveSpace, error⟩ := d
  cases error <;> rfl

namespace CommandLine

/-- The form and the bag that a command line names; the bag is laid over the defaults of the
form. -/
def documents (i : Invocation) (sources : Sources) : Except CommandError (Form × Bag) := do
  let (form, sources) ← load "schema" Document.form ((i.value? "schema").getD "") sources
  let (values, _) ← loadBag form (i.value? "values") sources
  return (form, values)

structure Prints (i : Invocation) (sources : Sources) (v : Json) : Prop where
  report : (report i sources).map Prod.fst = .ok v
  output : (execute i sources).output = (if i.has "compact" then v.compact else v.pretty) ++ "\n"

variable {i j : Invocation} {sources rest : Sources} {form : Form} {values : Bag}

section

variable {v : Json} {error : Option CommandError}

theorem prints_of_report (h : report i sources = .ok (v, error)) : Prints i sources v where
  report := by rw [h]; rfl
  output := by rw [execute, h]

theorem exit_eq_zero_iff (h : report i sources = .ok (v, error)) :
    (execute i sources).exit = 0 ↔ error = none := by
  rw [execute, h]
  cases error with
  | none => exact iff_of_true rfl rfl
  | some e => exact iff_of_false Nat.one_ne_zero (Option.some_ne_none e)

end

theorem documents_congr (hs : j.value? "schema" = i.value? "schema")
    (hv : j.value? "values" = i.value? "values")
    (sources : Sources) : documents j sources = documents i sources := by
  rw [documents, documents, hs, hv]

theorem documents_eq_ok_iff :
    documents i sources = .ok (form, values) ↔
      ∃ behind rest,
        load "schema" Document.form ((i.value? "schema").getD "") sources = .ok (form, behind) ∧
        loadBag form (i.value? "values") behind = .ok (values, rest) := by
  simp only [documents, Decode.bind_eq_ok_iff, Decode.pure_eq_ok_iff]
  constructor
  · rintro ⟨⟨_, behind⟩, hform, ⟨_, rest⟩, hbag, ⟨⟩⟩
    exact ⟨behind, rest, hform, hbag⟩
  · rintro ⟨behind, rest, hform, hbag⟩
    exact ⟨(form, behind), hform, (values, rest), hbag, rfl⟩

theorem overlay_of_loadBag {spec : Option String}
    (h : loadBag form spec sources = .ok (values, rest)) :
    form.initialBag.overlay values = values := by
  cases spec with
  | none =>
    cases h
    exact form.initialBag.overlay_self
  | some spec =>
    obtain ⟨⟨given, _⟩, -, ⟨⟩⟩ := Decode.bind_eq_ok_iff.1 h
    exact form.initialBag.overlay_overlay given

theorem report_validate (hc : i.command = .validate)
    (hb : (i.value? "backend").getD "native" = "native")
    (hd : documents i sources = .ok (form, values)) :
    let errors := (form.checks .native).validate values
    report i sources =
      .ok (errorReport errors,
        if errors.isEmpty then none else some (.invalidFields errors.length)) := by
  obtain ⟨behind, rest, hform, hbag⟩ := documents_eq_ok_iff.1 hd
  have hbackend : ((i.value? "backend").bind fun name ↦ backendNames.lookup name).getD .native =
      Backend.native := by
    cases hn : i.value? "backend" with
    | none => rfl
    | some name =>
      obtain rfl : name = "native" := by rwa [hn] at hb
      rfl
  rw [report, hc]
  refine Decode.bind_eq_ok_iff.2
    ⟨(form, behind), hform, Decode.bind_eq_ok_iff.2 ⟨(values, rest), hbag, ?_⟩⟩
  rw [hbackend]
  rfl

theorem exit_validate_eq_zero_iff (hc : i.command = .validate)
    (hb : (i.value? "backend").getD "native" = "native")
    (hd : documents i sources = .ok (form, values)) :
    (execute i sources).exit = 0 ↔ (form.checks .native).validate values = [] := by
  rw [exit_eq_zero_iff (report_validate hc hb hd), ite_eq_left_iff, ← List.isEmpty_iff]
  exact ⟨fun h ↦ not_not.1 fun hne ↦ Option.some_ne_none _ (h hne), fun h hne ↦ absurd h hne⟩

def inspection (form : Form) (values : Bag) : Session :=
  ⟨form, { Options.standard with initialValues := some values }⟩

theorem report_inspect (hc : i.command = .inspect) (hd : documents i sources = .ok (form, values)) :
    let u := inspection form values
    report i sources =
      .ok (decisionReport (u.decisions (if i.has "submitted" then u.submit u.start else u.start)),
        none) := by
  obtain ⟨behind, rest, hform, hbag⟩ := documents_eq_ok_iff.1 hd
  rw [report, hc]
  exact Decode.bind_eq_ok_iff.2 ⟨(form, behind), hform,
    Decode.bind_eq_ok_iff.2 ⟨(values, rest), hbag, rfl⟩⟩

theorem mem_column_error {u : Session} {s : State} {e : String × Json} :
    e ∈ (decisionReport (u.decisions s)).column "error" ↔
      e.1 ∈ u.form.fieldNames ∧ (Session.shownComplaint? s e.1).map .string = some e.2 := by
  have hnames : ((u.decisions s).map fun d ↦ (d.1.name, d.2.toJson)).map Prod.fst =
      u.form.fieldNames := by
    rw [Session.decisions, List.map_map, List.map_map]
    rfl
  -- Fields of one name have one complaint, so it does not matter which of them is reported.
  have herror : ∀ w, (e.1, w) ∈ (decisionReport (u.decisions s)).members →
      w.child? "error" = (Session.shownComplaint? s e.1).map .string := by
    intro w hw
    obtain ⟨d, hd, heq⟩ := List.mem_map.1 (Record.mem_of_mem_entries_ofList hw)
    obtain ⟨f, -, rfl⟩ := List.mem_map.1 hd
    obtain ⟨hname, rfl⟩ := Prod.mk.inj heq
    rw [Decision.child?_error, ← hname]
    rfl
  rw [Json.mem_column]
  constructor
  · rintro ⟨w, hw, hchild⟩
    have hlisted := List.mem_map_of_mem (f := Prod.fst) (Record.mem_of_mem_entries_ofList hw)
    rw [hnames] at hlisted
    exact ⟨hlisted, herror w hw ▸ hchild⟩
  · rintro ⟨hname, hshown⟩
    obtain ⟨w, hw⟩ := Record.exists_mem_entries_ofList (hnames ▸ hname)
    exact ⟨w, hw, (herror w hw).trans hshown⟩

theorem mem_members_errorReport {errors : Complaints} (hd : (errors.map Prod.fst).Nodup)
    {e : String × Json} :
    e ∈ (errorReport errors).members ↔ (errors.lookup e.1).map .string = some e.2 := by
  rw [errorReport, Json.members, List.mem_map, Option.map_eq_some_iff]
  constructor
  · rintro ⟨⟨name, message⟩, hmem, rfl⟩
    exact ⟨message, lookup_of_mem hd hmem, rfl⟩
  · rintro ⟨message, hfound, hvalue⟩
    exact ⟨(e.1, message), mem_of_lookup hfound, Prod.ext rfl hvalue⟩

theorem shownComplaint?_submit_start (h : form.initialBag.overlay values = values) (name : String) :
    Session.shownComplaint? ((inspection form values).submit (inspection form values).start) name =
      ((form.checks .native).validate values).lookup name := by
  have herrors : ((inspection form values).submit (inspection form values).start).errors =
      (form.checks .native).validate (form.initialBag.overlay values) := rfl
  rw [Session.shownComplaint?, herrors, h]
  rfl

theorem mem_members_iff_mem_column (h : form.initialBag.overlay values = values)
    {e : String × Json} :
    e ∈ (errorReport ((form.checks .native).validate values)).members ↔
      e ∈ (decisionReport ((inspection form values).decisions
        ((inspection form values).submit (inspection form values).start))).column "error" := by
  rw [mem_members_errorReport (FormChecks.nodup_validate _ values), mem_column_error,
    shownComplaint?_submit_start h]
  refine (and_iff_right_of_imp fun hfound ↦ ?_).symm
  obtain ⟨message, hm, -⟩ := Option.map_eq_some_iff.1 hfound
  have hname := FormChecks.mem_names_of_lookup_validate hm
  rwa [Form.checks, List.map_map] at hname

theorem column_error_start (form : Form) (values : Bag) :
    (decisionReport ((inspection form values).decisions (inspection form values).start)).column
      "error" = [] :=
  List.eq_nil_iff_forall_not_mem.2 fun _ h ↦ nomatch (mem_column_error.1 h).2

/-- One command validates a bag, the other one submits it: they print the same complaints. Before a
submission none is shown. -/
theorem validate_agrees_with_inspect (hi : i.command = .validate)
    (hb : (i.value? "backend").getD "native" = "native") (hj : j.command = .inspect)
    (hs : j.value? "schema" = i.value? "schema") (hv : j.value? "values" = i.value? "values")
    (hd : documents i sources = .ok (form, values)) :
    ∃ complaints decisions, Prints i sources complaints ∧ Prints j sources decisions ∧
      (j.has "submitted" → (∀ e, e ∈ complaints.members ↔ e ∈ decisions.column "error") ∧
        ((execute i sources).exit = 0 ↔ decisions.column "error" = [])) ∧
      (¬ j.has "submitted" → decisions.column "error" = []) := by
  have hvalidate := report_validate hi hb hd
  have hinspect := report_inspect hj ((documents_congr hs hv sources).trans hd)
  obtain ⟨_, _, -, hbag⟩ := documents_eq_ok_iff.1 hd
  -- The session lays the bag over the defaults a second time.
  have hlaid := overlay_of_loadBag hbag
  refine ⟨_, _, prints_of_report hvalidate, prints_of_report hinspect, fun hsubmitted ↦ ?_,
    fun hfresh ↦ ?_⟩
  · have hsame (e : String × Json) :
        e ∈ (errorReport ((form.checks .native).validate values)).members ↔ _ :=
      mem_members_iff_mem_column hlaid
    have hempty : (errorReport ((form.checks .native).validate values)).members = [] ↔
        (form.checks .native).validate values = [] := List.map_eq_nil_iff
    rw [if_pos hsubmitted, exit_validate_eq_zero_iff hi hb hd, ← hempty]
    refine ⟨hsame, ?_⟩
    rw [List.eq_nil_iff_forall_not_mem, List.eq_nil_iff_forall_not_mem]
    exact forall_congr' fun e ↦ not_congr (hsame e)
  · rw [if_neg hfresh]
    exact column_error_start form values

/-- A form on the standard input, in which two fields share a name and one of them is required. -/
def twins : Sources where
  lookup _ := .notFound
  input := "\x7b\"fields\":[\x7b\"id\":\"1\",\"name\":\"a\",\"type\":\"text\"\x7d," ++
    "\x7b\"id\":\"2\",\"name\":\"a\",\"type\":\"text\",\"validation\":[[\"required\"]]\x7d]\x7d"

def checking : Invocation := ⟨.validate, [("schema", "-"), ("values", "\x7b\"a\":null\x7d")]⟩

def inspecting : Invocation :=
  ⟨.inspect, [("schema", "-"), ("values", "\x7b\"a\":null\x7d"), ("submitted", "")]⟩

theorem validate_agrees_with_inspect_twins :
    (documents checking twins).toOption.isSome ∧
    (execute checking twins).output = "\x7b\n  \"a\": \"Required\"\n\x7d\n" ∧
    ∃ complaints decisions, Prints checking twins complaints ∧ Prints inspecting twins decisions ∧
      (∀ e, e ∈ complaints.members ↔ e ∈ decisions.column "error") := by
  have hloaded : (documents checking twins).toOption.isSome := by decide +kernel
  refine ⟨hloaded, by decide +kernel, ?_⟩
  cases hd : documents checking twins with
  | error e => rw [hd] at hloaded; cases hloaded
  | ok loaded =>
    obtain ⟨complaints, decisions, hi, hj, hagree, -⟩ :=
      validate_agrees_with_inspect (i := checking) (j := inspecting) rfl rfl rfl rfl rfl hd
    exact ⟨complaints, decisions, hi, hj, (hagree rfl).1⟩

end CommandLine

end Formwork
