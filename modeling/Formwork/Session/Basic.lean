import Formwork.Validation.FormChecks
import Formwork.Session.Cascade

namespace Formwork

inductive Timing
  | onSubmit
  | onChange
  | onBlur
deriving DecidableEq

def Timing.name : Timing → String
  | .onSubmit => "onSubmit"
  | .onChange => "onChange"
  | .onBlur => "onBlur"

structure Options where
  mode : Timing
  backend : Backend
  revalidateAfterSubmit : Bool
  initialValues : Option Bag
  /-- Complaints that look at several fields; they replace those of the fields. -/
  crossField : Option (Bag → Complaints)

def Options.standard : Options := ⟨.onSubmit, .native, true, none, none⟩

structure Agreement where
  left : String
  right : String
  target : String
  message : String

/-- The complaints of agreements that a bag breaks; missing entries agree with each other alone. -/
def Agreement.complaints (agreements : List Agreement) (values : Bag) : Complaints :=
  agreements.foldl
    (fun errors a ↦
      if Json.sameOption (values.get? a.left) (values.get? a.right) then errors
      else Complaints.put errors a.target a.message) []

inductive Command
  | set (name : String) (value : Json) (revalidate : Bool)
  | blur (name : String)
  | clear (name : String)
  | submit
  | reset

inductive Event
  | changed (cleared : List String)
  | rejected
  | blurred
  | submitted
  | submitRejected (errors : Nat)
  | reset

inductive Call
  | submit (values : Bag)
  | listen (values : Bag)

structure State where
  values : Bag
  /-- The bag before the last change, if there was one. -/
  previous : Option Bag
  errors : Complaints
  /-- The names that lost the focus, in order of the first time. -/
  touched : List String
  submitted : Bool

structure Session where
  form : Form
  options : Options

structure Step where
  state : State
  event : Event
  calls : List Call

namespace Session

def checks (u : Session) : FormChecks := u.form.checks u.options.backend

/-- The defaults of the form with the initial values over them. -/
def initial (u : Session) : Bag :=
  match u.options.initialValues with
  | none => u.form.initialBag
  | some values => u.form.initialBag.overlay values

def start (u : Session) : State := ⟨u.initial, none, [], [], false⟩

def complaints (u : Session) (values : Bag) : Complaints :=
  match u.options.crossField with
  | none => u.checks.validate values
  | some f => Complaints.overlay (u.checks.validate values) (f values)

def validate (u : Session) (s : State) : State := { s with errors := u.complaints s.values }

/-- Whether a value may be set. Only text can be refused. -/
def admits (u : Session) (name : String) (value : Json) : Bool :=
  match u.form.field? name, value with
  | some f, .string text => f.acceptsText text
  | _, _ => true

def validatesChange (u : Session) (s : State) (name : String) (revalidate : Bool) : Bool :=
  revalidate || (u.form.field? name).any Field.validateOnChange || u.options.mode == .onChange ||
    (s.submitted && u.options.revalidateAfterSubmit)

/-- Writes an entry, with the cascade that follows. Returns the names that were cleared. -/
def write (u : Session) (s : State) (name : String) (value : Json) (revalidate : Bool) :
    State × List String :=
  let edited := s.values.insert name value
  let passes := u.form.cascade name edited s.values
  let t := { s with values := passes.foldl Cascade.clearAll edited, previous := some s.values }
  (if u.validatesChange s name revalidate then u.validate t else t, passes.flatten.map Field.name)

def set? (u : Session) (s : State) (name : String) (value : Json) (revalidate : Bool) :
    Option (State × List String) :=
  if u.admits name value then some (u.write s name value revalidate) else none

def clear? (u : Session) (s : State) (name : String) : Option (State × List String) :=
  (u.form.field? name).map fun f ↦ u.write s name f.blankValue false

def blur (u : Session) (s : State) (name : String) : State :=
  let t := { s with touched := if s.touched.contains name then s.touched else s.touched ++ [name] }
  if u.options.mode = .onBlur then u.validate t else t

def submit (u : Session) (s : State) : State := u.validate { s with submitted := true }

def notifying (change : State × List String) : Step :=
  ⟨change.1, .changed change.2, [.listen change.1.values]⟩

def step (u : Session) (s : State) : Command → Step
  | .set name value revalidate =>
    match u.set? s name value revalidate with
    | some change => notifying change
    | none => ⟨s, .rejected, []⟩
  | .blur name => ⟨u.blur s name, .blurred, []⟩
  | .clear name =>
    match u.clear? s name with
    | some change => notifying change
    | none => ⟨s, .changed [], []⟩
  | .submit =>
    let t := u.submit s
    if t.errors.isEmpty then ⟨t, .submitted, [.submit t.values]⟩
    else ⟨t, .submitRejected t.errors.length, []⟩
  | .reset => ⟨u.start, .reset, [.listen u.start.values]⟩

def run (u : Session) (s : State) : List Command → List Step
  | [] => []
  | c :: cs => u.step s c :: run u (u.step s c).state cs

def after (u : Session) (s : State) (cs : List Command) : State :=
  cs.foldl (fun s c ↦ (u.step s c).state) s

end Session

structure Decision where
  visible : Bool
  disabled : Bool
  reserveSpace : Bool
  error : Option String

namespace Session

/-- The complaint about a name, once the field was touched or a submission tried. -/
def shownComplaint? (s : State) (name : String) : Option String :=
  if s.submitted || s.touched.contains name then s.errors.lookup name else none

def decision (s : State) (f : Field) : Decision :=
  let visible := !f.hidden && f.isVisible s.values
  ⟨visible, f.isDisabled s.values, !visible && f.reserveSpace, shownComplaint? s f.name⟩

def decisions (u : Session) (s : State) : List (Field × Decision) :=
  u.form.fields.map fun f ↦ (f, decision s f)

end Session

def Decision.toJson (d : Decision) : Json :=
  .object (
    [("disabled", .bool d.disabled)] ++ (d.error.map fun e ↦ ("error", Json.string e)).toList ++
    [("reserveSpace", .bool d.reserveSpace), ("visible", .bool d.visible)])

/-- A receiver of submissions and a listener for values, as far as there are any. Each call changes
what they remember. -/
structure Audience (σ : Type) where
  onSubmit : Option (σ → Bag → σ)
  onValues : Option (σ → Bag → σ)

def Audience.hear {σ : Type} (a : Audience σ) (memory : σ) : Call → σ
  | .submit values => a.onSubmit.elim memory fun f ↦ f memory values
  | .listen values => a.onValues.elim memory fun f ↦ f memory values

def Session.perform {σ : Type} (u : Session) (a : Audience σ) (s : State) (memory : σ) :
    List Command → List (Step × σ)
  | [] => []
  | c :: cs =>
    let step := u.step s c
    let heard := step.calls.foldl a.hear memory
    (step, heard) :: u.perform a step.state heard cs

theorem Session.map_fst_perform {σ : Type} (u : Session) (a : Audience σ) (s : State) (memory : σ)
    (cs : List Command) : (u.perform a s memory cs).map Prod.fst = u.run s cs := by
  induction cs generalizing s memory with
  | nil => rfl
  | cons c cs ih => rw [perform, run, List.map_cons, ih]

end Formwork
