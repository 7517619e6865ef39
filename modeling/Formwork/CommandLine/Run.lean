import Formwork.CommandLine.Arguments
import Formwork.CommandLine.Files
import Formwork.Form.DocumentSchema
import Formwork.Session.Basic

namespace Formwork.CommandLine

inductive CommandError
  | unreadable (label spec : String)
  | unparsable (isInline : Bool) (label : String) (cause : DocumentError)
  | invalidFields (count : Nat)
  | unknownSlot (name : String)

namespace CommandError

def detail (cause : DocumentError) : String :=
  match cause.cause? with
  | some c => cause.message ++ ": " ++ c
  | none => cause.message

def message : CommandError → String
  | .unreadable label spec => "failed to load " ++ label ++ " from " ++ spec
  | .unparsable isInline label cause =>
    "failed to parse " ++ (if isInline then "inline " else "") ++ label ++ ": tried " ++
      ", ".intercalate (Format.available.map Format.name) ++ " (" ++ detail cause ++ ")"
  | .invalidFields count => toString count ++ " field(s) failed validation"
  | .unknownSlot name => "unknown slot \x27" ++ name ++ "\x27"

def beforeParenthesis : List Char → List Char
  | [] => []
  | c :: cs => if [' ', '('].isPrefixOf (c :: cs) then [] else c :: beforeParenthesis cs

def firstLine : List Char → List Char
  | [] => []
  | '\n' :: _ | '\r' :: '\n' :: _ => []
  | c :: cs => c :: firstLine cs

def headline (e : CommandError) : String :=
  String.ofList (beforeParenthesis (firstLine e.message.toList))

end CommandError

structure Sources where
  lookup : String → FileResult
  input : String

structure Outcome where
  exit : Nat
  output : String
  error : Option CommandError

/-- Loads a document by path, from the standard input, or, if nothing has that path, from the text
itself. -/
def load {α : Type} (label : String) (parse : String → Except DocumentError α) (spec : String)
    (sources : Sources) : Except CommandError (α × Sources) :=
  if spec == "-" then do
    let a ← (parse sources.input).mapError (.unparsable false label)
    return (a, { sources with input := "" })
  else match sources.lookup spec with
    | .contents text => do return (← (parse text).mapError (.unparsable false label), sources)
    | .notFound => do return (← (parse spec).mapError (.unparsable true label), sources)
    | .unreadable => .error (.unreadable label spec)

def loadBag (form : Form) (spec : Option String) (sources : Sources) :
    Except CommandError (Bag × Sources) :=
  match spec with
  | none => .ok (form.initialBag, sources)
  | some spec => do
    let (bag, sources) ← load "values" Document.bag spec sources
    return (form.initialBag.overlay bag, sources)

def errorReport (errors : Complaints) : Json := .object (errors.map fun e ↦ (e.1, .string e.2))

/-- The decisions on a form's fields, by name; of fields that share a name the last one counts. -/
def decisionReport (decisions : List (Field × Decision)) : Json :=
  Record.toJson (.ofList (decisions.map fun e ↦ (e.1.name, e.2.toJson)))

def slotReport (slots : List (Slot × String)) : Json :=
  .object (slots.map fun e ↦ (e.1.name, .string e.2))

def readOverrides (given : List String) : Except CommandError Overrides :=
  (given.filterMap slotClasses?).mapM fun e ↦
    match Slot.ofName? e.1 with
    | some slot => .ok (slot, e.2)
    | none => .error (.unknownSlot e.1)

def report (i : Invocation) (sources : Sources) :
    Except CommandError (Json × Option CommandError) :=
  let spec (key : String) := (i.value? key).getD ""
  match i.command with
  | .defaults => do
    let (form, _) ← load "schema" Document.form (spec "schema") sources
    return (form.initialBag.toJson, none)
  | .validate => do
    let (form, sources) ← load "schema" Document.form (spec "schema") sources
    let (values, _) ← loadBag form (i.value? "values") sources
    let backend := ((i.value? "backend").bind fun name ↦ backendNames.lookup name).getD .native
    let errors := (form.checks backend).validate values
    return (errorReport errors,
      if errors.isEmpty then none else some (.invalidFields errors.length))
  | .inspect => do
    let (form, sources) ← load "schema" Document.form (spec "schema") sources
    let (values, _) ← loadBag form (i.value? "values") sources
    let session : Session := ⟨form, { Options.standard with initialValues := some values }⟩
    let state := if i.has "submitted" then session.submit session.start else session.start
    return (decisionReport (session.decisions state), none)
  | .slots => do
    let (theme, _) ← load "theme" Document.theme (spec "theme") sources
    let overrides ← readOverrides (i.values "override")
    let state : WidgetState :=
      ⟨i.has "error", i.has "disabled", i.has "focused", i.has "checked", none,
        (i.value? "variant").bind Variant.ofName?⟩
    return (slotReport (theme.resolve (spec "component") state overrides (!i.has "no-global")),
      none)
  | .schema => .ok (DocumentSchema.document, none)

def execute (i : Invocation) (sources : Sources) : Outcome :=
  match report i sources with
  | .error e => ⟨1, "", some e⟩
  | .ok (json, error) =>
    ⟨if error.isSome then 1 else 0,
      (if i.has "compact" then json.compact else json.pretty) ++ "\n", error⟩

def run (args : List String) (sources : Sources) : Outcome :=
  match parse args with
  | .error .usage => ⟨2, "", none⟩
  | .error (.asked key) => ⟨0, if key == "version" then "schemaform 0.1.0\n" else "", none⟩
  | .ok i => execute i sources

end Formwork.CommandLine
