import Formwork.Document
import Formwork.Theme.Basic
import Formwork.Validation.Demand

namespace Formwork.CommandLine

inductive Arity
  | flag
  | counter
  | single
  | many
deriving DecidableEq

structure OptionSpec where
  key : String
  long : List String
  short : Option Char
  arity : Arity
  accepts : String → Bool

namespace OptionSpec

def takesValue (o : OptionSpec) : Bool := o.arity == .single || o.arity == .many

def repeats (o : OptionSpec) : Bool := o.arity == .counter || o.arity == .many

end OptionSpec

inductive Subcommand
  | defaults
  | validate
  | inspect
  | slots
  | schema
deriving DecidableEq

namespace Subcommand

def all : List Subcommand := [.defaults, .validate, .inspect, .slots, .schema]

def name : Subcommand → String
  | .defaults => "defaults"
  | .validate => "validate"
  | .inspect => "inspect"
  | .slots => "slots"
  | .schema => "schema"

def ofName? (name : String) : Option Subcommand := all.find? (·.name == name)

end Subcommand

def anyValue : String → Bool := fun _ ↦ true

def flagOption (name : String) : OptionSpec := ⟨name, [name], none, .flag, anyValue⟩

def valueOption (name : String) (short : Char) : OptionSpec :=
  ⟨name, [name], some short, .single, anyValue⟩

def globalOptions : List OptionSpec := [
  ⟨"verbose", ["verbose"], some 'v', .counter, anyValue⟩,
  ⟨"format", ["format"], none, .single, fun v ↦ (Format.ofExtension? v).isSome⟩,
  ⟨"compact", ["compact"], none, .flag, anyValue⟩,
  ⟨"help", ["help"], some 'h', .flag, anyValue⟩]

def rootOptions : List OptionSpec :=
  globalOptions ++ [⟨"version", ["version"], some 'V', .flag, anyValue⟩]

def backendNames : List (String × Backend) := [("native", .native), ("json-schema", .jsonSchema)]

def slotClasses? (v : String) : Option (String × String) :=
  let cs := v.toList
  let slot := cs.takeWhile (· != '=')
  match cs.drop slot.length with
  | _ :: classes => some (Text.trim (String.ofList slot), Text.trim (String.ofList classes))
  | [] => none

def valuesOption : OptionSpec := ⟨"values", ["values", "data"], some 'd', .single, anyValue⟩

namespace Subcommand

def ownOptions : Subcommand → List OptionSpec
  | .defaults => [valueOption "schema" 's']
  | .validate => [
      valueOption "schema" 's', valuesOption,
      ⟨"backend", ["backend"], some 'b', .single, fun v ↦ (backendNames.lookup v).isSome⟩]
  | .inspect => [valueOption "schema" 's', valuesOption, flagOption "submitted"]
  | .slots => [
      valueOption "theme" 't', valueOption "component" 'c',
      ⟨"override", ["override"], some 'o', .many, fun v ↦ (slotClasses? v).isSome⟩,
      flagOption "error", flagOption "disabled", flagOption "focused", flagOption "checked",
      ⟨"variant", ["variant"], none, .single, fun v ↦ (Variant.ofName? v).isSome⟩,
        flagOption "no-global"]
  | .schema => []

def options (c : Subcommand) : List OptionSpec := c.ownOptions ++ globalOptions

def required : Subcommand → List String
  | .defaults | .validate | .inspect => ["schema"]
  | .slots => ["theme", "component"]
  | .schema => []

end Subcommand

abbrev Given := List (String × String)

inductive ArgumentError
  | usage
  /-- A request for help or for the version, which ends the reading of arguments. -/
  | asked (key : String)

def addOption (o : OptionSpec) (value : String) (given : Given) : Except ArgumentError Given :=
  if o.key == "help" || o.key == "version" then .error (.asked o.key)
  else if (!o.repeats && given.any (·.1 == o.key)) || !o.accepts value then .error .usage
  else .ok (given ++ [(o.key, value)])

def isValue (arg : String) : Bool := !arg.startsWith "-" || arg == "-"

structure Progress where
  given : Given
  pending : Option OptionSpec

def attach (o : OptionSpec) (value : Option String) (given : Given) :
    Except ArgumentError Progress :=
  match o.takesValue, value with
  | true, some v => do return ⟨← addOption o v given, none⟩
  | true, none => .ok ⟨given, some o⟩
  | false, none => do return ⟨← addOption o "" given, none⟩
  | false, some _ => .error .usage

def readShorts (options : List OptionSpec) : List Char → Given → Except ArgumentError Progress
  | [], given => .ok ⟨given, none⟩
  | c :: cs, given =>
    match options.find? fun o ↦ o.short == some c with
    | none => .error .usage
    | some o =>
      if o.takesValue then
        match cs with
        | [] => attach o none given
        | '=' :: v => attach o (some (String.ofList v)) given
        | v => attach o (some (String.ofList v)) given
      else do readShorts options cs (← attach o none given).given

def readLong (options : List OptionSpec) (arg : List Char) (given : Given) :
    Except ArgumentError Progress :=
  let name := arg.takeWhile (· != '=')
  match options.find? fun o ↦ o.long.contains (String.ofList name) with
  | none => .error .usage
  | some o =>
    match arg.drop name.length with
    | [] => attach o none given
    | _ :: v => attach o (some (String.ofList v)) given

def readOption? (options : List OptionSpec) (arg : String) (given : Given) :
    Option (Except ArgumentError Progress) :=
  match arg.toList with
  | '-' :: '-' :: c :: cs => some (readLong options (c :: cs) given)
  | ['-', '-'] => none
  | '-' :: c :: cs => some (readShorts options (c :: cs) given)
  | _ => none

/-- Reads options up to the first argument that is none; returns that and what follows it. Two
dashes end the options; as nothing but options may follow a subcommand, they can only stand last. -/
def readOptions (options : List OptionSpec) (p : Progress) :
    List String → Except ArgumentError (Given × List String)
  | [] => if p.pending.isSome then .error .usage else .ok (p.given, [])
  | arg :: rest =>
    match p.pending with
    | some o => do
      if isValue arg then
        readOptions options ⟨← addOption o arg p.given, none⟩ rest
      else .error .usage
    | none =>
      match readOption? options arg p.given with
      | some q => do readOptions options (← q) rest
      | none => .ok (p.given, if arg == "--" && rest.isEmpty then [] else arg :: rest)

structure Invocation where
  command : Subcommand
  given : Given

namespace Invocation

def value? (i : Invocation) (key : String) : Option String := i.given.lookup key

def has (i : Invocation) (key : String) : Bool := i.given.any (·.1 == key)

def values (i : Invocation) (key : String) : List String :=
  (i.given.filter (·.1 == key)).map Prod.snd

end Invocation

def asksHelp : List String → Bool
  | [] => true
  | [name] => name == "help" || (Subcommand.ofName? name).isSome
  | _ => false

/-- What a list of arguments asks for. Options behind the subcommand count before those in front of
it. -/
def parse (args : List String) : Except ArgumentError Invocation := do
  let (before, rest) ← readOptions rootOptions ⟨[], none⟩ args
  match rest with
  | [] => .error .usage
  | name :: rest =>
    if name == "help" then .error (if asksHelp rest then .asked "help" else .usage)
    else match Subcommand.ofName? name with
      | none => .error .usage
      | some command => do
        let (given, rest) ← readOptions command.options ⟨[], none⟩ rest
        if rest.isEmpty && command.required.all fun key ↦ given.any (·.1 == key) then
          return ⟨command, given ++ before⟩
        else .error .usage

end Formwork.CommandLine
