import Formwork.CommandLine.Run

namespace Formwork.CommandLine

def readPath (path : String) : IO FileResult := do
  try
    return .contents (← IO.FS.readFile path)
  catch e =>
    match e with
    | .noFileOrDirectory .. => return .notFound
    | _ => return .unreadable

def specs (i : Invocation) : List String := ["schema", "values", "theme"].filterMap i.value?

def readSources (i : Invocation) : IO Sources := do
  let paths := (specs i).filter (· != "-")
  let files ← paths.mapM fun path ↦ do return (path, ← readPath path)
  let input ← if (specs i).contains "-" then (← IO.getStdin).readToEnd else pure ""
  return ⟨fun path ↦ (files.lookup path).getD .notFound, input⟩

def finish (o : Outcome) : IO UInt32 := do
  IO.print o.output
  match o.error with
  | some e => IO.eprintln ("Error: " ++ e.message)
  | none => pure ()
  return o.exit.toUInt32

end Formwork.CommandLine

def main (args : List String) : IO UInt32 := do
  match Formwork.CommandLine.parse args with
  | .ok i =>
    Formwork.CommandLine.finish (Formwork.CommandLine.execute i
      (← Formwork.CommandLine.readSources i))
  | .error _ => Formwork.CommandLine.finish (Formwork.CommandLine.run args ⟨fun _ ↦ .notFound, ""⟩)
