import Formwork.Json.Reader
import Formwork.Theme.Basic

namespace Formwork

/-- Documents are read as JSON. YAML and TOML, for which a build may add the readers of other
libraries, are left out. -/
inductive Format
  | json
deriving DecidableEq

namespace Format

def available : List Format := [.json]

def name : Format → String
  | .json => "json"

def ofExtension? (extension : String) : Option Format :=
  available.find? fun f ↦ f.name.toList == extension.toList.map Char.toLower

end Format

inductive DocumentError
  | unreadable (cause : Json.ReadError)
  | notAForm (cause : FormError)
  | notABag (found : Json)
  | notATheme (cause : DecodeError)

namespace DocumentError

def message : DocumentError → String
  | .unreadable _ => "failed to parse JSON document"
  | .notAForm _ => "failed to load form schema"
  | .notABag found => "value bag must be an object, found " ++ found.compact
  | .notATheme _ => "failed to load theme"

def cause? : DocumentError → Option String
  | .unreadable .unexpectedEnd => some "eof"
  | .unreadable .malformed => some "syntax"
  | .notAForm cause => some cause.message
  | .notABag _ => none
  | .notATheme cause => some cause.message

end DocumentError

namespace Document

def value (contents : String) : Except DocumentError Json :=
  (Json.parse contents).mapError .unreadable

def form (contents : String) : Except DocumentError Form := do
  (Form.ofJson (← value contents)).mapError .notAForm

def bag (contents : String) : Except DocumentError Bag := do
  match ← value contents with
  | .object members => return .ofList members
  | v => throw (.notABag v)

def theme (contents : String) : Except DocumentError Theme := do
  (Decode.theme (← value contents)).mapError .notATheme

end Document

end Formwork
