import Formwork.Form.Decoder
import Formwork.Text.Basic

namespace Formwork

inductive Slot
  | root
  | label
  | input
  | helperText
  | errorText
  | wrapper
  | icon
  | track
  | thumb
  | list
  | item
  | tag
deriving DecidableEq

namespace Slot

def all : List Slot :=
  [.root, .label, .input, .helperText, .errorText, .wrapper, .icon, .track, .thumb, .list,
    .item, .tag]

def name : Slot → String
  | .root => "root"
  | .label => "label"
  | .input => "input"
  | .helperText => "helperText"
  | .errorText => "errorText"
  | .wrapper => "wrapper"
  | .icon => "icon"
  | .track => "track"
  | .thumb => "thumb"
  | .list => "list"
  | .item => "item"
  | .tag => "tag"

def ofName? (name : String) : Option Slot := all.find? (·.name == name)

end Slot

inductive Variant
  | outline
  | filled
  | standard
  | floating
deriving DecidableEq

namespace Variant

def all : List Variant := [.outline, .filled, .standard, .floating]

def name : Variant → String
  | .outline => "outline"
  | .filled => "filled"
  | .standard => "standard"
  | .floating => "floating"

def ofName? (name : String) : Option Variant := all.find? (·.name == name)

end Variant

structure WidgetState where
  error : Bool
  disabled : Bool
  focused : Bool
  checked : Bool
  value : Option Json
  variant : Option Variant

def WidgetState.idle : WidgetState := ⟨false, false, false, false, none, none⟩

inductive Style
  | fixed (classes : String)
  | computed (f : WidgetState → String)

def Style.resolve (style : Style) (state : WidgetState) : String :=
  match style with
  | .fixed classes => classes
  | .computed f => f state

/-- The styles of a layer; the last one of a slot counts. -/
abbrev Layer := List (Slot × Style)

def Layer.get? (layer : Layer) (slot : Slot) : Option Style :=
  (layer.reverse.find? (·.1 == slot)).map Prod.snd

structure Theme where
  global : Option Layer
  components : List (String × Layer)

namespace Theme

def empty : Theme := ⟨none, []⟩

def component? (t : Theme) (key : String) : Option Layer :=
  (t.components.reverse.find? (·.1 == key)).map Prod.snd

/-- Puts a layer in the place of the one for a key; the key `global` is that of the layer for all
widgets. -/
def withLayer (t : Theme) (key : String) (layer : Layer) : Theme :=
  if key == "global" then { t with global := some layer }
  else { t with components := t.components ++ [(key, layer)] }

end Theme

inductive When
  | always
  | error
  | disabled
  | focused
  | checked
  | value
  | variant (name : String)

namespace When

def ofName (name : String) : When :=
  if name == "always" then .always
  else if name == "error" then .error
  else if name == "disabled" then .disabled
  else if name == "focused" then .focused
  else if name == "checked" then .checked
  else if name == "value" then .value
  else .variant name

def holds (w : When) (s : WidgetState) : Bool :=
  match w with
  | .always => true
  | .error => s.error
  | .disabled => s.disabled
  | .focused => s.focused
  | .checked => s.checked
  | .value => s.value.isSome
  | .variant name => s.variant.any (·.name == name)

end When

def Style.conditional (parts : List (When × String)) : Style :=
  .computed fun s ↦ String.join ((parts.filter fun p ↦ p.1.holds s).map Prod.snd)

namespace Decode

def slot : Json → Except DecodeError Slot :=
  tag fun name ↦
    match Slot.ofName? name with
    | some s => .ok s
    | none => .error (.unknownVariant name (Slot.all.map Slot.name))

def variant : Json → Except DecodeError Variant :=
  tag fun name ↦
    match Variant.ofName? name with
    | some v => .ok v
    | none => .error (.unknownVariant name (Variant.all.map Variant.name))

def slotClasses : Json → Except DecodeError (List (Slot × String))
  | .object members => members.mapM fun e ↦ do return (← slot (.string e.1), ← string e.2)
  | v => .error (.wrongType v .map)

def layer (v : Json) : Except DecodeError Layer := do
  return (← slotClasses v).map fun e ↦ (e.1, .fixed e.2)

def theme : Json → Except DecodeError Theme
  | .object members => do
    let layers ← members.mapM fun e ↦ do return (e.1, ← layer e.2)
    return layers.foldl (fun t e ↦ t.withLayer e.1 e.2) .empty
  | v => .error (.wrongType v .map)

end Decode

/-- Classes for a single widget; the last one of a slot counts. -/
abbrev Overrides := List (Slot × String)

def Overrides.get? (o : Overrides) (slot : Slot) : Option String :=
  (o.reverse.find? (·.1 == slot)).map Prod.snd

namespace Theme

def layerClass? (layer : Option Layer) (slot : Slot) (state : WidgetState) : Option String :=
  layer.bind fun l ↦ (l.get? slot).map fun style ↦ style.resolve state

def contributions (t : Theme) (component : String) (state : WidgetState) (overrides : Overrides)
    (useGlobal : Bool) (slot : Slot) : List String :=
  [layerClass? (if useGlobal then t.global else none) slot state,
    layerClass? (t.component? component) slot state,
    overrides.get? slot].filterMap id

def parts (contributions : List String) : List String :=
  (contributions.map Text.trim).filter fun s ↦ !s.isEmpty

/-- The classes of a slot; a slot without any is absent. -/
def slotClass? (t : Theme) (component : String) (state : WidgetState) (overrides : Overrides)
    (useGlobal : Bool) (slot : Slot) : Option String :=
  match parts (t.contributions component state overrides useGlobal slot) with
  | [] => none
  | ps => some (" ".intercalate ps)

def resolve (t : Theme) (component : String) (state : WidgetState) (overrides : Overrides)
    (useGlobal : Bool) : List (Slot × String) :=
  Slot.all.filterMap fun slot ↦
    (t.slotClass? component state overrides useGlobal slot).map fun c ↦ (slot, c)

def resolveField (t : Theme) (f : Field) (state : WidgetState) (overrides : Overrides) :
    List (Slot × String) :=
  t.resolve f.type.widget state overrides true

end Theme

end Formwork
