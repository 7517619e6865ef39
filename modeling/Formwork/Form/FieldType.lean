namespace Formwork

inductive FieldType
  | text
  | password
  | number
  | email
  | url
  | tel
  | textarea
  | checkbox
  | switch
  | radio
  | select
  | autocomplete
  | date
  | time
  | datetime
  | daterange
  | file
deriving DecidableEq

namespace FieldType

def all : List FieldType :=
  [.text, .password, .number, .email, .url, .tel, .textarea, .checkbox, .switch, .radio, .select,
    .autocomplete, .date, .time, .datetime, .daterange, .file]

def name : FieldType → String
  | .text => "text"
  | .password => "password"
  | .number => "number"
  | .email => "email"
  | .url => "url"
  | .tel => "tel"
  | .textarea => "textarea"
  | .checkbox => "checkbox"
  | .switch => "switch"
  | .radio => "radio"
  | .select => "select"
  | .autocomplete => "autocomplete"
  | .date => "date"
  | .time => "time"
  | .datetime => "datetime"
  | .daterange => "daterange"
  | .file => "file"

def ofName? (name : String) : Option FieldType := all.find? (·.name == name)

def isBoolean : FieldType → Bool
  | .checkbox | .switch => true
  | _ => false

def isTyped : FieldType → Bool
  | .text | .password | .email | .url | .tel | .textarea => true
  | _ => false

def isChoice : FieldType → Bool
  | .radio | .select | .autocomplete => true
  | _ => false

def widget : FieldType → String
  | .text | .password | .number | .email | .url | .tel => "textInput"
  | .textarea => "textarea"
  | .checkbox => "checkbox"
  | .switch => "switch"
  | .radio => "radio"
  | .select => "select"
  | .autocomplete => "autocomplete"
  | .date => "datePicker"
  | .time => "timePicker"
  | .datetime => "dateTimePicker"
  | .daterange => "dateRangePicker"
  | .file => "fileInput"

end FieldType

end Formwork
