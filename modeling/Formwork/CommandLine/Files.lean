namespace Formwork.CommandLine

inductive FileResult
  | contents (text : String)
  | notFound
  | unreadable
deriving DecidableEq

/-- Documents below a directory, by their relative paths; a directory that is listed for itself has
no text. -/
abbrev FileTree := List (String × Option String)

def splitSlashes : List Char → List Char × List (List Char)
  | [] => ([], [])
  | c :: cs =>
    let (first, rest) := splitSlashes cs
    if c = '/' then ([], first :: rest) else (c :: first, rest)

def pathNames (path : String) : List String :=
  let (first, rest) := splitSlashes path.toList
  (first :: rest).map String.ofList

def maxName : Nat := 255

def maxPath : Nat := 4095

inductive Place
  | directory (names : List String)
  | document (text : String)
  | outside

namespace FileTree

def entries (tree : FileTree) : List (List String × Option String) :=
  tree.map fun e ↦ ((pathNames e.1).filter fun n ↦ n != "" && n != ".", e.2)

def enter? (tree : FileTree) (names : List String) : Option Place :=
  let es := tree.entries
  match es.lookup names with
  | some (some text) => some (.document text)
  | some none => some (.directory names)
  | none => if es.any fun e ↦ names.isPrefixOf e.1 then some (.directory names) else none

def walk (tree : FileTree) : Place → List String → FileResult
  | .document text, [] => .contents text
  | .directory _, [] => .unreadable
  | .outside, [] => .unreadable
  | .document _, _ :: _ => .unreadable
  | .directory names, name :: rest =>
    if name == "" || name == "." then walk tree (.directory names) rest
    else if name == ".." then
      walk tree (if names.isEmpty then .outside else .directory names.dropLast) rest
    else if maxName < name.utf8ByteSize then .unreadable
    else match tree.enter? (names ++ [name]) with
      | some place => walk tree place rest
      | none => .notFound
  | .outside, name :: rest =>
    if name == "" || name == "." || name == ".." then walk tree .outside rest
    else if maxName < name.utf8ByteSize then .unreadable
    else .notFound

/-- What a path leads to. Nothing is known of what lies outside of the tree. -/
def lookup (tree : FileTree) (path : String) : FileResult :=
  if path.isEmpty then .notFound
  else if maxPath < path.utf8ByteSize then .unreadable
  else walk tree (if path.startsWith "/" then .outside else .directory []) (pathNames path)

end FileTree

end Formwork.CommandLine
