namespace QueryFlow

inductive FileEntry
  | missing
  /-- Something that is not a text, such as a directory. -/
  | unreadable
  | text (contents : String)

/-- A directory with the files at some relative paths, each of which is given by its names. -/
structure Files where
  entries : List (List String × String)

namespace Files

def namesOf (path : String) : List String :=
  (path.splitOn "/").foldl (fun names name =>
    match name with
    | "" | "." => names
    | ".." => names.dropLast
    | name => names ++ [name]) []

def ofPaths (files : List (String × String)) : Files :=
  ⟨files.map fun (path, contents) => (namesOf path, contents)⟩

inductive Place
  | above
  | directory (path : List String)
  | file (contents : String)

def enter (fs : Files) (path : List String) : Option Place :=
  match fs.entries.lookup path with
  | some contents => some (.file contents)
  | none =>
    if fs.entries.any fun e => path.isPrefixOf e.1 then some (.directory path) else none

def step (fs : Files) : Place → String → Option Place
  | .file _, _ => none
  | .above, name => if ["", ".", ".."].contains name then some .above else none
  | .directory path, name =>
    match name with
    | "" | "." => some (.directory path)
    | ".." => some (if path.isEmpty then .above else .directory path.dropLast)
    | name => fs.enter (path ++ [name])

def read (fs : Files) (path : String) : FileEntry :=
  match path.splitOn "/" with
  | [""] => .missing
  | names =>
    let start := if names.head? = some "" then Place.above else .directory []
    match names.foldlM fs.step start with
    | none => .missing
    | some (.file contents) => .text contents
    | some _ => .unreadable

end Files

end QueryFlow
