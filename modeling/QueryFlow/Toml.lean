import QueryFlow.Numeric.Double

/-!
# TOML trees

A document is a sequence of lines, each of which begins a table or adds a value to one, and the tree
that they build up. Every table knows how it came about, which decides what later lines may still do
to it.
-/

namespace QueryFlow

inductive Toml.Origin
  /-- By a header of its own. -/
  | header
  /-- On the way to the table of a longer header. -/
  | passed
  /-- On the way to the value of a dotted key. -/
  | dotted
  /-- As a value in braces, complete when it was written. -/
  | inline
  deriving DecidableEq

inductive Toml
  | text (s : String)
  | integer (n : Int)
  | float (d : Double)
  | bool (b : Bool)
  /-- A date, a time or both, as written. -/
  | moment (written : String)
  | array (items : List Toml)
  | table (origin : Toml.Origin) (members : List (String × Toml))
  /-- The tables of a header that may be repeated: the latest, and those before it in reverse. -/
  | tables (latest : Toml) (earlier : List Toml)

namespace Toml

structure Key where
  parents : List String
  name : String

def Key.path (k : Key) : List String := k.parents ++ [k.name]

def alter (name : String) (f : Option Toml → Option Toml) :
    List (String × Toml) → Option (List (String × Toml))
  | [] => (f none).map fun t => [(name, t)]
  | (other, t) :: ms =>
    if other = name then (f (some t)).map fun t => (other, t) :: ms
    else (alter name f ms).map ((other, t) :: ·)

/-- Whether a path may lead through a table that exists. A dotted key stays clear of tables that
have a header of their own, and nothing enters a table in braces. -/
def Origin.admits (via origin : Origin) : Bool :=
  match via, origin with
  | .dotted, .passed | .dotted, .dotted => true
  | .dotted, _ => false
  | _, origin => origin != .inline

/-- Changes the table at the end of a path. A table that is missing on the way comes about by `via`,
and of repeated tables the latest is meant. -/
def changeAt (via : Origin) (f : Toml → Option Toml) : List String → Toml → Option Toml
  | [], t => f t
  | name :: path, .table origin members =>
    let enter : Option Toml → Option Toml
      | none => changeAt via f path (.table via [])
      | some (.table o ms) => if via.admits o then changeAt via f path (.table o ms) else none
      | some (.tables latest earlier) => (changeAt via f path latest).map (.tables · earlier)
      | some _ => none
    (alter name enter members).map (.table origin)
  | _, _ => none

/-- Adds a value to a table under a key that is not there yet. A dotted key adds to tables of dotted
keys only. -/
def addEntry (key : Key) (value : Toml) : Toml → Option Toml :=
  changeAt .dotted (fun t =>
    match t with
    | .table origin members =>
      if key.parents = [] ∨ origin = .dotted then
        (alter key.name (fun old => if old.isNone then some value else none) members).map
          (.table origin)
      else none
    | _ => none) key.parents

def changeHeader (key : Key) (f : Option Toml → Option Toml) : Toml → Option Toml :=
  changeAt .passed (fun t =>
    match t with
    | .table origin members => (alter key.name f members).map (.table origin)
    | _ => none) key.parents

def beginTable (key : Key) : Toml → Option Toml :=
  changeHeader key fun
    | none => some (.table .header [])
    | some (.table .passed members) => some (.table .header members)
    | some _ => none

def beginRepeated (key : Key) : Toml → Option Toml :=
  changeHeader key fun
    | none => some (.tables (.table .header []) [])
    | some (.tables latest earlier) => some (.tables (.table .header []) (latest :: earlier))
    | some _ => none

inductive Line
  | header (key : Key)
  | repeatedHeader (key : Key)
  | entry (key : Key) (value : Toml)

structure Draft where
  root : Toml
  current : List String

def Draft.add (d : Draft) : Line → Option Draft
  | .header key => (beginTable key d.root).map (⟨·, key.path⟩)
  | .repeatedHeader key => (beginRepeated key d.root).map (⟨·, key.path⟩)
  | .entry key value =>
    (changeAt .passed (addEntry key value) d.current d.root).map (⟨·, d.current⟩)

def ofLines? (lines : List Line) : Option Toml :=
  (lines.foldlM Draft.add ⟨.table .header [], []⟩).map (·.root)

def ofEntries? (entries : List (Key × Toml)) : Option Toml :=
  entries.foldlM (fun t (key, value) => addEntry key value t) (.table .inline [])

end Toml

end QueryFlow
