import QueryFlow.Toml.Parser

/-!
# Configuration

Settings of the engine, read from a TOML document with the optional sections `executor` and
`logging`. A section has one setting at most; nothing else may stand in the document.
-/

namespace QueryFlow

structure Config where
  /-- Milliseconds after which a run is abandoned. -/
  timeout : Option Nat
  logLevel : Option String

namespace Config

def default : Config := ⟨none, none⟩

/-- The setting of a section. An array does as well as a table; only its first item counts. -/
def setting? (name : String) : Toml → Option (Option Toml)
  | .table _ [] => some none
  | .table _ [(key, t)] => if key = name then some (some t) else none
  | .array (t :: _) => some (some t)
  | _ => none

def milliseconds? : Toml → Option Nat
  | .integer n => n.toNat?
  | _ => none

def text? : Toml → Option String
  | .text s => some s
  | _ => none

def ofToml? : Toml → Option Config
  | .table _ sections =>
    sections.foldlM (fun c (name, body) => do
      match name with
      | "executor" =>
        return { c with timeout := ← (← setting? "timeout_ms" body).mapM milliseconds? }
      | "logging" => return { c with logLevel := ← (← setting? "level" body).mapM text? }
      | _ => none) default
  | _ => none

def parse? (text : String) : Option Config := Toml.parse? text >>= ofToml?

def logFilter (c : Config) : String := c.logLevel.getD "warn"

end Config

end QueryFlow
