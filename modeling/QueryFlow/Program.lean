import QueryFlow.CommandLine
import QueryFlow.Config
import QueryFlow.Document.Reader
import QueryFlow.Document.Writer
import QueryFlow.Files
import QueryFlow.LogFilter

namespace QueryFlow

structure Environment where
  /-- A log filter, which counts first if it is valid. -/
  logFilter : Option String
  config : Option String
  profile : Bool
  configHome : Option String

inductive ProgramError
  | unreadableConfig (path : String)
  | malformedConfig (path : String)
  | failure (f : Failure)

def ProgramError.message : ProgramError → String
  | unreadableConfig path => "[Config] failed to read config " ++ path
  | malformedConfig path => "[Config] failed to parse config " ++ path
  | failure (.error e) => e.messageWithCode
  | failure .endless => "endless chain of sinks"

inductive Outcome
  | usage (e : UsageError)
  | failed (e : ProgramError)
  | done (output : String) (profile : Option Profile)

namespace Outcome

def code : Outcome → UInt32
  | usage _ => 2
  | failed _ => 1
  | done .. => 0

def output : Outcome → String
  | done output _ => output
  | _ => ""

end Outcome

def Profile.line (p : Profile) : String :=
  "profile: compiles=" ++ p.compiles.repr ++ " drives=" ++ p.drives.repr ++
    " steps=" ++ p.steps.repr ++ " filters=" ++ p.filters.repr

def Outcome.notice : Outcome → String
  | usage e => "error: " ++ e.message ++ "\n"
  | failed e => "error: " ++ e.message ++ "\n"
  | done _ (some p) => p.line ++ "\n"
  | done _ none => ""

def versionText : String := "rowpipe 0.1.0\n"

def helpText : String :=
  "Compile and run physical row-pipeline plans\n\n" ++
  "Usage: rowpipe [OPTIONS] run <PLAN>\n       rowpipe [OPTIONS] explain <PLAN>\n\n" ++
  "Options:\n" ++
  "      --config <FILE>       Engine config file (TOML)\n" ++
  "      --log-level <FILTER>  Log filter directive; overrides the config file\n" ++
  "      --format <FORMAT>     Output format for query results: text or json\n" ++
  "  -h, --help                Print help\n" ++
  "  -V, --version             Print version\n"

def QueryResult.toText (r : QueryResult) : String :=
  let lines := r.schema.names :: r.rows.map (·.map Value.display)
  let count := "(" ++ r.rows.length.repr ++ (if r.rows.length = 1 then " row)\n" else " rows)\n")
  String.join (lines.map fun cells => "\t".intercalate cells ++ "\n") ++ count

def OutputFormat.render (f : OutputFormat) (r : QueryResult) : String :=
  match f with
  | text => r.toText
  | json => r.toJson.pretty ++ "\n"

namespace Program

variable {m : Type → Type} [Monad m]

def lift {α : Type} (r : Except Error α) : ExceptT ProgramError m α :=
  ExceptT.mk (pure (r.mapError fun e => .failure (.error e)))

/-- The settings at a path, or in the user's directory. Without a file there are none. -/
def loadConfig (read : String → m FileEntry) (path configHome : Option String) :
    ExceptT ProgramError m Config := do
  let usual := configHome.map (· ++ "/rowpipe/config.toml")
  match path.orElse fun _ => usual with
  | none => return .default
  | some path =>
    match ← (read path : m FileEntry) with
    | .missing => return .default
    | .unreadable => throw (.unreadableConfig path)
    | .text contents =>
      match Config.parse? contents with
      | some c => return c
      | none => throw (.malformedConfig path)

def loadPlan (read : String → m FileEntry) (path : String) : ExceptT ProgramError m Plan := do
  match ← (read path : m FileEntry) with
  | .missing | .unreadable => lift (.error (.io ("cannot read " ++ path)))
  | .text contents => lift (Document.parse contents >>= Document.build)

def invoke (read : String → m FileEntry) (environment : Environment) (i : Invocation) :
    ExceptT ProgramError m (String × Option Profile) := do
  let config ← loadConfig read i.config environment.configHome
  let _ ← lift (LogFilter.select environment.logFilter (i.logFilter.getD config.logFilter))
  let plan ← loadPlan read i.plan
  match i.task with
  | .explain => return (plan.explain 0, none)
  | .run =>
    match Engine.execute ⟨config.timeout, none⟩ plan .initial with
    | (.error f, _) => throw (.failure f)
    | (.ok r, g) => return (i.format.render r, if environment.profile then some g.profile else none)

def perform (read : String → m FileEntry) (environment : Environment) (arguments : List String) :
    m Outcome := do
  match Request.parse environment.config arguments with
  | .error e => return .usage e
  | .ok .version => return .done versionText none
  | .ok .help => return .done helpText none
  | .ok (.invoke i) =>
    match ← (invoke read environment i).run with
    | .error e => return .failed e
    | .ok (output, profile) => return .done output profile

end Program

end QueryFlow
