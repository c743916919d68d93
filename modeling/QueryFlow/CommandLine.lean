/-!
# Command line

What the arguments of the program ask for. The options may stand before the command and after it,
once in each place, and those after it count first.
-/

namespace QueryFlow

inductive OutputFormat
  | text
  | json
  deriving DecidableEq

inductive Task
  | run
  | explain
  deriving DecidableEq

structure Invocation where
  task : Task
  plan : String
  config : Option String
  logFilter : Option String
  format : OutputFormat

inductive Request
  | version
  | help
  | invoke (i : Invocation)

inductive UsageError
  | unexpected (argument : String)
  | missingValue (option : String)
  | badValue (option : String) (value : String)
  | repeated (option : String)
  | missingCommand
  | missingPlan
  deriving DecidableEq

def UsageError.message : UsageError → String
  | unexpected argument => "unexpected argument '" ++ argument ++ "'"
  | missingValue option => "--" ++ option ++ " needs a value"
  | badValue option value => "'" ++ value ++ "' is no value of --" ++ option
  | repeated option => "--" ++ option ++ " is given twice"
  | missingCommand => "a command is missing"
  | missingPlan => "the plan is missing"

namespace CommandLine

/-! ## Options -/

inductive OptionName
  | config
  | logFilter
  | format
  deriving DecidableEq

def OptionName.word : OptionName → String
  | config => "config"
  | logFilter => "log-level"
  | format => "format"

def OptionName.ofWord? (word : String) : Option OptionName :=
  [config, logFilter, format].find? fun o => o.word == word

structure Options where
  config : Option String
  logFilter : Option String
  format : Option OutputFormat

def Options.unset : Options := ⟨none, none, none⟩

/-- Sets an option that is not set yet. No file has an empty name. -/
def Options.set (o : Options) (name : OptionName) (value : String) : Except UsageError Options :=
  match name with
  | .config =>
    if o.config.isSome then .error (.repeated name.word)
    else if value.isEmpty then .error (.badValue name.word value)
    else .ok { o with config := some value }
  | .logFilter =>
    if o.logFilter.isSome then .error (.repeated name.word)
    else .ok { o with logFilter := some value }
  | .format =>
    if o.format.isSome then .error (.repeated name.word)
    else
      match value with
      | "text" => .ok { o with format := some .text }
      | "json" => .ok { o with format := some .json }
      | _ => .error (.badValue name.word value)

/-! ## Arguments one by one -/

structure State where
  before : Options
  task : Option Task
  after : Options
  plan : Option String
  pending : Option OptionName
  filesOnly : Bool

def State.initial : State := ⟨.unset, none, .unset, none, none, false⟩

inductive Halt
  | version
  | help
  | usage (e : UsageError)

def State.set (s : State) (name : OptionName) (value : String) : Except Halt State :=
  if s.task.isSome then
    match s.after.set name value with
    | .ok o => .ok { s with after := o, pending := none }
    | .error e => .error (.usage e)
  else
    match s.before.set name value with
    | .ok o => .ok { s with before := o, pending := none }
    | .error e => .error (.usage e)

def State.setWord (s : State) (word : String) : Except Halt State :=
  match s.task, word with
  | none, "run" => .ok { s with task := some .run }
  | none, "explain" => .ok { s with task := some .explain }
  | none, _ => .error (.usage (.unexpected word))
  | some _, _ =>
    if s.plan.isSome then .error (.usage (.unexpected word))
    else if word.isEmpty then .error (.usage .missingPlan)
    else .ok { s with plan := some word }

def State.setLong (s : State) (cs : List Char) : Except Halt State :=
  let unexpected : Except Halt State :=
    .error (.usage (.unexpected (String.ofList ('-' :: '-' :: cs))))
  let (word, value) := cs.span (· != '=')
  match OptionName.ofWord? (String.ofList word), value with
  | some name, [] => .ok { s with pending := some name }
  | some name, _ :: value => s.set name (String.ofList value)
  | none, [] =>
    if word = "help".toList then .error .help
    else if word = "version".toList ∧ s.task.isNone then .error .version
    else if word = [] ∧ s.task.isSome then .ok { s with filesOnly := true }
    else unexpected
  | none, _ => unexpected

def State.setShort (s : State) (cs : List Char) : Except Halt State :=
  match cs with
  | 'h' :: _ => .error .help
  | 'V' :: _ =>
    if s.task.isNone then .error .version
    else .error (.usage (.unexpected (String.ofList ('-' :: cs))))
  | _ => .error (.usage (.unexpected (String.ofList ('-' :: cs))))

/-- A value does not begin with a dash, unless it is one. -/
def State.step (s : State) (argument : String) : Except Halt State :=
  if s.filesOnly then s.setWord argument
  else
    match s.pending, argument.toList with
    | some name, '-' :: _ :: _ => .error (.usage (.missingValue name.word))
    | some name, _ => s.set name argument
    | none, '-' :: '-' :: cs => s.setLong cs
    | none, '-' :: c :: cs => s.setShort (c :: cs)
    | none, _ => s.setWord argument

/-- The file that the settings come from. The environment stands in for an option that is missing on
either side, and may not be empty then. -/
def State.config (s : State) (environment : Option String) : Except UsageError (Option String) :=
  match s.after.config, s.before.config, environment with
  | some path, some _, _ => .ok (some path)
  | _, _, some "" => .error (.badValue OptionName.config.word "")
  | after, before, environment => .ok (after.orElse fun _ => before.orElse fun _ => environment)

def State.invocation (s : State) (environment : Option String) : Except UsageError Invocation := do
  if let some name := s.pending then throw (.missingValue name.word)
  let some task := s.task | throw .missingCommand
  let some plan := s.plan | throw .missingPlan
  return {
    task := task
    plan := plan
    config := ← s.config environment
    logFilter := s.after.logFilter.orElse fun _ => s.before.logFilter
    format := (s.after.format.orElse fun _ => s.before.format).getD .text }

end CommandLine

def Request.parse (environment : Option String) (arguments : List String) :
    Except UsageError Request :=
  match arguments.foldlM CommandLine.State.step .initial with
  | .error .version => .ok .version
  | .error .help => .ok .help
  | .error (.usage e) => .error e
  | .ok s => (s.invocation environment).map .invoke

end QueryFlow
