import QueryFlow.Error
import QueryFlow.Pattern.Parser
import QueryFlow.Text.Bytes

/-!
# Log filters

A filter is a list of directives, separated by commas. A directive is a level or a target, and a
target may be followed by a span in brackets, with a field in braces, and by a level:
`target[span]=level`.
-/

namespace QueryFlow.LogFilter

def levelNames : List String := ["off", "error", "warn", "info", "debug", "trace"]

def isLevelNumber (cs : List Char) : Bool :=
  let digits :=
    match cs with
    | '+' :: cs => cs
    | cs => cs
  !digits.isEmpty &&
    (digits.mapM (Text.digitValue? 10)).any (Text.ofDigits 10 · < levelNames.length)

/-- Whether a word is a level: a name in either case, or a number. The empty word is the highest
level. -/
def isLevel (cs : List Char) : Bool :=
  cs.isEmpty || levelNames.contains (String.ofList (cs.map Char.toLower)) || isLevelNumber cs

/-! ## Fields -/

def isDecimal (cs : List Char) : Bool :=
  let (whole, rest) := cs.span Char.isDigit
  let (fraction, rest) :=
    match rest with
    | '.' :: rest => rest.span Char.isDigit
    | _ => ([], rest)
  let isExponent : List Char → Bool
    | '+' :: ds | '-' :: ds | ds => !ds.isEmpty && ds.all Char.isDigit
  !(whole.isEmpty && fraction.isEmpty) &&
    match rest with
    | [] => true
    | c :: rest => (c = 'e' || c = 'E') && isExponent rest

def numberWords : List String := ["inf", "infinity", "nan"]

def isNumber (cs : List Char) : Bool :=
  let unsigned :=
    match cs with
    | '+' :: cs | '-' :: cs | cs => cs
  isDecimal unsigned || numberWords.contains (String.ofList (unsigned.map Char.toLower))

def isValue (cs : List Char) : Bool := isNumber cs || (Pattern.parse? cs).any Pattern.compiles

/-- Whether this is a field: a name, which may have a value after a sign. What follows another sign
does not count. -/
def isField (cs : List Char) : Bool :=
  !cs.isEmpty &&
    match cs.dropWhile (· != '=') with
    | [] => true
    | _ :: value => isValue (value.takeWhile (· != '='))

/-! ## Directives -/

/-- What stands in a directive as far from its start as `rest` does once the blanks around it are
left out. Levels and fields are found without the blanks and read with them. -/
def readAt (directive rest : List Char) : List Char :=
  Text.dropBytes (Text.byteSize (Text.trim directive) - Text.byteSize rest) directive

/-- Whether a directive may end like this after its target or its span. A level reaches to the very
end of the directive. -/
def isEnding (directive : List Char) : List Char → Bool
  | [] => true
  | '=' :: level => isLevel (readAt directive level)
  | _ => false

def isSpanEnding (directive cs : List Char) : Bool :=
  match cs.dropWhile fun c => c != ']' && c != '\x7b' with
  | ']' :: rest => isEnding directive rest
  | '\x7b' :: cs =>
    let (field, rest) := cs.span (· != '\x7d')
    match rest with
    | '\x7d' :: ']' :: rest =>
      isField (Text.takeBytes (Text.byteSize field) (readAt directive cs)) &&
        isEnding directive rest
    | _ => false
  | _ => false

def isStart (c : Char) : Bool :=
  c = '[' || c = '-' || c = ':' || c = '_' || Text.isAlphanumeric c

def isDirective (directive : List Char) : Bool :=
  let core := Text.trim directive
  core.head?.any isStart &&
    match core.dropWhile fun c => c != '=' && c != '[' with
    | '[' :: rest => isSpanEnding directive rest
    | rest => isEnding directive rest

def isValid (filter : String) : Bool :=
  (filter.splitOn ",").all fun d => d.isEmpty || isDirective d.toList

def select (environment : Option String) (setting : String) : Except Error String :=
  match environment.filter isValid with
  | some filter => .ok filter
  | none =>
    if isValid setting then .ok setting else .error (.invalid "invalid log level directive")

end QueryFlow.LogFilter
