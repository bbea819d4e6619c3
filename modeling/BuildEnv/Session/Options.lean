import BuildEnv.Text.Quoted
import BuildEnv.Text.Shown

/-!
# Options

The command line of the program.  Words are read from left to right.  An
option that has a value takes it from its own word or from the next one, as
long as that does not look like an option; what it takes from the next word
is only looked at when the reading goes on (`Reading.settle`), which decides
which of two faults is reported.
-/

namespace BuildEnv

/-- What a command line says. -/
structure Options where
  /-- The configuration file. -/
  config : Option Text
  /-- How often more messages were asked for. -/
  verbosity : Nat
  toolset : Option Text
  charset : Option Text
  baseDirectory : Option Text
  searchPath : List Text
  macros : List Text
  databases : List Text
  /-- The file that the report is written to. -/
  output : Option Text
  logs : List Text
  deriving DecidableEq, Repr

namespace Options

/-- An empty command line. -/
def empty : Options :=
  ⟨none, 0, none, none, none, [], [], [], none, []⟩

/-- Why a command line starts no run. -/
inductive Refusal where
  | unknownOption
  /-- An option stands without its value. -/
  | missingValue
  /-- An option that is given once at most is repeated. -/
  | repeatedOption
  /-- A value is given to an option that has none. -/
  | unneededValue
  | helpRequested
  | versionRequested
  deriving DecidableEq, Repr

/-- The options that have a value. -/
inductive Setting where
  | config
  | toolset
  | charset
  | baseDirectory
  | searchPath
  | macros
  | databases
  | output
  deriving DecidableEq, Repr

/-- The options that have none. -/
inductive Flag where
  | verbose
  | help
  | version
  deriving DecidableEq, Repr

/-- What an option is. -/
inductive Kind where
  | setting (s : Setting)
  | flag (f : Flag)
  deriving DecidableEq, Repr

/-- The options by their long names. -/
def longNames : List (Text × Kind) :=
  [("verbose".toList, .flag .verbose), ("help".toList, .flag .help),
    ("version".toList, .flag .version), ("config".toList, .setting .config),
    ("toolset".toList, .setting .toolset), ("charset".toList, .setting .charset),
    ("base-dir".toList, .setting .baseDirectory), ("include".toList, .setting .searchPath),
    ("define".toList, .setting .macros), ("compilation-database".toList, .setting .databases),
    ("output".toList, .setting .output)]

/-- The options by their letters. -/
def letters : List (Char × Kind) :=
  [('v', .flag .verbose), ('h', .flag .help), ('V', .flag .version), ('c', .setting .config),
    ('I', .setting .searchPath), ('D', .setting .macros), ('o', .setting .output)]

/-- The greatest verbosity. -/
def maxVerbosity : Nat := 255

/-- A value that is given once at most. -/
def onlyOnce (earlier : Option Text) (value : Text) : Except Refusal (Option Text) :=
  if earlier.isSome then .error .repeatedOption else .ok (some value)

/-- Takes the value of an option. -/
def set (o : Options) (s : Setting) (value : Text) : Except Refusal Options :=
  match s with
  | .config => do .ok { o with config := ← onlyOnce o.config value }
  | .toolset => do .ok { o with toolset := ← onlyOnce o.toolset value }
  | .charset => do .ok { o with charset := ← onlyOnce o.charset value }
  | .baseDirectory => do .ok { o with baseDirectory := ← onlyOnce o.baseDirectory value }
  | .searchPath => .ok { o with searchPath := o.searchPath ++ [value] }
  | .macros => .ok { o with macros := o.macros ++ [value] }
  | .databases => .ok { o with databases := o.databases ++ [value] }
  | .output => do .ok { o with output := ← onlyOnce o.output value }

/-- Takes an option without value. -/
def raise (o : Options) (f : Flag) : Except Refusal Options :=
  match f with
  | .verbose => .ok { o with verbosity := min maxVerbosity (o.verbosity + 1) }
  | .help => .error .helpRequested
  | .version => .error .versionRequested

/-- A command line that has been read in part. -/
structure Reading where
  options : Options
  /-- The option that was read last, and the word after it that is its
  value. -/
  pending : Option (Setting × Option Text)
  /-- Whether all further words are logs. -/
  ended : Bool
  deriving DecidableEq, Repr

namespace Reading

/-- The reading of an empty command line. -/
def start : Reading := ⟨.empty, none, false⟩

/-- Takes the value of the option that was read last. -/
def settle (r : Reading) : Except Refusal Reading :=
  match r.pending with
  | none => .ok r
  | some (_, none) => .error .missingValue
  | some (s, some value) => do
    .ok { r with options := ← r.options.set s value, pending := none }

/-- Takes an option without value. -/
def takeFlag (r : Reading) (f : Flag) : Except Refusal Reading := do
  let r ← r.settle
  .ok { r with options := ← r.options.raise f }

/-- Takes an option with the value from its own word. -/
def takeValue (r : Reading) (s : Setting) (value : Text) : Except Refusal Reading := do
  let r ← r.settle
  .ok { r with options := ← r.options.set s value }

/-- Takes an option whose value is the next word. -/
def await (r : Reading) (s : Setting) : Except Refusal Reading := do
  let r ← r.settle
  .ok { r with pending := some (s, none) }

/-- Takes a log. -/
def takeLog (r : Reading) (log : Text) : Except Refusal Reading := do
  let r ← r.settle
  .ok { r with options := { r.options with logs := r.options.logs ++ [log] } }

/-- Reads a word of a long name and perhaps a value after an equals sign. -/
def readLong (r : Reading) (body : Text) : Except Refusal Reading :=
  let name := body.takeWhile (· != '=')
  let value := (body.dropWhile (· != '=')).tail?
  match longNames.find? (·.1 == name), value with
  | none, _ => .error .unknownOption
  | some (_, .flag f), none => r.takeFlag f
  | some (_, .flag _), some _ => .error .unneededValue
  | some (_, .setting s), some value => r.takeValue s value
  | some (_, .setting s), none => r.await s

/-- Reads letters.  The rest of the word after the letter of an option that
has a value is the value, with or without an equals sign before it. -/
def readLetters (r : Reading) : Text → Except Refusal Reading
  | [] => .ok r
  | c :: rest =>
    match letters.find? (·.1 == c) with
    | none => .error .unknownOption
    | some (_, .flag f) => do readLetters (← r.takeFlag f) rest
    | some (_, .setting s) =>
      match rest with
      | [] => r.await s
      | '=' :: value => r.takeValue s value
      | value => r.takeValue s value

/-- Reads a word that is no option. -/
def readPlain (r : Reading) (word : Text) : Except Refusal Reading :=
  match r.pending with
  | some (s, none) => .ok { r with pending := some (s, some word) }
  | _ => r.takeLog word

/-- Reads the next word. -/
def readWord (r : Reading) (word : Text) : Except Refusal Reading :=
  if r.ended then r.takeLog word
  else match word with
    | ['-', '-'] => .ok { r with ended := true }
    | '-' :: '-' :: body => r.readLong body
    | '-' :: c :: rest => r.readLetters (c :: rest)
    | word => r.readPlain word

end Reading

/-- The options of a command line. -/
def parse (words : List Text) : Except Refusal Options := do
  let r ← words.foldlM Reading.readWord Reading.start
  let r ← r.settle
  .ok r.options

/-- The least severity of the messages that are shown. -/
def logLevel (o : Options) : Text :=
  match o.verbosity with
  | 0 => "warn".toList
  | 1 => "info".toList
  | 2 => "debug".toList
  | _ => "trace".toList

/-- The options as they are shown. -/
def display (o : Options) : Text :=
  let optional (t : Option Text) := Text.shownOption (t.map Text.quoted)
  let list (ts : List Text) := Text.shownList (ts.map Text.quoted)
  "Arguments: ".toList ++ Text.shownRecord "Arguments"
    [("config", optional o.config), ("verbose", Text.ofNat o.verbosity),
      ("toolset", optional o.toolset), ("charset", optional o.charset),
      ("base_dir", optional o.baseDirectory), ("include_directories", list o.searchPath),
      ("defines", list o.macros), ("compilation_databases", list o.databases),
      ("output", optional o.output), ("build_logs", list o.logs)]

end Options

end BuildEnv
