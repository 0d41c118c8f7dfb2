import QuantumJobs.CommandLine.Command

/-!
# Arguments — commands as they are typed

The arguments of the program are first read as items: options with their values, and values that
stand for themselves.  Options have a short and a long form; the value of an option is the next
argument or is attached to it.  Two hyphens alone end the options.  From its items a command is
built, and everything that does not fit is refused.
-/

namespace QuantumJobs
namespace CommandLine

/-! ## Options -/

/-- How many values an option takes. -/
inductive Takes
  | nothing
  | single
  /-- One or more, up to the next option. -/
  | several
  deriving DecidableEq, Repr

structure Switch where
  short : Char
  long : String
  takes : Takes
  /-- Whether the option may be given more than once. -/
  repeats : Bool
  accepts : String → Bool

namespace Switch

def flag (short : Char) (long : String) : Switch := ⟨short, long, .nothing, false, fun _ => true⟩

def text (short : Char) (long : String) : Switch := ⟨short, long, .single, false, fun _ => true⟩

/-- An option with a path, which must not be empty. -/
def path (short : Char) (long : String) : Switch := ⟨short, long, .single, false, (· ≠ "")⟩

/-- The same option, which may be given again and again. -/
def repeated (s : Switch) : Switch := { s with repeats := true }

/-- The same option, which takes several values at once. -/
def several (s : Switch) : Switch := { s with takes := .several }

/-- The same option, whose values must satisfy a test. -/
def checked (accepts : String → Bool) (s : Switch) : Switch := { s with accepts }

end Switch

/-- A whole number that fits a word of sixty-four bits. -/
def seconds? (text : String) : Option Nat :=
  (Text.natural? text.toList).filter (· ≤ Json.maxUnsigned)

/-- What an argument or a group of arguments says. -/
inductive Item
  | option (switch : Switch) (values : List String)
  | value (text : String)
  /-- An option that is not known, or one with too few or too many values. -/
  | misplaced

/-- An option whose values are still to come, and those that have come. -/
abbrev Pending := Option (Switch × List String)

/-- The item of an option to which no more values come. -/
def close : Pending → List Item
  | some (_, []) => [.misplaced]
  | some (s, values) => [.option s values]
  | none => []

/-- The name of a long option and the value attached to it. -/
def longForm? (arg : String) : Option (String × Option String) :=
  match arg.toList with
  | '-' :: '-' :: rest =>
      match Text.splitFirst? '=' rest with
      | some (name, value) => some (String.ofList name, some (String.ofList value))
      | none => some (String.ofList rest, none)
  | _ => none

/-- The letters after a single hyphen. -/
def shortForm? (arg : String) : Option (List Char) :=
  match arg.toList with
  | '-' :: c :: rest => some (c :: rest)
  | _ => none

/-- Reads letters that follow one hyphen: flags, and at the end perhaps an option with its value or
one whose values are still to come. -/
def readLetters (known : List Switch) : List Char → List Item × Pending
  | [] => ([], none)
  | c :: rest =>
      match known.find? (·.short = c) with
      | none => ([.misplaced], none)
      | some s =>
          match s.takes, rest with
          | .nothing, rest =>
              let (items, pending) := readLetters known rest
              (.option s [] :: items, pending)
          | _, [] => ([], some (s, []))
          | _, '=' :: value => ([.option s [String.ofList value]], none)
          | _, value => ([.option s [String.ofList value]], none)

/-- Reads a long option. -/
def readLong (known : List Switch) (name : String) (attached : Option String) :
    List Item × Pending :=
  match known.find? (·.long = name) with
  | none => ([.misplaced], none)
  | some s =>
      match s.takes, attached with
      | .nothing, none => ([.option s []], none)
      | .nothing, some _ => ([.misplaced], none)
      | _, some value => ([.option s [value]], none)
      | _, none => ([], some (s, []))

/-- Reads arguments that are not followed by a command. -/
def readItems (known : List Switch) : Pending → List String → List Item
  | pending, [] => close pending
  | pending, arg :: rest =>
      if arg = "--" then close pending ++ rest.map .value
      else
        match longForm? arg, shortForm? arg with
        | some (name, attached), _ =>
            let (items, next) := readLong known name attached
            close pending ++ items ++ readItems known next rest
        | none, some letters =>
            let (items, next) := readLetters known letters
            close pending ++ items ++ readItems known next rest
        | none, none =>
            match pending with
            | some (s, values) =>
                if s.takes = .several then readItems known (some (s, values ++ [arg])) rest
                else .option s [arg] :: readItems known none rest
            | none => .value arg :: readItems known none rest

/-! ## Commands -/

/-- What a command line asks for. -/
inductive Asked
  | command (c : Command)
  | help
  | version
  | refused
  deriving DecidableEq, Repr, Inhabited

/-- What was given to a command. -/
structure Given where
  options : List (String × List String)
  handle : Option String
  deriving Inhabited

namespace Given

def empty : Given := ⟨[], none⟩

/-- All values of an option. -/
def all (g : Given) (name : String) : List String :=
  (g.options.filter (·.1 = name)).flatMap (·.2)

def first? (g : Given) (name : String) : Option String := (g.all name).head?

def has (g : Given) (name : String) : Bool := g.options.any (·.1 = name)

def sources (g : Given) : Sources := ⟨g.first? "config", g.all "set"⟩

end Given

/-- How a command is asked for. -/
structure Form where
  name : String
  switches : List Switch
  takesHandle : Bool
  /-- The command, if nothing that it needs is missing. -/
  build : Given → Option Command

/-- Asks for diagnostics, of which the program writes none. -/
def verbose : Switch := (Switch.flag 'v' "verbose").repeated

def helpFlag : Switch := .flag 'h' "help"

def versionFlag : Switch := .flag 'V' "version"

/-- The options of all commands that talk to a backend. -/
def sourceSwitches : List Switch := [.path 'c' "config", (Switch.text 's' "set").repeated]

def submitForm : Form where
  name := "submit"
  switches := [.text 'b' "backend", (Switch.path 'i' "input").several.repeated, .path 'o' "output",
    .flag 'w' "wait"] ++ sourceSwitches
  takesHandle := false
  build g := do
    let backend ← g.first? "backend"
    if g.has "input" then
      some (.submit backend (g.all "input") g.sources (g.first? "output") (g.has "wait"))
    else none

def statusForm : Form where
  name := "status"
  switches := sourceSwitches
  takesHandle := true
  build g := g.handle.map fun handle => .status handle g.sources

def waitForm : Form where
  name := "wait"
  switches := (Switch.text 't' "timeout").checked (fun s => (seconds? s).isSome) :: sourceSwitches
  takesHandle := true
  build g := g.handle.map fun handle => .wait handle ((g.first? "timeout").bind seconds?) g.sources

def resultForm : Form where
  name := "result"
  switches := .text 'f' "format" :: sourceSwitches
  takesHandle := true
  build g := g.handle.map fun handle =>
    .result handle ((g.first? "format").getD "table") g.sources

def backendsForm : Form := ⟨"backends", [], false, fun _ => some .backends⟩

def versionForm : Form := ⟨"version", [], false, fun _ => some .version⟩

def forms : List Form :=
  [submitForm, statusForm, waitForm, resultForm, backendsForm, versionForm]

/-- Collects items from left to right; the first that does not fit is refused. -/
def Form.gather (form : Form) : Given → List Item → Asked
  | g, [] =>
      match form.build g with
      | some c => .command c
      | none => .refused
  | _, .misplaced :: _ => .refused
  | g, .value text :: rest =>
      if form.takesHandle && g.handle.isNone then form.gather { g with handle := some text } rest
      else .refused
  | g, .option s values :: rest =>
      if s.long = helpFlag.long then .help
      else if (g.has s.long && !s.repeats) || !values.all s.accepts then .refused
      else form.gather { g with options := g.options ++ [(s.long, values)] } rest

def Form.read (form : Form) (args : List String) : Asked :=
  form.gather .empty (readItems (form.switches ++ [verbose, helpFlag]) none args)

/-- The options that stand before the command. -/
def leadingSwitches : List Switch := [verbose, helpFlag, versionFlag]

/-- What leading options ask for, unless they leave it to the command. -/
def leading? : List Item → Option Asked
  | [] => none
  | .option s _ :: rest =>
      if s.long = helpFlag.long then some .help
      else if s.long = versionFlag.long then some .version
      else leading? rest
  | _ => some .refused

/-- The items of an argument before the command. -/
def leadingItems (arg : String) : List Item :=
  match longForm? arg, shortForm? arg with
  | some (name, attached), _ => (readLong leadingSwitches name attached).1
  | none, some letters => (readLetters leadingSwitches letters).1
  | none, none => [.misplaced]

/-- Reads the arguments of the program. -/
def readArguments : List String → Asked
  | [] => .refused
  | arg :: rest =>
      match forms.find? (·.name = arg) with
      | some form => form.read rest
      | none =>
          if arg = "help" then
            if rest.length ≤ 1 && rest.all (("help" :: forms.map (·.name)).contains ·) then .help
            else .refused
          else (leading? (leadingItems arg)).getD (readArguments rest)

end CommandLine
end QuantumJobs
