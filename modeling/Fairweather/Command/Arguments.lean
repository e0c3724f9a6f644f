import Fairweather.Number.Numeral
import Fairweather.Plan.Planner

/-!
# Command line arguments

Options take a value, flags take none. A value follows its option as the next argument, behind an
equals sign, or, for a one-letter option, at once; flags of one letter may share a hyphen with each
other and with one option at the end. What begins with a hyphen is never a value of the argument
before it, but a hyphen alone is.

An option whose value is the next argument is settled only when the next option or flag begins, or
at the end. So a fault in such a value is reported after an unknown argument that follows it, and
before the fault of a known one.
-/

namespace Fairweather

namespace Command

/-- Why arguments are refused, or what they ask for instead of a run. -/
inductive UsageFault where
  | missingArgument
  | unknownArgument
  | noValue
  | invalidNumber
  | repeated
  | unneededValue
  | help
  | version
deriving DecidableEq

def UsageFault.message : UsageFault → String
  | missingArgument => "the option --data is required"
  | unknownArgument => "unexpected argument"
  | noValue => "a value is required"
  | invalidNumber => "invalid value for --tolerance"
  | repeated => "an argument cannot be used multiple times"
  | unneededValue => "unexpected value for a flag"
  | help => "Find favourable hours in a saved hourly forecast.\n\n" ++
    "Options:\n" ++
    "  -d, --data <DATA>            saved forecast (JSON file)\n" ++
    "  -e, --expr <EXPR>            expression, e.g. \"wind < 20\" (repeatable)\n" ++
    "      --plan <PLAN>            file with one expression per line\n" ++
    "      --tolerance <TOLERANCE>  tolerance in degrees for the location\n" ++
    "      --windows                group matching hours into windows\n" ++
    "  -v, --verbose                enable debug logging\n" ++
    "  -h, --help                   print help\n" ++
    "  -V, --version                print version"
  | version => "planner 0.1.0"

/-- What a run is asked to do. -/
structure Arguments where
  data : String
  expressions : List String
  plan : Option String
  tolerance : Binary64
  windows : Bool
  verbose : Bool
deriving DecidableEq

/-- The options, which take a value. -/
inductive Opt where
  | data
  | expression
  | plan
  | tolerance
deriving DecidableEq

/-- The flags, which take none. -/
inductive Flag where
  | windows
  | verbose
  | help
  | version
deriving DecidableEq

/-- An option or a flag. -/
inductive Switch where
  | opt (o : Opt)
  | flag (f : Flag)
deriving DecidableEq

/-- The switch that a name behind two hyphens stands for. Names cannot be shortened. -/
def Switch.ofName? : String → Option Switch
  | "data" => some (.opt .data)
  | "expr" => some (.opt .expression)
  | "plan" => some (.opt .plan)
  | "tolerance" => some (.opt .tolerance)
  | "windows" => some (.flag .windows)
  | "verbose" => some (.flag .verbose)
  | "help" => some (.flag .help)
  | "version" => some (.flag .version)
  | _ => none

/-- The switch that a letter behind one hyphen stands for. -/
def Switch.ofLetter? : Char → Option Switch
  | 'd' => some (.opt .data)
  | 'e' => some (.opt .expression)
  | 'v' => some (.flag .verbose)
  | 'h' => some (.flag .help)
  | 'V' => some (.flag .version)
  | _ => none

/-- The arguments that have been read so far. -/
structure Draft where
  data : Option String
  expressions : List String
  plan : Option String
  tolerance : Option Binary64
  windows : Bool
  verbose : Bool
  /-- An option that is not settled yet, and its value if that has been read. -/
  pending : Option (Opt × Option String)
  /-- A double hyphen has been read, so no switch can follow. -/
  closed : Bool

namespace Draft

/-- Nothing has been read. -/
def empty : Draft := ⟨none, [], none, none, false, false, none, false⟩

/-- An option with its value. Only expressions may be given more than once. -/
def supply (draft : Draft) (o : Opt) (value : String) : Except UsageFault Draft :=
  match o with
  | .data =>
    if draft.data.isSome then .error .repeated
    else if value = "" then .error .noValue
    else .ok { draft with data := some value }
  | .expression => .ok { draft with expressions := draft.expressions ++ [value] }
  | .plan =>
    if draft.plan.isSome then .error .repeated
    else if value = "" then .error .noValue
    else .ok { draft with plan := some value }
  | .tolerance =>
    if draft.tolerance.isSome then .error .repeated
    else match Binary64.ofText? value with
      | none => .error .invalidNumber
      | some x => .ok { draft with tolerance := some x }

/-- The option that is not settled yet gets its value. -/
def settle (draft : Draft) : Except UsageFault Draft :=
  match draft.pending with
  | none => .ok draft
  | some (_, none) => .error .noValue
  | some (o, some value) => ({ draft with pending := none }).supply o value

/-- A flag. -/
def raise (draft : Draft) (f : Flag) : Except UsageFault Draft := do
  let draft ← draft.settle
  match f with
  | .windows => if draft.windows then throw .repeated else return { draft with windows := true }
  | .verbose => if draft.verbose then throw .repeated else return { draft with verbose := true }
  | .help => throw .help
  | .version => throw .version

/-- An option, with the value that is attached to it if there is one. -/
def start (draft : Draft) (o : Opt) (attached : Option String) : Except UsageFault Draft := do
  let draft ← draft.settle
  match attached with
  | some value => draft.supply o value
  | none => return { draft with pending := some (o, none) }

/-- A switch by its name, with what follows the first equals sign. -/
def takeLong (draft : Draft) (name : String) (attached : Option String) :
    Except UsageFault Draft :=
  match Switch.ofName? name, attached with
  | none, _ => .error .unknownArgument
  | some (.opt o), attached => draft.start o attached
  | some (.flag _), some _ => .error .unneededValue
  | some (.flag f), none => draft.raise f

/-- Switches by their letters. What follows the letter of an option is its value. -/
def takeShort (draft : Draft) : List Char → Except UsageFault Draft
  | [] => .ok draft
  | letter :: rest =>
    match Switch.ofLetter? letter, rest with
    | none, _ => .error .unknownArgument
    | some (.opt o), [] => draft.start o none
    | some (.opt o), '=' :: value => draft.start o (some (String.ofList value))
    | some (.opt o), value => draft.start o (some (String.ofList value))
    | some (.flag f), rest =>
      match draft.raise f with
      | .error fault => .error fault
      | .ok draft => takeShort draft rest

/-- An argument that is no switch: the value of the option before it. -/
def takeValue (draft : Draft) (value : String) : Except UsageFault Draft :=
  match draft.pending with
  | some (o, none) => .ok { draft with pending := some (o, some value) }
  | _ => .error .unknownArgument

/-- One more argument. -/
def take (draft : Draft) (argument : String) : Except UsageFault Draft :=
  if draft.closed then .error .unknownArgument
  else match argument.toList with
    | ['-', '-'] => .ok { draft with closed := true }
    | '-' :: '-' :: long =>
      let name := String.ofList (long.takeWhile (· ≠ '='))
      match long.dropWhile (· ≠ '=') with
      | [] => draft.takeLong name none
      | _ :: value => draft.takeLong name (some (String.ofList value))
    | '-' :: letter :: letters => draft.takeShort (letter :: letters)
    | _ => draft.takeValue argument

/-- The arguments of a run, when all have been read. -/
def finish (draft : Draft) : Except UsageFault Arguments := do
  let draft ← draft.settle
  match draft.data with
  | none => throw .missingArgument
  | some data =>
    return ⟨data, draft.expressions, draft.plan, draft.tolerance.getD defaultTolerance,
      draft.windows, draft.verbose⟩

end Draft

/-- The arguments that follow the program's name. -/
def Arguments.ofList (arguments : List String) : Except UsageFault Arguments := do
  let draft ← arguments.foldlM Draft.take Draft.empty
  draft.finish

end Command

end Fairweather
