import Letterpress.Json.Value
import Letterpress.Text.Digit
import Letterpress.Text.Escape
import Letterpress.Text.Join

/-!
# Arguments

Reading the arguments of a command: options, which start with a hyphen, and one slot
for what does not. The slot takes a single argument, or an argument with all that
follow it.

Long options may be shortened as long as they stay unique. A value follows its option,
or is joined to it. Short options without a value may be joined to one another. Two
hyphens end the options; joined to an option, they stand for a list of no values.

What fits nowhere is left over, and it is up to the caller to complain.

## Main definitions

* `Flag`, `Grammar`: The options and the slot of a command.
* `Role`, `Grammar.roleOf`: What an argument is, before anything is read.
* `UsageError`: What is wrong with the arguments.
* `Cluster`: The options in one argument.
* `Findings`, `Grammar.read`: What was found in them.
-/

namespace Letterpress.CommandLine

/-- An option: its names, of which the longest is last, and whether a value belongs to
    it. If there are choices, the value has to be one of them. -/
structure Flag where
  names : List String
  takesValue : Bool
  choices : List String := []
  deriving DecidableEq, Repr

/-- What may stand in the place for arguments that are no options. -/
inductive Slot where
  /-- Nothing. -/
  | none
  /-- One argument, which has to be there. -/
  | one (name : String)
  /-- One argument with all that follow it, or nothing. -/
  | rest
  deriving DecidableEq, Repr

/-- The arguments that a command takes. -/
structure Grammar where
  command : String
  flags : List Flag
  slot : Slot

/-- What is wrong with the arguments of a command. -/
inductive UsageProblem where
  | ambiguous (argument : String) (candidates : List String)
  | noValue (option : String)
  | unwantedValue (option value : String)
  | badChoice (argument value : String) (choices : List String)
  | missing (name : String)
  | leftOver (arguments : List String)
  deriving DecidableEq, Repr

/-- A problem with the arguments of a command. -/
structure UsageError where
  command : String
  problem : UsageProblem
  deriving DecidableEq, Repr

/-- The problem in words. -/
def UsageProblem.message : UsageProblem → String
  | ambiguous argument candidates =>
    "ambiguous option: " ++ argument ++ " could match " ++ Text.joinWith ", " candidates
  | noValue option => "argument " ++ option ++ ": expected one argument"
  | unwantedValue option value =>
    "argument " ++ option ++ ": ignored explicit argument " ++ Text.quoted value
  | badChoice argument value choices =>
    "argument " ++ argument ++ ": invalid choice: " ++ Text.quoted value ++ " (choose from "
      ++ Text.joinWith ", " (choices.map Text.quoted) ++ ")"
  | missing name => "the following arguments are required: " ++ name
  | leftOver arguments => "unrecognized arguments: " ++ Text.joinWith " " arguments

/-- The error in words. -/
def UsageError.message (e : UsageError) : String :=
  e.command ++ ": error: " ++ e.problem.message

/-- The option that asks for help. -/
def helpFlag : Flag :=
  ⟨["-h", "--help"], false, []⟩

/-- The names of an option in messages. -/
def Flag.title (f : Flag) : String :=
  Text.joinWith "/" f.names

/-- What an argument is, as far as it can be told from its spelling. -/
inductive Role where
  /-- An option with the value that is joined to it. -/
  | option (flag : Flag) (name : String) (value : Option String)
  /-- Something that looks like an option. -/
  | stranger
  /-- The end of the options. -/
  | separator
  /-- Anything else. -/
  | plain
  deriving DecidableEq, Repr

/-- The text is a negative number. -/
def isNegativeNumber (s : List Char) : Bool :=
  match s with
  | '-' :: digits =>
    let rest := digits.dropWhile Text.isDecimalDigit
    match rest with
    | [] => digits ≠ []
    | '.' :: places => places ≠ [] && places.all Text.isDecimalDigit
    | _ => false
  | _ => false

/-- A text cut at its first equals sign. -/
def cutValue (s : String) : String × Option String :=
  let name := s.toList.takeWhile (· ≠ '=')
  match s.toList.drop name.length with
  | _ :: value => (String.ofList name, some (String.ofList value))
  | [] => (s, none)

namespace Grammar

/-- The names of all options with the options. -/
def named (g : Grammar) : List (String × Flag) :=
  g.flags.flatMap fun f => f.names.map fun name => (name, f)

/-- The options that a shortened long option may stand for. -/
def longCandidates (g : Grammar) (s : String) : List (String × Role) :=
  let (start, value) := cutValue s
  (g.named.filter fun n => Text.startsWith start n.1).map fun n =>
    (n.1, .option n.2 n.1 value)

/-- The options that a short option joined to its value may stand for. -/
def shortCandidates (g : Grammar) (s : String) : List (String × Role) :=
  let start := String.ofList (s.toList.take 2)
  (g.named.filter fun n => n.1 = start || Text.startsWith s n.1).map fun n =>
    if n.1 = start then (n.1, .option n.2 n.1 (some (String.ofList (s.toList.drop 2))))
    else (n.1, .option n.2 n.1 none)

/-- The options that an argument may stand for without being one to the letter. -/
def candidates (g : Grammar) (s : String) : List (String × Role) :=
  if Text.startsWith "--" s then g.longCandidates s else g.shortCandidates s

/-- The option that an argument is to the letter, if it is one. -/
def spelled? (g : Grammar) (s : String) : Option Role :=
  match g.named.lookup s with
  | some flag => some (.option flag s none)
  | none =>
    match cutValue s with
    | (name, some value) => (g.named.lookup name).map fun flag => .option flag name (some value)
    | (_, none) => none

/-- What an argument before the end of the options is. -/
def roleOf (g : Grammar) (s : String) : Except UsageError Role :=
  if !Text.startsWith "-" s || s = "-" then return .plain
  else match g.spelled? s with
    | some role => return role
    | none =>
      match g.candidates s with
      | [(_, role)] => return role
      | [] =>
        return if isNegativeNumber s.toList || s.toList.contains ' ' then .plain else .stranger
      | several => throw ⟨g.command, .ambiguous s (several.map Prod.fst)⟩

/-- What the arguments are. Behind the end of the options there are none. -/
def roles (g : Grammar) : List String → Except UsageError (List (String × Role))
  | [] => return []
  | "--" :: rest => return ("--", .separator) :: rest.map fun s => (s, .plain)
  | s :: rest => do
    let role ← g.roleOf s
    return (s, role) :: (← g.roles rest)

end Grammar

/-- What was found in the arguments of a command. -/
structure Findings where
  /-- The options by their longest names with their values, in order. The value of an
      option that takes none is true. -/
  options : List (String × Json) := []
  /-- The arguments in the slot. -/
  slot : Option (List String) := none
  /-- What fits nowhere. -/
  leftOver : List String := []

namespace Findings

/-- The value of an option; the last one counts. -/
def value? (f : Findings) (name : String) : Option Json :=
  (f.options.filter fun o => o.1 = name).getLast?.map Prod.snd

/-- The value of an option, if it is a text. -/
def text? (f : Findings) (name : String) : Option String :=
  match f.value? name with
  | some (.str s) => some s
  | _ => none

/-- The option was given. -/
def has (f : Findings) (name : String) : Bool :=
  f.options.any fun o => o.1 = name

end Findings

/-- Why the arguments were not read to their end. -/
inductive Stop where
  | help
  | error (e : UsageError)
  deriving DecidableEq, Repr

/-- The value that a text gives to an option. Two hyphens give it none. -/
def optionValue (text : String) : Json :=
  if text = "--" then .arr [] else .str text

/-- The value may be given to an option. -/
def Flag.admits (flag : Flag) : Json → Bool
  | .str text => flag.choices.isEmpty || flag.choices.contains text
  | _ => true

/-- Records an option. Asking for help stops everything. -/
def Findings.add (f : Findings) (g : Grammar) (flag : Flag) (value : Option String) :
    Except Stop Findings :=
  if flag = helpFlag then throw .help
  else
    let given := value.elim (.bool true) optionValue
    if flag.admits given then
      return { f with options := f.options ++ [(flag.names.getLast?.getD "", given)] }
    else throw (.error ⟨g.command, .badChoice flag.title (value.getD "") flag.choices⟩)

/-- Records options that take no value. -/
def Findings.addAll (f : Findings) (g : Grammar) (flags : List Flag) : Except Stop Findings :=
  flags.foldlM (fun f flag => f.add g flag none) f

/-- Options in one argument: those that take no value, and the last one with the value
    that is joined to it. -/
structure Cluster where
  before : List Flag
  last : Flag
  value : Option String

namespace Grammar

/-- The options in an argument that starts with a short option and has more characters
    joined to it: its value, or further short options. -/
def shortCluster (g : Grammar) (before : List Flag) (flag : Flag) :
    List Char → Except Stop Cluster
  | [] => return ⟨before, flag, none⟩
  | c :: rest =>
    if flag.takesValue then return ⟨before, flag, some (String.ofList (c :: rest))⟩
    else match g.named.lookup ("-" ++ c.toString) with
      | some next => g.shortCluster (before ++ [flag]) next rest
      | none => throw (.error ⟨g.command, .unwantedValue flag.title (String.ofList (c :: rest))⟩)

/-- The options in an argument that is an option with something joined to it. -/
def cluster (g : Grammar) (flag : Flag) (name : String) (value : Option String) :
    Except Stop Cluster :=
  match value with
  | none => return ⟨[], flag, none⟩
  | some value =>
    if flag.takesValue then return ⟨[], flag, some value⟩
    else if value.isEmpty || Text.startsWith "--" name then
      throw (.error ⟨g.command, .unwantedValue flag.title value⟩)
    else g.shortCluster [] flag value.toList

end Grammar

/-- The arguments without an end of options right at their start. -/
def afterSeparator : List (String × Role) → List (String × Role)
  | (_, .separator) :: rest => rest
  | arguments => arguments

namespace Grammar

/-- Puts arguments into the slot, if it is free and they fit; what is left of them. -/
def fill (g : Grammar) (f : Findings) (arguments : List (String × Role)) :
    Option (Findings × List (String × Role)) :=
  match f.slot, g.slot, afterSeparator arguments with
  | none, .one _, (s, .plain) :: rest =>
    some ({ f with slot := some [s] }, afterSeparator rest)
  | none, .rest, (_, .plain) :: _ =>
    some ({ f with slot := some (arguments.map Prod.fst) }, [])
  | _, _, _ => none

/-- Options with the value of the last one, which the next argument is if the option
    needs one, and the arguments that are left. -/
def completed (g : Grammar) (c : Cluster) (arguments : List (String × Role)) :
    Except Stop (Cluster × List (String × Role)) :=
  if !c.last.takesValue || c.value.isSome then return (c, arguments)
  else match arguments with
    | (value, .plain) :: rest => return ({ c with value := some value }, rest)
    | _ => throw (.error ⟨g.command, .noValue c.last.title⟩)

/-- Reads arguments of at most `fuel` options and leftovers. -/
def scan (g : Grammar) : Nat → Findings → List (String × Role) → Except Stop Findings
  | 0, f, _ => return f
  | _, f, [] => return f
  | fuel + 1, f, (s, role) :: rest =>
    match g.fill f ((s, role) :: rest) with
    | some (f, rest) => g.scan fuel f rest
    | none =>
      match role with
      | .option flag name value => do
        let (c, rest) ← g.completed (← g.cluster flag name value) rest
        g.scan fuel (← (← f.addAll g c.before).add g c.last c.value) rest
      | _ => g.scan fuel { f with leftOver := f.leftOver ++ [s] } rest

/-- Something has to be in the slot. -/
def requireSlot (g : Grammar) (f : Findings) : Except Stop Findings :=
  match g.slot, f.slot with
  | .one name, none => throw (.error ⟨g.command, .missing name⟩)
  | _, _ => return f

/-- What is found in arguments. -/
def read (g : Grammar) (arguments : List String) : Except Stop Findings := do
  let roles ← (g.roles arguments).mapError Stop.error
  g.requireSlot (← g.scan arguments.length {} roles)

end Grammar

end Letterpress.CommandLine
