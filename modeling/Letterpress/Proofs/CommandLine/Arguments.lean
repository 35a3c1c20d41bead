import Letterpress.CommandLine.Options
import Letterpress.Proofs.Session

/-!
# Arguments of Exports and Inspections

A path that does not start with a hyphen is taken for what it is, wherever it stands. So
the arguments of an export and of an inspection are read the same for all such paths, and
the log is left at its default.

## Main definitions

* `exportArguments`, `inspectArguments`: The arguments of the commands.

## Theorems

* `roleOf_plain`: What does not start with a hyphen is no option.
* `read_main`: Everything from the command on is left to the command.
* `read_exportArguments`, `read_inspectArguments`: What the arguments say.
-/

namespace Letterpress.CommandLine

/-- The argument does not start with a hyphen. -/
def IsPlain (s : String) : Prop :=
  Text.startsWith "-" s = false

/-- The options of an export: perhaps without tables, perhaps into a directory. -/
def exportFlags (absolute : Bool) (output : Option String) : List String :=
  (if absolute then ["--absolute"] else []) ++ output.elim [] fun directory => ["-o", directory]

/-- The arguments of an export. -/
def exportArguments (path : String) (absolute : Bool) (output : Option String) : List String :=
  "export" :: path :: exportFlags absolute output

/-- The arguments of an inspection, perhaps as structured data. -/
def inspectArguments (path : String) (json : Bool) : List String :=
  ["inspect", path] ++ if json then ["--json"] else []

namespace Grammar

variable {g : Grammar} {s : String} {rest : List String} {role : Role}
  {roles : List (String × Role)}

theorem roleOf_plain (g : Grammar) (h : IsPlain s) : g.roleOf s = .ok .plain := by
  rw [roleOf, h]
  rfl

/-- The roles of arguments, one after another, up to the end of the options. -/
theorem roles_cons (hs : s ≠ "--") (hrole : g.roleOf s = .ok role)
    (hrest : g.roles rest = .ok roles) : g.roles (s :: rest) = .ok ((s, role) :: roles) := by
  rw [Grammar.roles, hrole, hrest]
  · rfl
  · exact hs

theorem ne_separator (h : IsPlain s) : s ≠ "--" := by
  rintro rfl
  have hplain : Text.startsWith "-" "--" = false := h
  exact absurd hplain (by decide)

theorem roles_plain (h : IsPlain s) (hrest : g.roles rest = .ok roles) :
    g.roles (s :: rest) = .ok ((s, .plain) :: roles) :=
  roles_cons (ne_separator h) (roleOf_plain g h) hrest

/-- The roles are those of the arguments. -/
theorem roles_fst {arguments : List String} (h : g.roles arguments = .ok roles) :
    roles.map Prod.fst = arguments := by
  induction arguments generalizing roles with
  | nil =>
      obtain rfl := Except.ok.inj h
      rfl
  | cons s rest ih =>
      by_cases hs : s = "--"
      · subst hs
        obtain rfl := Except.ok.inj h
        simp [Function.comp_def]
      · rw [Grammar.roles] at h
        · simp only [except_bind_ok, except_pure_ok] at h
          rcases h with ⟨role, -, later, hlater, rfl⟩
          rw [List.map_cons, ih hlater]
        · exact hs

/-- The slot takes one argument only. -/
theorem fill_taken (g : Grammar) {f : Findings} {found : List String} (h : f.slot = some found)
    (arguments : List (String × Role)) : g.fill f arguments = none := by
  unfold Grammar.fill
  rw [h]

theorem scan_nil (g : Grammar) (fuel : Nat) (f : Findings) : g.scan fuel f [] = .ok f := by
  cases fuel <;> rfl

end Grammar

/-- Everything from the command on is left to the command. -/
theorem read_main {name : String} {arguments : List String} {roles : List (String × Role)}
    (hname : IsPlain name) (hroles : mainGrammar.roles arguments = .ok roles) :
    mainGrammar.read (name :: arguments) = .ok { slot := some (name :: arguments) } := by
  have hfill : mainGrammar.fill {} ((name, .plain) :: roles)
      = some ({ slot := some (name :: arguments) }, []) := by
    rw [← Grammar.roles_fst hroles]
    rfl
  rw [Grammar.read, Grammar.roles_plain hname hroles]
  change (mainGrammar.scan (arguments.length + 1) {} ((name, .plain) :: roles) >>= _) = _
  have hscan : mainGrammar.scan (arguments.length + 1) {} ((name, .plain) :: roles)
      = .ok { slot := some (name :: arguments) } := by
    rw [Grammar.scan.eq_def]
    dsimp only
    rw [hfill]
    exact Grammar.scan_nil _ _ _
  rw [hscan]
  rfl

/-- What is asked for if nothing is said about the log. -/
def Options.of (command : Command) : Options :=
  ⟨.str "WARNING", .null, command⟩

theorem read_command {name : String} {arguments : List String} {roles : List (String × Role)}
    {command : Command} (hname : IsPlain name)
    (hroles : mainGrammar.roles arguments = .ok roles)
    (hcommand : readCommand name arguments = .ok (command, [])) :
    Options.read (name :: arguments) = .ok (.of command) := by
  rw [Options.read, read_main hname hroles]
  change (readCommand name arguments >>= _) = _
  rw [hcommand]
  rfl

/-- An inspection is read for what it is. -/
theorem read_inspectArguments {path : String} (hpath : IsPlain path) (json : Bool) :
    Options.read (inspectArguments path json) = .ok (.of (.inspect ⟨path, json⟩)) := by
  cases json with
  | false =>
      have hmain : mainGrammar.roles [path] = .ok [(path, .plain)] :=
        Grammar.roles_plain hpath rfl
      have hroles : inspectGrammar.roles [path] = .ok [(path, .plain)] :=
        Grammar.roles_plain hpath rfl
      have hinspect : IsPlain "inspect" := rfl
      refine read_command hinspect hmain ?_
      change (inspectGrammar.read [path] >>= _) = _
      rw [Grammar.read, hroles]
      rfl
  | true =>
      -- What is an option of the command is none before the command.
      have hmain : mainGrammar.roles [path, "--json"]
          = .ok [(path, .plain), ("--json", .stranger)] :=
        Grammar.roles_plain hpath (Grammar.roles_cons (by decide) rfl rfl)
      have hroles : inspectGrammar.roles [path, "--json"]
          = .ok [(path, .plain), ("--json", .option ⟨["--json"], false, []⟩ "--json" none)] :=
        Grammar.roles_plain hpath (Grammar.roles_cons (by decide) rfl rfl)
      have hinspect : IsPlain "inspect" := rfl
      refine read_command hinspect hmain ?_
      change (inspectGrammar.read [path, "--json"] >>= _) = _
      rw [Grammar.read, hroles]
      rfl

/-- The flag that keeps absolute positions. -/
def absoluteFlag : Flag :=
  ⟨["--absolute"], false, []⟩

/-- The flag that names a directory. -/
def outputFlag : Flag :=
  ⟨["-o", "--output"], true, []⟩

section Export

variable {f : Findings} {path : String} (hslot : f.slot = some [path]) (fuel : Nat)

include hslot

theorem scan_absolute (rest : List (String × Role)) :
    exportGrammar.scan (fuel + 1) f (("--absolute", .option absoluteFlag "--absolute" none) :: rest)
      = exportGrammar.scan fuel { f with options := f.options ++ [("--absolute", .bool true)] }
        rest := by
  rw [Grammar.scan, Grammar.fill_taken exportGrammar hslot]
  rfl

/-- A directory that starts with no hyphen is taken as the value of the option before it. -/
theorem scan_output {directory : String} (h : IsPlain directory) :
    exportGrammar.scan (fuel + 1) f [("-o", .option outputFlag "-o" none), (directory, .plain)]
      = .ok { f with options := f.options ++ [("--output", .str directory)] } := by
  have hvalue : optionValue directory = .str directory := if_neg (Grammar.ne_separator h)
  have hadd : f.add exportGrammar outputFlag (some directory)
      = .ok { f with options := f.options ++ [("--output", .str directory)] } := by
    unfold Findings.add
    rw [if_neg (by decide), Option.elim_some, hvalue]
    rfl
  rw [Grammar.scan, Grammar.fill_taken exportGrammar hslot]
  change (f.add exportGrammar outputFlag (some directory) >>= fun f =>
    exportGrammar.scan fuel f []) = _
  rw [hadd]
  exact Grammar.scan_nil _ _ _

end Export

/-- The roles of the options of an export. -/
def exportRoles (absoluteRole outputRole : Role) (absolute : Bool) (output : Option String) :
    List (String × Role) :=
  (if absolute then [("--absolute", absoluteRole)] else [])
    ++ output.elim [] fun directory => [("-o", outputRole), (directory, .plain)]

section Flags

variable {absolute : Bool} {output : Option String}

theorem roles_exportFlags {g : Grammar} {absoluteRole outputRole : Role}
    (habsolute : g.roleOf "--absolute" = .ok absoluteRole)
    (hoption : g.roleOf "-o" = .ok outputRole)
    (houtput : ∀ directory ∈ output, IsPlain directory) :
    g.roles (exportFlags absolute output)
      = .ok (exportRoles absoluteRole outputRole absolute output) := by
  have hdirectory : g.roles (output.elim [] fun directory => ["-o", directory])
      = .ok (output.elim [] fun directory => [("-o", outputRole), (directory, .plain)]) := by
    cases output with
    | none => rfl
    | some directory =>
        exact Grammar.roles_cons (by decide) hoption
          (Grammar.roles_plain (houtput directory rfl) rfl)
  cases absolute with
  | false => exact hdirectory
  | true => exact Grammar.roles_cons (by decide) habsolute hdirectory

/-- The options of an export are found one after another. -/
theorem read_exportFlags {path : String} (hpath : IsPlain path)
    (houtput : ∀ directory ∈ output, IsPlain directory) :
    exportGrammar.read (path :: exportFlags absolute output) = .ok {
      slot := some [path]
      options := (if absolute then [("--absolute", .bool true)] else [])
        ++ output.elim [] fun directory => [("--output", .str directory)] } := by
  have hroles : exportGrammar.roles (path :: exportFlags absolute output)
      = .ok ((path, .plain) :: exportRoles (.option absoluteFlag "--absolute" none)
        (.option outputFlag "-o" none) absolute output) :=
    Grammar.roles_plain hpath (roles_exportFlags rfl rfl houtput)
  have hscan : exportGrammar.scan (exportFlags absolute output).length { slot := some [path] }
      (exportRoles (.option absoluteFlag "--absolute" none) (.option outputFlag "-o" none)
        absolute output) = .ok {
      slot := some [path]
      options := (if absolute then [("--absolute", .bool true)] else [])
        ++ output.elim [] fun directory => [("--output", .str directory)] } := by
    -- The path has been taken, and each flag is scanned on its own.
    have hslot : ∀ options : List (String × Json),
        (⟨options, some [path], []⟩ : Findings).slot = some [path] := fun _ => rfl
    cases absolute with
    | false =>
        cases output with
        | none => rfl
        | some directory => exact scan_output (hslot []) 1 (houtput directory rfl)
    | true =>
        cases output with
        | none => exact scan_absolute (hslot []) 0 []
        | some directory =>
            refine (scan_absolute (hslot []) 2 _).trans ?_
            exact scan_output (hslot _) 1 (houtput directory rfl)
  rw [Grammar.read, hroles]
  change (exportGrammar.scan (exportFlags absolute output).length { slot := some [path] }
    (afterSeparator (exportRoles _ _ absolute output)) >>= _) = _
  have hseparator : afterSeparator (exportRoles (.option absoluteFlag "--absolute" none)
      (.option outputFlag "-o" none) absolute output)
      = exportRoles (.option absoluteFlag "--absolute" none) (.option outputFlag "-o" none)
        absolute output := by
    cases absolute <;> cases output <;> rfl
  rw [hseparator, hscan]
  rfl

end Flags

/-- So is an export. -/
theorem read_exportArguments {path : String} (hpath : IsPlain path) (absolute : Bool)
    {output : Option String} (houtput : ∀ directory ∈ output, IsPlain directory) :
    Options.read (exportArguments path absolute output)
      = .ok (.of (.mail ⟨path, output, absolute, none, none⟩)) := by
  have hexport : IsPlain "export" := rfl
  refine read_command hexport
    (Grammar.roles_plain hpath (roles_exportFlags (g := mainGrammar) rfl rfl houtput)) ?_
  change (exportGrammar.read (path :: exportFlags absolute output) >>= _) = _
  rw [read_exportFlags hpath houtput]
  cases absolute <;> cases output <;> rfl

end Letterpress.CommandLine
