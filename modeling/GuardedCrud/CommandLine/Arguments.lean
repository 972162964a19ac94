import GuardedCrud.Settings.Basic

/-!
# Command line arguments

Switches may stand before and after the name of the command.  A value may be attached to its switch or follow it; a
value that follows does not begin with a hyphen, unless it is one, and no value is empty.  A switch stands at most
once on each side of the command, except the one that names schemas.
-/

namespace GuardedCrud.CommandLine

/-- A switch of the command line. -/
inductive Switch
  | config
  | verbose
  | schema
  | out
  | force
  | dryRun
  deriving DecidableEq, Repr

namespace Switch

/-- The long name. -/
def long : Switch → String
  | config => "config"
  | verbose => "verbose"
  | schema => "schema"
  | out => "out"
  | force => "force"
  | dryRun => "dry-run"

/-- The letter, if the switch has one. -/
def short? : Switch → Option Char
  | verbose => some 'v'
  | schema => some 's'
  | out => some 'o'
  | _ => none

/-- The switch has a value. -/
def hasValue : Switch → Bool
  | config | schema | out => true
  | verbose | force | dryRun => false

/-- The switch may stand several times. -/
def repeats : Switch → Bool
  | schema => true
  | _ => false

end Switch

/-- The commands. -/
inductive CommandName
  | generate
  | inspect
  | init
  deriving DecidableEq, Repr

namespace CommandName

/-- The command of a name. -/
def ofText? : String → Option CommandName
  | "generate" => some generate
  | "inspect" => some inspect
  | "init" => some init
  | _ => none

/-- The switches that may follow the command. -/
def switches : CommandName → List Switch
  | generate => [.config, .verbose, .schema, .out, .force, .dryRun]
  | inspect => [.config, .verbose, .schema]
  | init => [.config, .verbose, .force]

end CommandName

/-- The switches that may stand before the command. -/
def commonSwitches : List Switch := [.config, .verbose]

/-- A switch with its value; without one the text is empty. -/
abbrev Given := Switch × String

/-- A value is not empty. -/
def value? (text : List Char) : Option String := if text.isEmpty then none else some (String.ofList text)

/-- The argument may follow a switch as its value. -/
def followingValue? (arg : String) : Option String :=
  match arg.toList with
  | '-' :: _ :: _ => none
  | text => value? text

/-- A switch by its long name, with what is attached to it after an equals sign. -/
def splitLong (text : List Char) : List Char × Option (List Char) :=
  match text.dropWhile (· != '=') with
  | [] => (text, none)
  | _ :: attached => (text.takeWhile (· != '='), some attached)

/-- What an argument that begins with a hyphen gives: switches, and one more whose value follows. -/
structure Cluster where
  given : List Given
  pending : Option Switch

/-- A long switch. -/
def readLong (allowed : List Switch) (text : List Char) : Option Cluster :=
  let (name, attached) := splitLong text
  (allowed.find? fun s => s.long.toList == name).bind fun s =>
    match attached with
    | none => some (if s.hasValue then ⟨[], some s⟩ else ⟨[(s, "")], none⟩)
    | some text => if s.hasValue then (value? text).map fun v => ⟨[(s, v)], none⟩ else none

/-- Letters after one hyphen.  What stands after the letter of a switch with a value is the value. -/
def readLetters (allowed : List Switch) : List Char → Option Cluster
  | [] => some ⟨[], none⟩
  | c :: rest =>
    (allowed.find? fun s => s.short? == some c).bind fun s =>
      if s.hasValue then
        match rest with
        | [] => some ⟨[], some s⟩
        | '=' :: text => (value? text).map fun v => ⟨[(s, v)], none⟩
        | text => (value? text).map fun v => ⟨[(s, v)], none⟩
      else (readLetters allowed rest).map fun c => { c with given := (s, "") :: c.given }

/-- Switches up to the first argument that is none, and the arguments from there.  `pending` is a switch whose value
comes next; two hyphens end the switches. -/
def readSwitches (allowed : List Switch) (pending : Option Switch) :
    List String → Option (List Given × List String)
  | [] => if pending.isNone then some ([], []) else none
  | arg :: rest =>
    match pending with
    | some s =>
      (followingValue? arg).bind fun v =>
        (readSwitches allowed none rest).map fun (given, after) => ((s, v) :: given, after)
    | none =>
      match arg.toList with
      | ['-', '-'] => if rest.isEmpty then some ([], []) else none
      | '-' :: '-' :: text =>
        (readLong allowed text).bind fun c =>
          (readSwitches allowed c.pending rest).map fun (given, after) => (c.given ++ given, after)
      | '-' :: c :: text =>
        (readLetters allowed (c :: text)).bind fun c =>
          (readSwitches allowed c.pending rest).map fun (given, after) => (c.given ++ given, after)
      | _ => some ([], arg :: rest)

/-- No switch stands twice that may stand once. -/
def noRepeats (given : List Given) : Bool :=
  given.all fun g => g.1.repeats || (given.filter fun h => h.1 = g.1).length ≤ 1

/-- The value of a switch. -/
def valueOf? (given : List Given) (s : Switch) : Option String := given.lookup s

/-- A switch stands there. -/
def isGiven (given : List Given) (s : Switch) : Bool := (valueOf? given s).isSome

/-- What is to be done. -/
inductive Command
  | generate (schemas : List String) (out : String) (force dryRun : Bool)
  | inspect (schemas : List String)
  | init (force : Bool)
  deriving DecidableEq, Repr

/-- A command with the settings file it uses. -/
structure Invocation where
  config : String
  command : Command
  deriving DecidableEq, Repr

/-- Where files are generated unless the command line says it. -/
def defaultOut : String := "src/generated"

/-- The values of the switch that names schemas. -/
def schemasOf (given : List Given) : List String := (given.filter fun g => g.1 = .schema).map Prod.snd

/-- A command with the switches after it.  Commands that read schemas need at least one. -/
def Command.ofGiven? (name : CommandName) (given : List Given) : Option Command :=
  let schemas := schemasOf given
  let force := isGiven given .force
  match name with
  | .generate =>
    if schemas.isEmpty then none
    else some (.generate schemas ((valueOf? given .out).getD defaultOut) force (isGiven given .dryRun))
  | .inspect => if schemas.isEmpty then none else some (.inspect schemas)
  | .init => some (.init force)

/-- What the arguments ask for; none if they are not of the right form. -/
def Invocation.ofArguments? (args : List String) : Option Invocation := do
  let (before, rest) ← readSwitches commonSwitches none args
  match rest with
  | [] => none
  | word :: rest =>
    let name ← CommandName.ofText? word
    let (after, rest) ← readSwitches name.switches none rest
    let command ← Command.ofGiven? name after
    let config := (valueOf? after .config).or (valueOf? before .config)
    if rest.isEmpty && noRepeats before && noRepeats after then
      some ⟨config.getD Settings.defaultFile, command⟩
    else none

end GuardedCrud.CommandLine
