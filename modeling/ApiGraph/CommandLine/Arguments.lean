/-
# Arguments

What the arguments of the program ask for.  Switches that are common to all commands
may stand before the command or behind it; each command has switches of its own and
takes a fixed number of operands.

* The value of a switch is attached to it (`--config=a`, `-ca`, `-c=a`) or is the next
  argument, which must not look like a switch.
* A switch may be given once on either side of the command.  The value behind the
  command wins.
* Behind `--` everything is an operand.
-/

import ApiGraph.Table
import ApiGraph.Text.Split

namespace ApiGraph
namespace CommandLine

/-- What may be switched. -/
inductive Switch where
  | config
  | verbose
  | jsonLogs
  | publishOnly
  | subscribeOnly
  | name
  | out
  | help
  | version
  deriving DecidableEq, Repr

namespace Switch

/-- The long spelling, behind two dashes. -/
def long : Switch → String
  | config => "config"
  | verbose => "verbose"
  | jsonLogs => "json-logs"
  | publishOnly => "publish-only"
  | subscribeOnly => "subscribe-only"
  | name => "name"
  | out => "out"
  | help => "help"
  | version => "version"

/-- The short spelling, behind one dash. -/
def short? : Switch → Option Char
  | config => some 'c'
  | name => some 'n'
  | out => some 'o'
  | help => some 'h'
  | version => some 'V'
  | _ => none

/-- The switch has a value. -/
def takesValue : Switch → Bool
  | config => true
  | name => true
  | out => true
  | _ => false

/-- The switches that every command knows. -/
def common : List Switch :=
  [config, verbose, jsonLogs, publishOnly, subscribeOnly, help]

end Switch

/-- The names of the commands. -/
inductive CommandName where
  | init
  | compile
  | check
  | search
  deriving DecidableEq, Repr

namespace CommandName

/-- How a command is written. -/
def text : CommandName → String
  | init => "init"
  | compile => "compile"
  | check => "check"
  | search => "search"

/-- The command that is written so. -/
def ofText? (s : String) : Option CommandName :=
  [init, compile, check, search].find? (·.text == s)

/-- The switches that a command knows. -/
def switches : CommandName → List Switch
  | init => .name :: Switch.common
  | compile => .out :: Switch.common
  | _ => Switch.common

/-- How many operands a command has. -/
def operands : CommandName → Nat
  | init => 0
  | compile => 1
  | check => 1
  | search => 2

end CommandName

/-- Why arguments lead to no command. -/
inductive Halt where
  /-- Help was asked for. -/
  | help
  /-- The version was asked for. -/
  | version
  /-- They make no sense. -/
  | misuse
  deriving DecidableEq, Repr

/-- What was given so far on one side of the command. -/
structure Given where
  /-- The switches, with the values of those that have one. -/
  switches : List (Switch × String) := []
  operands : List String := []
  deriving DecidableEq, Repr

namespace Given

/-- A switch was given. -/
def has (g : Given) (s : Switch) : Bool :=
  g.switches.any (·.1 == s)

/-- The value of a switch. -/
def value? (g : Given) (s : Switch) : Option String :=
  (g.switches.find? (·.1 == s)).map (·.2)

/-- Takes a switch, which ends everything if it asks for help or for the version. -/
def take (g : Given) (s : Switch) (value : String) : Except Halt Given :=
  if s = .help then .error .help
  else if s = .version then .error .version
  else if g.has s then .error .misuse
  else .ok { g with switches := g.switches ++ [(s, value)] }

/-- Takes an operand, if there are fewer than `count`. -/
def takeOperand (g : Given) (count : Nat) (operand : String) : Except Halt Given :=
  if g.operands.length < count then .ok { g with operands := g.operands ++ [operand] }
  else .error .misuse

/-- Takes operands, if there are not too many. -/
def takeOperands (g : Given) (count : Nat) (operands : List String) : Except Halt Given :=
  operands.foldlM (fun g operand => g.takeOperand count operand) g

/-- The two switches that contradict each other are not both given. -/
def isConsistent (g : Given) : Bool :=
  !(g.has .publishOnly && g.has .subscribeOnly)

end Given

/-- One argument by its looks. -/
inductive Shape where
  /-- Everything behind it is an operand. -/
  | separator
  /-- A switch, with the value that is attached to it. -/
  | switch (s : Switch) (value : Option String)
  /-- It looks like a switch, but there is none. -/
  | unknown
  | operand
  deriving DecidableEq, Repr

/-- The shape of an argument where some switches are known. -/
def shapeOf (known : List Switch) (argument : String) : Shape :=
  match argument.toList with
  | ['-', '-'] => .separator
  | '-' :: '-' :: body =>
    let (name, value) := match Text.cutAt? '=' body with
      | some (name, value) => (name, some (String.ofList value))
      | none => (body, none)
    match known.find? (·.long.toList == name) with
    | some s => .switch s value
    | none => .unknown
  | '-' :: c :: body =>
    match known.find? (·.short? == some c) with
    | some s =>
      if s.takesValue then
        match body with
        | [] => .switch s none
        | '=' :: value => .switch s (some (String.ofList value))
        | value => .switch s (some (String.ofList value))
      else .switch s none
    | none => .unknown
  | _ => .operand

/-- An argument that looks like a switch, or separates operands. -/
def looksLikeSwitch (argument : String) : Bool :=
  match argument.toList with
  | '-' :: _ :: _ => true
  | _ => false

/-- Reads arguments: what was given before a command, and the command with what is
behind it.  Where `count` is absent there are commands and no operands. -/
def scan (known : List Switch) (count : Option Nat) :
    Given → List String → Except Halt (Given × Option (String × List String))
  | g, [] => .ok (g, none)
  | g, argument :: rest =>
    match shapeOf known argument with
    | .unknown => .error .misuse
    | .separator =>
      match g.takeOperands (count.getD 0) rest with
      | .ok g => .ok (g, none)
      | .error e => .error e
    | .operand =>
      match count with
      | none => .ok (g, some (argument, rest))
      | some n =>
        match g.takeOperand n argument with
        | .ok g => scan known count g rest
        | .error e => .error e
    | .switch s attached =>
      if s.takesValue then
        match attached, rest with
        | some value, rest =>
          match g.take s value with
          | .ok g => scan known count g rest
          | .error e => .error e
        | none, value :: rest =>
          if looksLikeSwitch value then .error .misuse
          else
            match g.take s value with
            | .ok g => scan known count g rest
            | .error e => .error e
        | none, [] => .error .misuse
      else if attached.isSome then .error .misuse
      else
        match g.take s "" with
        | .ok g => scan known count g rest
        | .error e => .error e

/-- A command with its operands. -/
inductive Command where
  | init (name : String)
  | compile (document : String) (out : Option String)
  | check (document : String)
  | search (document query : String)
  deriving DecidableEq, Repr

/-- What overrides the directions of the configuration. -/
inductive DirectionOverride where
  | none
  | publishOnly
  | subscribeOnly
  deriving DecidableEq, Repr

/-- What the arguments ask for. -/
structure Request where
  config : String
  override : DirectionOverride
  command : Command
  deriving DecidableEq, Repr

/-- The configuration file where none is given. -/
def standardConfig : String := "asyncgen.toml"

/-- The name of a project where none is given. -/
def standardName : String := "asyncgen"

/-- The command, if all its operands are there. -/
def commandOf (name : CommandName) (g : Given) : Except Halt Command :=
  match name, g.operands with
  | .init, [] => .ok (.init ((g.value? .name).getD standardName))
  | .compile, [document] => .ok (.compile document (g.value? .out))
  | .check, [document] => .ok (.check document)
  | .search, [document, query] => .ok (.search document query)
  | _, _ => .error .misuse

/-- What both sides of the command together ask for. -/
def requestOf (before behind : Given) (command : Command) : Request where
  config := (((behind.value? .config).or (before.value? .config))).getD standardConfig
  override :=
    if before.has .publishOnly || behind.has .publishOnly then .publishOnly
    else if before.has .subscribeOnly || behind.has .subscribeOnly then .subscribeOnly
    else .none
  command := command

/-- The word that asks for help about commands. -/
def helpWord : String := "help"

/-- Asks for help about commands. -/
def helpAbout (names : List String) : Halt :=
  match names with
  | [] => .help
  | [name] => if name = helpWord || (CommandName.ofText? name).isSome then .help else .misuse
  | _ => .misuse

/-- What the arguments ask for.  Without a command it is help. -/
def Request.ofArguments (arguments : List String) : Except Halt Request := do
  let (before, found) ← scan (.version :: Switch.common) none {} arguments
  match found with
  | none => if before.isConsistent then throw .help else throw .misuse
  | some (word, rest) =>
    if word = helpWord then throw (helpAbout rest)
    else
      match CommandName.ofText? word with
      | none => throw .misuse
      | some name =>
        let (behind, _) ← scan name.switches (some name.operands) {} rest
        let command ← commandOf name behind
        if before.isConsistent && behind.isConsistent then
          return requestOf before behind command
        else throw .misuse

end CommandLine
end ApiGraph
