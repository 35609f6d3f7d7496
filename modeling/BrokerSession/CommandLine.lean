import BrokerSession.Config.Source

/-!
# The arguments of the program

Options come first, then one errand with options of its own. Every option has a long name and a letter; letters
may be written together, and a value may stand behind an equals sign or in the next argument. Reading ends at the
first argument that makes no sense, and at the first one that asks for help.

## Main definitions

* `CommandLine.Switch` - an option that may be written
* `CommandLine.Errand` - what the program is asked to do
* `CommandLine.Invocation` - everything that the arguments say
* `CommandLine.parse` - the meaning of arguments
-/

namespace BrokerSession.CommandLine

/-- Why arguments lead to no errand. -/
inductive Halt where
  /-- They make no sense. -/
  | usage
  | help
  | version
  deriving DecidableEq, Repr

/-- What an option is followed by, and how often it may be written. -/
inductive Arity where
  /-- By nothing, once. -/
  | flag
  /-- By nothing, any number of times. -/
  | counter
  /-- By a value, once. -/
  | single
  /-- By a value, any number of times. -/
  | many
  deriving DecidableEq, Repr

/-- An option that may be written. -/
structure Switch where
  long : String
  letter : Option Char
  arity : Arity
  /-- Whether a value makes sense. -/
  accepts : String → Bool

/-- What was written, in order: the long names of options with their values. -/
abbrev Found := List (String × String)

/-- Whether an option is followed by a value. -/
def Switch.takesValue (s : Switch) : Bool := s.arity == .single || s.arity == .many

/-- Adds an option to what was found. -/
def Switch.add (s : Switch) (value : String) (found : Found) : Except Halt Found :=
  let again := (found.lookup s.long).isSome && (s.arity == .flag || s.arity == .single)
  if again || !s.accepts value then .error .usage else .ok (found ++ [(s.long, value)])

/-- Options, and whether the version may be asked for among them. -/
structure Grammar where
  switches : List Switch
  versioned : Bool

/-- Whether an argument is an option by its form. -/
def isSwitch (arg : String) : Bool := arg.toList.head? == some '-' && arg != "-"

/-- Letters written together, with the argument behind them. What was found, and whether that argument was
used as a value. -/
def letters (g : Grammar) (next : Option String) (found : Found) :
    List Char → Except Halt (Found × Bool)
  | [] => .ok (found, false)
  | c :: rest =>
    match g.switches.find? (·.letter == some c) with
    | none =>
      if c = 'h' then .error .help
      else if c = 'V' ∧ g.versioned then .error .version
      else .error .usage
    | some s =>
      if s.takesValue then
        match rest, next with
        | [], none => .error .usage
        | [], some value =>
          if isSwitch value then .error .usage else do return (← s.add value found, true)
        | '=' :: value, _ => do return (← s.add (String.ofList value) found, false)
        | value, _ => do return (← s.add (String.ofList value) found, false)
      else do letters g next (← s.add "" found) rest

/-- A long name, perhaps with a value behind an equals sign. -/
def long (g : Grammar) (next : Option String) (found : Found) (cs : List Char) :
    Except Halt (Found × Bool) :=
  let name := String.ofList (cs.takeWhile (· != '='))
  let value := cs.dropWhile (· != '=')
  match g.switches.find? (·.long == name) with
  | none =>
    if name == "help" && value.isEmpty then .error .help
    else if name == "version" && value.isEmpty && g.versioned then .error .version
    else .error .usage
  | some s =>
    match value, next with
    | _ :: value, _ =>
      if s.takesValue then do return (← s.add (String.ofList value) found, false)
      else .error .usage
    | [], some value =>
      if !s.takesValue then do return (← s.add "" found, false)
      else if isSwitch value then .error .usage
      else do return (← s.add value found, true)
    | [], none => if s.takesValue then .error .usage else do return (← s.add "" found, false)

/-- Reads options up to the first argument that is none; hands back that argument and those behind it. -/
def scan (g : Grammar) (found : Found) : List String → Except Halt (Found × List String)
  | [] => .ok (found, [])
  | arg :: rest =>
    if !isSwitch arg then .ok (found, arg :: rest)
    else if arg == "--" then
      if rest.isEmpty then .ok (found, []) else .error .usage
    else
      let read := match arg.toList with
        | '-' :: '-' :: cs => long g rest.head? found cs
        | cs => letters g rest.head? found (cs.drop 1)
      match read with
      | .error h => .error h
      | .ok (found, used) =>
        match used, rest with
        | true, _ :: rest => scan g found rest
        | _, rest => scan g found rest

/-! ## The program's options -/

/-- The number that a text stands for, if it is an integer, perhaps with a sign. -/
def integer? (text : String) : Option Int :=
  let digits (cs : List Char) : Option Nat :=
    if cs.isEmpty || !cs.all Char.isDigit then none
    else some (cs.foldl (fun n c => 10 * n + (c.toNat - '0'.toNat)) 0)
  match text.toList with
  | '+' :: cs => (digits cs).map Int.ofNat
  | '-' :: cs => (digits cs).map fun n => -(Int.ofNat n)
  | cs => (digits cs).map Int.ofNat

/-- Any text. -/
def anyText (_ : String) : Bool := true

/-- A guarantee, by its level. -/
def isLevel (text : String) : Bool := ((integer? text).bind Qos.ofLevel?).isSome

/-- A number of messages: 64 bits, without a minus. -/
def isCount (text : String) : Bool :=
  text.toList.head? != some '-' && (integer? text).any (· < Int.ofNat UInt64.size)

/-- The options of the program itself. -/
def general : Grammar where
  switches := [
    ⟨"config", some 'c', .single, fun path => !path.isEmpty⟩,
    ⟨"url", some 'u', .single, anyText⟩,
    ⟨"client-id", some 'i', .single, anyText⟩,
    ⟨"verbose", some 'v', .counter, anyText⟩]
  versioned := true

/-- The options of publishing. -/
def publishing : Grammar where
  switches := [
    ⟨"topic", some 't', .single, anyText⟩,
    ⟨"message", some 'm', .single, anyText⟩,
    ⟨"qos", some 'q', .single, isLevel⟩,
    ⟨"retain", some 'r', .flag, anyText⟩]
  versioned := false

/-- The options of subscribing. -/
def subscribing : Grammar where
  switches := [
    ⟨"topic", some 't', .many, anyText⟩,
    ⟨"qos", some 'q', .single, isLevel⟩,
    ⟨"count", some 'C', .single, isCount⟩]
  versioned := false

/-- The options of checking a configuration. -/
def checking : Grammar where
  switches := [⟨"show", none, .flag, anyText⟩]
  versioned := false

/-- What the program is asked to do. -/
inductive Errand where
  /-- Publish one message. -/
  | publish (topic message : String) (qos : Qos) (retain : Bool)
  /-- Print the messages that come in, perhaps only so many. -/
  | subscribe (filters : List String) (qos : Qos) (count : Option Nat)
  /-- Check the configuration, and perhaps print it. -/
  | check (printed : Bool)
  deriving DecidableEq, Repr

/-- Everything that the arguments say. -/
structure Invocation where
  config : Option String
  url : Option String
  clientId : String
  verbosity : Nat
  errand : Errand
  deriving DecidableEq, Repr

/-- All options of an errand; nothing may follow them. -/
def scanAll (g : Grammar) (args : List String) : Except Halt Found := do
  let (found, rest) ← scan g [] args
  if rest.isEmpty then return found else throw .usage

/-- The guarantee that was asked for. -/
def qosOf (found : Found) : Qos :=
  (((found.lookup "qos").bind integer?).bind Qos.ofLevel?).getD .atMostOnce

/-- The errand of a name, with its options. -/
def errand (name : String) (args : List String) : Except Halt Errand := do
  match name with
  | "pub" =>
    let found ← scanAll publishing args
    match found.lookup "topic", found.lookup "message" with
    | some topic, some message =>
      return .publish topic message (qosOf found) (found.lookup "retain").isSome
    | _, _ => throw .usage
  | "sub" =>
    let found ← scanAll subscribing args
    match found.filterMap fun (name, value) => if name == "topic" then some value else none with
    | [] => throw .usage
    | filters =>
      let count := ((found.lookup "count").bind integer?).map Int.toNat
      return .subscribe filters (qosOf found) count
  | "config" => return .check ((← scanAll checking args).lookup "show").isSome
  | "help" =>
    match args with
    | [] => throw .help
    | [topic] =>
      if ["pub", "sub", "config", "help"].contains topic then throw .help else throw .usage
    | _ => throw .usage
  | _ => throw .usage

/-- The variable that may hold the URL of the broker. -/
def urlVariable : String := "MQTT_URL"

/-- The meaning of arguments. The URL may come from the environment; together with a file it makes no sense. -/
def parse (env : Environment) (args : List String) : Except Halt Invocation := do
  let (found, rest) ← scan general [] args
  match rest with
  | [] => throw .usage
  | name :: rest =>
    let errand ← errand name rest
    let config := found.lookup "config"
    let url := found.lookup "url" <|> env.lookup urlVariable
    if config.isSome && url.isSome then throw .usage
    return {
      config
      url
      clientId := (found.lookup "client-id").getD ""
      verbosity := found.countP (·.1 == "verbose")
      errand }

end BrokerSession.CommandLine
