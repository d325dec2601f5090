import Pinhole.Text.Fields

/-!
# Command-line arguments

An option has a long name behind two hyphens and a short one behind a single
hyphen; short ones may be written together.  Some options take a value, which
stands behind the name or is the next argument; for the two endpoints it may be
left out.  No option may be given twice, nothing may follow that is no option,
and two hyphens alone end the options.
-/

namespace Pinhole

/-- What the arguments ask for. -/
structure Arguments where
  /-- The local endpoint, in place of the configured one. -/
  listen : Option String := none
  /-- The forward target, in place of the configured one. -/
  remote : Option String := none
  udp : Bool := false
  configPath : String := "config.toml"
  debug : Bool := false
  /-- Whether to classify the NAT and end. -/
  natTypeTest : Bool := false
deriving DecidableEq, Repr

namespace Arguments

/-- An option that takes a value. -/
inductive Setting where
  | listen
  | remote
  | config
deriving DecidableEq, Repr

/-- An option that takes none. -/
inductive Flag where
  | udp
  | debug
  | natTypeTest
deriving DecidableEq, Repr

inductive Switch where
  | setting (setting : Setting)
  | flag (flag : Flag)
  | help
  | version
deriving DecidableEq, Repr

namespace Switch

/-- Every option with its short and its long name. -/
def all : List (Char × String × Switch) :=
  [('l', "local", .setting .listen),
    ('r', "remote", .setting .remote),
    ('u', "udp", .flag .udp),
    ('c', "config", .setting .config),
    ('d', "debug", .flag .debug),
    ('t', "nat-type-test", .flag .natTypeTest),
    ('h', "help", .help),
    ('V', "version", .version)]

def ofShort? (name : Char) : Option Switch :=
  (all.find? fun entry => entry.1 = name).map fun entry => entry.2.2

def ofLong? (name : String) : Option Switch :=
  (all.find? fun entry => entry.2.1 = name).map fun entry => entry.2.2

end Switch

/-- Why the program ends without having been asked for anything else. -/
inductive Stop where
  | help
  | version
  /-- The arguments make no sense. -/
  | misuse
deriving DecidableEq, Repr

/-- The arguments read so far, with the options that were given. -/
structure Reading where
  arguments : Arguments
  given : List Switch
  /-- The option that the next argument may be the value of. -/
  open? : Option Setting

namespace Reading

def start : Reading := ⟨{}, [], none⟩

/-- Notes that an option is given, for the first time. -/
def note (reading : Reading) (switch : Switch) : Except Stop Reading :=
  if switch ∈ reading.given then .error .misuse
  else .ok { reading with given := switch :: reading.given }

def raise (reading : Reading) (flag : Flag) : Except Stop Reading := do
  let reading ← reading.note (.flag flag)
  let arguments := reading.arguments
  return { reading with
    arguments :=
      match flag with
      | .udp => { arguments with udp := true }
      | .debug => { arguments with debug := true }
      | .natTypeTest => { arguments with natTypeTest := true } }

def set (reading : Reading) (setting : Setting) (value : String) :
    Except Stop Reading := do
  let reading ← reading.note (.setting setting)
  let arguments := reading.arguments
  return { reading with
    arguments :=
      match setting with
      | .listen => { arguments with listen := some value }
      | .remote => { arguments with remote := some value }
      | .config => { arguments with configPath := value } }

/-- What an endpoint option without a value stands for: all defaults. -/
def impliedEndpoint : String := ":"

/-- Does without the value of the open option, if there is one. -/
def close (reading : Reading) : Except Stop Reading := do
  let closed := { reading with open? := none }
  match reading.open? with
  | none => return closed
  | some .config => throw .misuse
  | some setting => closed.set setting impliedEndpoint

/-- Options written together behind one hyphen.  The first that takes a value
takes all that follows it, an equals sign left aside. -/
def shorts (reading : Reading) : List Char → Except Stop Reading
  | [] => .ok reading
  | name :: rest =>
      match Switch.ofShort? name with
      | none => .error .misuse
      | some .help => .error .help
      | some .version => .error .version
      | some (.flag flag) => do shorts (← reading.raise flag) rest
      | some (.setting setting) =>
          match rest with
          | [] => .ok { reading with open? := some setting }
          | '=' :: value => reading.set setting (String.ofList value)
          | value => reading.set setting (String.ofList value)

/-- An option behind two hyphens, with its value if it is written behind an
equals sign. -/
def long (reading : Reading) (name : String) (value? : Option String) :
    Except Stop Reading :=
  match Switch.ofLong? name, value? with
  | none, _ => .error .misuse
  | some (.setting setting), some value => reading.set setting value
  | some (.setting setting), none =>
      .ok { reading with open? := some setting }
  | some _, some _ => .error .misuse
  | some .help, none => .error .help
  | some .version, none => .error .version
  | some (.flag flag), none => reading.raise flag

/-- What stands before the first equals sign, and behind it if there is one. -/
def splitAtEquals (text : List Char) : String × Option String :=
  let name := String.ofList (text.takeWhile (· != '='))
  match text.dropWhile (· != '=') with
  | [] => (name, none)
  | _ :: value => (name, some (String.ofList value))

/-- Reads arguments up to the last one. -/
def readAll (reading : Reading) : List String → Except Stop Reading
  | [] => reading.close
  | argument :: rest =>
      match argument.toList with
      | ['-', '-'] => do
          let reading ← reading.close
          if rest = [] then return reading else throw .misuse
      | '-' :: '-' :: text => do
          let (name, value?) := splitAtEquals text
          readAll (← (← reading.close).long name value?) rest
      | '-' :: name :: names => do
          readAll (← (← reading.close).shorts (name :: names)) rest
      | _ =>
          match reading.open? with
          | none => .error .misuse
          | some setting => do
              readAll
                (← { reading with open? := none }.set setting argument) rest

end Reading

/-- Reads the arguments behind the program's name. -/
def parse (arguments : List String) : Except Stop Arguments := do
  return (← Reading.start.readAll arguments).arguments

end Arguments

end Pinhole
