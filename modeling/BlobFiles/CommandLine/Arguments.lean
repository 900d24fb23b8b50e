import BlobFiles.Text.Split

/-! # Arguments of the command

The command takes one path and options with two dashes; the value of an option follows it, or is
joined to it by an equals sign. An argument that starts with a dash is never the value of an option
before it, and a double dash ends the options. The first thing that is wrong, or asks for help,
decides.
-/
namespace BlobFiles.CommandLine

inductive ValueOption where
  | settings
  | accountName
  | bufferSize
  | offset
  | length
  deriving DecidableEq, Repr

namespace ValueOption

def name : ValueOption → String
  | settings => "settings"
  | accountName => "account-name"
  | bufferSize => "buffer-size"
  | offset => "offset"
  | length => "length"

/-- What stands for the value in messages. -/
def placeholder : ValueOption → String
  | settings => "<SETTINGS>"
  | accountName => "<ACCOUNT_NAME>"
  | bufferSize => "<BUFFER_SIZE>"
  | offset => "<OFFSET>"
  | length => "<LENGTH>"

def help : ValueOption → String
  | settings => "JSON file with settings, e.g. azure_account_name or azure_read_buffer_size"
  | accountName => "Storage account for short `az://container/key` paths"
  | bufferSize => "Read-ahead buffer size in bytes"
  | offset => "First byte to print [default: 0]"
  | length => "Number of bytes to print, defaults to the rest of the blob"

def usage (o : ValueOption) : String := s!"--{o.name} {o.placeholder}"

def all : List ValueOption := [settings, accountName, bufferSize, offset, length]

def ofName? (name : String) : Option ValueOption := all.find? (·.name = name)

theorem ofName?_name (o : ValueOption) : ofName? o.name = some o := by
  cases o <;> decide

end ValueOption

inductive UsageError where
  | unexpected (argument : String)
  | noValue (option : ValueOption)
  | badValue (option : ValueOption) (value : String)
  | repeated (usage : String)
  | flagValue (value : String)
  | noPath
  deriving DecidableEq, Repr

def UsageError.message : UsageError → String
  | .unexpected argument => s!"unexpected argument '{argument}' found"
  | .noValue option => s!"a value is required for '{option.usage}' but none was supplied"
  | .badValue option value => s!"invalid value '{value}' for '{option.usage}'"
  | .repeated usage => s!"the argument '{usage}' cannot be used multiple times"
  | .flagValue value => s!"unexpected value '{value}' for '--exists' found; no more were expected"
  | .noPath => "the following required arguments were not provided: <PATH>"

/-- Why there is nothing to run. -/
inductive Stop where
  | help
  | usage (e : UsageError)
  deriving DecidableEq, Repr

structure Arguments where
  path : String
  settings : Option String := none
  accountName : Option String := none
  bufferSize : Option Nat := none
  offset : Nat := 0
  length : Option Nat := none
  /-- Only asks whether the blob exists. -/
  exists? : Bool := false
  deriving DecidableEq, Repr

/-- What the arguments so far have given. -/
structure Given where
  path : Option String := none
  settings : Option String := none
  accountName : Option String := none
  bufferSize : Option Nat := none
  offset : Option Nat := none
  length : Option Nat := none
  exists? : Bool := false

/-- A decimal number of 64 bits, which a plus sign may start. -/
def number? (text : String) : Option Nat :=
  let digits := match text.toList with
    | '+' :: rest => rest
    | cs => cs
  if digits.isEmpty || !digits.all Char.isDigit then none
  else
    let n := digits.foldl (fun n d => 10 * n + (d.toNat - '0'.toNat)) 0
    if n ≤ 0xFFFFFFFFFFFFFFFF then some n else none

/-- The value for a field that is still free. -/
def once {α : Type} (option : ValueOption) (text : String) (old : Option α)
    (read : String → Option α) : Except Stop (Option α) :=
  match old, read text with
  | some _, _ => .error (.usage (.repeated option.usage))
  | none, some a => .ok (some a)
  | none, none => .error (.usage (.badValue option text))

def nonEmpty? (text : String) : Option String := if text.isEmpty then none else some text

namespace Given

def put (g : Given) (option : ValueOption) (text : String) : Except Stop Given :=
  match option with
  | .settings => do return { g with settings := ← once option text g.settings nonEmpty? }
  | .accountName => do return { g with accountName := ← once option text g.accountName some }
  | .bufferSize => do return { g with bufferSize := ← once option text g.bufferSize number? }
  | .offset => do return { g with offset := ← once option text g.offset number? }
  | .length => do return { g with length := ← once option text g.length number? }

def putPath (g : Given) (path : String) : Except Stop Given :=
  match g.path with
  | none => .ok { g with path := some path }
  | some _ => .error (.usage (.unexpected path))

def putExists (g : Given) : Except Stop Given :=
  if g.exists? then .error (.usage (.repeated "--exists")) else .ok { g with exists? := true }

def finish (g : Given) : Except Stop Arguments :=
  match g.path with
  | none => .error (.usage .noPath)
  | some path => .ok { g with path, offset := g.offset.getD 0 }

end Given

/-- What one argument is, by its look alone. -/
inductive Token where
  | endOfOptions
  | help
  | flag
  | flagWith (value : String)
  | option (o : ValueOption)
  | optionWith (o : ValueOption) (value : String)
  | plain
  | unknown

/-- A token from the name behind two dashes, and the value joined to it. -/
def Token.ofLong (name : String) (value : Option String) : Token :=
  match ValueOption.ofName? name, value with
  | some o, none => .option o
  | some o, some value => .optionWith o value
  | none, none => if name = "exists" then .flag else if name = "help" then .help else .unknown
  | none, some value => if name = "exists" then .flagWith value else .unknown

/-- A single dash is a plain argument. -/
def Token.of (argument : String) : Token :=
  match argument.toList with
  | ['-', '-'] => .endOfOptions
  | '-' :: '-' :: rest =>
    match Text.cut '=' rest with
    | some (name, value) => .ofLong (.ofList name) (some (.ofList value))
    | none => .ofLong (.ofList rest) none
  | '-' :: 'h' :: _ => .help
  | '-' :: _ :: _ => .unknown
  | _ => .plain

def isValue (argument : String) : Bool :=
  match Token.of argument with
  | .plain => true
  | _ => false

def scan : List String → Given → Except Stop Given
  | [], g => .ok g
  | argument :: rest, g =>
    match Token.of argument with
    | .endOfOptions => rest.foldlM Given.putPath g
    | .help => .error .help
    | .flag => do scan rest (← g.putExists)
    | .flagWith value => .error (.usage (.flagValue value))
    | .optionWith o value => do scan rest (← g.put o value)
    | .option o =>
      match rest with
      | value :: rest =>
        if isValue value then do scan rest (← g.put o value) else .error (.usage (.noValue o))
      | [] => .error (.usage (.noValue o))
    | .plain => do scan rest (← g.putPath argument)
    | .unknown => .error (.usage (.unexpected argument))

def Arguments.parse (arguments : List String) : Except Stop Arguments := do
  (← scan arguments {}).finish

/-! The help text. -/

def usageLine : String := "Usage: azblob-cat [OPTIONS] <PATH>"

/-- Names on the left, padded to one width, and their meaning on the right. -/
def helpRow (width : Nat) (name meaning : String) : String :=
  "  " ++ name ++ String.ofList (List.replicate (width - name.length) ' ') ++ "  " ++ meaning

def optionRows : List (String × String) :=
  ValueOption.all.map (fun o => (s!"    {o.usage}", o.help)) ++
    [("    --exists", "Only check whether the blob exists"), ("-h, --help", "Print help")]

def helpText : String :=
  let width := (optionRows.map fun row => row.1.length).foldl max 0
  let options := optionRows.map fun row => helpRow width row.1 row.2
  let path := helpRow 0 "<PATH>" "`azure://` or `az://` path, may contain wildcards"
  "\n".intercalate (["Read blobs through the Azure blob file system", "", usageLine, "",
    "Arguments:", path, "", "Options:"] ++ options) ++ "\n"

end BlobFiles.CommandLine
