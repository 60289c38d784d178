/-!
# Options and operands

How a list of arguments is divided into options and operands. An option has a long name behind two
hyphens, and perhaps a letter behind one. Its value is the next argument, or follows an equals
sign, or follows the letter at once; a next argument that looks like an option is no value. Two
hyphens alone make all further arguments operands. Arguments are taken from left to right, and the
first that is out of place decides, unless help was asked for before it.
-/

namespace SchemaDiagram.CommandLine

/-- An option. -/
structure Spec where
  /-- The long name. -/
  name : String
  /-- The letter. -/
  letter : Option Char := none
  /-- Which values it accepts, if it takes a value. -/
  accepts : Option (String → Bool)

/-- An option with any value. -/
def Spec.ofText (name : String) (letter : Option Char) : Spec :=
  ⟨name, letter, some fun _ => true⟩

/-- An option with a path as its value. -/
def Spec.ofPath (name : String) (letter : Option Char) : Spec :=
  ⟨name, letter, some (· ≠ "")⟩

/-- An option without a value. -/
def Spec.ofFlag (name : String) : Spec :=
  ⟨name, none, none⟩

/-- Why arguments do not make up a command. -/
inductive Stop where
  /-- Help was asked for. -/
  | help
  /-- An argument is out of place, or one is missing. -/
  | misuse
deriving DecidableEq, Repr

/-- What arguments give. -/
structure Arguments where
  /-- The options by their names, with their values. -/
  options : List (String × String) := []
  /-- The operands. -/
  operands : List String := []

namespace Arguments

/-- The value of an option. -/
def value? (a : Arguments) (name : String) : Option String :=
  a.options.lookup name

/-- Whether an option is given. -/
def has (a : Arguments) (name : String) : Bool :=
  (a.value? name).isSome

/-- Adds an option, which may be given only once and whose value must be acceptable. -/
def addOption (a : Arguments) (s : Spec) (value : String) : Except Stop Arguments :=
  if a.has s.name || !(s.accepts.all (· value)) then .error .misuse
  else .ok { a with options := a.options ++ [(s.name, value)] }

end Arguments

/-- Whether an argument is an option and not a value. A single hyphen is a value. -/
def looksLikeOption (argument : String) : Bool :=
  match argument.toList with
  | '-' :: _ :: _ => true
  | _ => false

/-- An argument as it begins. -/
inductive Shape where
  /-- Two hyphens alone. -/
  | separator
  /-- A long name, and what follows its equals sign. -/
  | long (name : String) (value : Option String)
  /-- A letter, and what follows it. -/
  | short (letter : Char) (rest : List Char)
  /-- Neither. -/
  | operand

/-- The shape of an argument. -/
def shape (argument : String) : Shape :=
  match argument.toList with
  | ['-', '-'] => .separator
  | '-' :: '-' :: rest =>
    .long (String.ofList (rest.takeWhile (· ≠ '=')))
      (match rest.dropWhile (· ≠ '=') with
        | _ :: value => some (String.ofList value)
        | [] => none)
  | '-' :: letter :: rest => .short letter rest
  | _ => .operand

/-- The value that follows the letter of an option at once, behind an equals sign or not. -/
def attached? : List Char → Option String
  | [] => none
  | c :: rest => some (String.ofList (if c = '=' then rest else c :: rest))

/-- An option found in the arguments: its value may be attached to it. -/
def option? (specs : List Spec) : Shape → Except Stop (Option (Spec × Option String))
  | .long name value =>
    if name = "help" then .error (if value.isSome then .misuse else .help)
    else match specs.find? (·.name = name) with
      | some s => .ok (some (s, value))
      | none => .error .misuse
  | .short letter rest =>
    if letter = 'h' then .error .help
    else match specs.find? (·.letter = some letter) with
      | some s => .ok (some (s, attached? rest))
      | none => .error .misuse
  | .separator | .operand => .ok none

/-- Divides arguments into options and at most `most` operands. What remains begins with the first
operand that is one too many. -/
def divide (specs : List Spec) (most : Nat) (read : Arguments) :
    List String → Except Stop (Arguments × List String)
  | [] => .ok (read, [])
  | argument :: rest => do
    match shape argument with
    | .separator =>
      let operands := read.operands ++ rest
      if most < operands.length then .error .misuse else .ok ({ read with operands }, [])
    | .operand =>
      if most ≤ read.operands.length then .ok (read, argument :: rest)
      else divide specs most { read with operands := read.operands ++ [argument] } rest
    | found =>
      let some (s, value) ← option? specs found | .error .misuse
      match s.accepts, value with
      | none, some _ => .error .misuse
      | none, none => divide specs most (← read.addOption s "") rest
      | some _, some value => divide specs most (← read.addOption s value) rest
      | some _, none =>
        match rest with
        | [] => .error .misuse
        | value :: rest =>
          if looksLikeOption value then .error .misuse
          else divide specs most (← read.addOption s value) rest

end SchemaDiagram.CommandLine
