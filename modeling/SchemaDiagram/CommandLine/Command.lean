import SchemaDiagram.CommandLine.Option
import SchemaDiagram.Diagram.View
import SchemaDiagram.Settings.Read
import SchemaDiagram.Workspace

/-!
# Commands

The commands of the program: each reads one file and yields a text. `Invocation.parse` understands
the arguments and `Invocation.run` carries a command out, given what the files contain and what
time it is. Where the text goes is said by the option for the output, which may stand before or
behind the name of the command, as may the one for the settings; the later of two counts.
-/

namespace SchemaDiagram.CommandLine

/-! ## Arguments -/

/-- What is to be done with a file. -/
inductive Command where
  /-- Convert it to schema text, or to SQL. -/
  | convert (format : Option FileFormat) (toSql : Bool) (dialect : Option String)
  /-- Write SQL for schema text. -/
  | generate (dialect : Option String)
  /-- Write a diagram document for schema text. -/
  | exportJson
  /-- Write the canvas for schema text. -/
  | canvas
  /-- Write a link to schema text, or a frame that shows it. -/
  | share (origin : String) (embed : Bool)

/-- A command with the files that it is about. -/
structure Invocation where
  /-- The file to read. -/
  input : String
  /-- The file to write; standard output if there is none. -/
  output : Option String
  /-- The file with the settings. -/
  config : Option String
  /-- What is to be done. -/
  command : Command

/-- The options that every command has. -/
def commonSpecs : List Spec :=
  [.ofPath "output" (some 'o'), .ofPath "config" none]

/-- The option for a dialect. -/
def dialectSpec : Spec :=
  .ofText "dialect" (some 'd')

/-- The address that links lead to when none is given. -/
def defaultOrigin : String :=
  "http://localhost:8080"

/-- How a command is put together from its options. -/
structure Grammar where
  /-- The options that it has besides the common ones. -/
  specs : List Spec
  /-- The command, unless an option lacks another that it needs. -/
  make : Arguments → Option Command

/-- The commands by their names. -/
def grammars : List (String × Grammar) :=
  [("import",
    { specs :=
        [⟨"format", some 'f', some fun name => (FileFormat.ofName? name).isSome⟩, .ofFlag "to-sql",
          dialectSpec]
      make a :=
        if a.has "dialect" && !a.has "to-sql" then none
        else some (.convert ((a.value? "format").bind FileFormat.ofName?) (a.has "to-sql")
          (a.value? "dialect")) }),
   ("generate", ⟨[dialectSpec], fun a => some (.generate (a.value? "dialect"))⟩),
   ("export-json", ⟨[], fun _ => some .exportJson⟩),
   ("canvas", ⟨[], fun _ => some .canvas⟩),
   ("share",
    { specs := [.ofText "origin" none, .ofFlag "embed"]
      make a := some (.share ((a.value? "origin").getD defaultOrigin) (a.has "embed")) })]

/-- The answer to a request for help on a command. -/
def helpOn : List String → Stop
  | [] => .help
  | [name] => if name = "help" || (grammars.lookup name).isSome then .help else .misuse
  | _ => .misuse

/-- Understands the arguments of the program. -/
def Invocation.parse (arguments : List String) : Except Stop Invocation := do
  let (before, rest) ← divide commonSpecs 0 {} arguments
  match rest with
  | [] => .error .misuse
  | name :: rest =>
    if name = "help" then .error (helpOn rest)
    else
      let some grammar := grammars.lookup name | .error .misuse
      let (given, rest) ← divide (commonSpecs ++ grammar.specs) 1 {} rest
      match given.operands, grammar.make given, rest with
      | [input], some command, [] =>
        let output := given.value? "output" <|> before.value? "output"
        let config := given.value? "config" <|> before.value? "config"
        if input = "" then .error .misuse else .ok { input, output, config, command }
      | _, _, _ => .error .misuse

/-! ## Failures -/

/-- Why a file cannot be read or written. -/
inductive FileFault where
  /-- There is no such file. -/
  | notFound
  /-- It is a directory. -/
  | isDirectory
  /-- It is not text in UTF-8. -/
  | notText
  /-- Something else. -/
  | other (message : String)
deriving DecidableEq, Repr

/-- The message about a file that cannot be read or written. -/
def FileFault.message : FileFault → String
  | notFound => "No such file or directory (os error 2)"
  | isDirectory => "Is a directory (os error 21)"
  | notText => "stream did not contain valid UTF-8"
  | other message => message

/-- Why a command cannot be carried out. -/
inductive Failure where
  /-- The file with the settings cannot be read. -/
  | config (path : String) (fault : FileFault)
  /-- The settings are not in order. -/
  | settings (fault : InvalidSettings)
  /-- The file cannot be read. -/
  | input (path : String) (fault : FileFault)
  /-- Its content cannot be imported. -/
  | content (fault : Imported.Fault)
  /-- There is no dialect of the given name. -/
  | dialect (fault : Sql.UnknownDialect)
  /-- The result cannot be written. -/
  | output (path : String) (fault : FileFault)
deriving DecidableEq, Repr

/-- The message about a failure. -/
def Failure.message : Failure → String
  | config path fault => "failed to read " ++ path ++ ": " ++ fault.message
  | settings fault => fault.message
  | input path fault => "Failed to read " ++ path ++ ": " ++ fault.message
  | content fault => fault.message
  | dialect fault => fault.message
  | output path fault => "Failed to write " ++ path ++ ": " ++ fault.message

/-- What the program writes to standard error. -/
def Failure.report (f : Failure) : String :=
  "Error: " ++ f.message ++ "\n"

/-! ## Execution -/

/-- Contents of files by their paths. -/
abbrev Files :=
  String → Except FileFault String

/-- The workspace with imported content, as schema text or as SQL. The dialect is the one named,
or that of the content if it is SQL, or that of the settings. -/
def convert (settings : Settings) (format : FileFormat) (content : String) (toSql : Bool)
    (dialect : Option String) : Except Failure String :=
  match (Workspace.withText settings "").importContent format content with
  | (.error fault, _) => .error (.content fault)
  | (.ok (), w) =>
    if toSql then
      match dialect with
      | some name => ((Sql.Dialect.parse name).mapError .dialect).map w.exportSql
      | none => .ok (w.exportSql ((format.dialect? content).getD settings.defaultDialect))
    else .ok w.text

/-- The result of a command on a file with the given content. -/
def Invocation.result (i : Invocation) (settings : Settings) (content : String) (now : Instant) :
    Except Failure String :=
  let w := Workspace.withText settings content
  match i.command with
  | .convert format toSql dialect =>
    let format := format <|> FileFormat.ofPath? i.input
    convert settings (format.getD (.detect content)) content toSql dialect
  | .generate none => .ok w.exportDefaultSql
  | .generate (some name) => ((Sql.Dialect.parse name).mapError .dialect).map w.exportSql
  | .exportJson => .ok (w.exportJson now)
  | .canvas => .ok w.canvas.view.toJson.pretty
  | .share origin embed =>
    let link := w.shareLink origin
    .ok (if embed then ShareLink.embedCode link else link ++ "\n")

/-- The settings that a command is carried out with. -/
def Invocation.settings (i : Invocation) (files : Files) : Except Failure Settings :=
  match i.config with
  | none => .ok {}
  | some path => do
    let text ← (files path).mapError (.config path)
    (Settings.parse text).mapError .settings

/-- Carries out a command. -/
def Invocation.run (i : Invocation) (files : Files) (now : Instant) : Except Failure String := do
  let settings ← i.settings files
  let content ← (files i.input).mapError (.input i.input)
  i.result settings content now

/-- A summary of the commands and their options. -/
def usage : String :=
  "Convert between schema text, SQL DDL and diagram documents\n\n" ++
  "Commands:\n" ++
  "  import INPUT [-f FORMAT] [--to-sql [-d DIALECT]]\n" ++
  "  generate INPUT [-d DIALECT]\n" ++
  "  export-json INPUT\n" ++
  "  canvas INPUT\n" ++
  "  share INPUT [--origin ADDRESS] [--embed]\n\n" ++
  "Options of all commands: -o OUTPUT, --config SETTINGS, -h\n"

end SchemaDiagram.CommandLine
