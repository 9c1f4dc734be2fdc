import SchemaSeed.Command.Request

/-!
Arguments of the program: options and flags for the whole program, a command, then options, flags and
an operand of that command.

An option takes its value after an equals sign or from the next argument, which then must not look
like an option. Each option and each flag can be given once before the command and once after it, if
both know it. After a lone `--` all arguments are operands.
-/

set_option autoImplicit false
set_option relaxedAutoImplicit false

namespace SchemaSeed.Command

/-- What an argument looks like. -/
inductive Argument where
  /-- The lone `--`. -/
  | separator
  /-- A name after two dashes, with the text after an equals sign. -/
  | long (name : String) (value : Option String)
  /-- Letters after one dash; only the first of them matters. -/
  | short (letter : Char)
  | plain (text : String)
  deriving DecidableEq, Repr

namespace Argument

private def longOf (cs : List Char) : Argument :=
  .long (String.ofList (cs.takeWhile (· ≠ '=')))
    (match cs.dropWhile (· ≠ '=') with
      | [] => none
      | _ :: value => some (String.ofList value))

/-- What a text looks like as an argument; a lone dash is a plain text. -/
def ofText (s : String) : Argument :=
  match s.toList with
  | ['-', '-'] => .separator
  | '-' :: '-' :: cs => longOf cs
  | '-' :: letter :: _ => .short letter
  | _ => .plain s

end Argument

/-- What a plain argument is. -/
inductive PlainRole where
  /-- The word for a command, which ends the arguments of the whole program. -/
  | command
  | operand
  /-- There are no plain arguments. -/
  | nothing
  deriving DecidableEq, Repr

/-- What can be given at one place. -/
structure Form where
  /-- The names that take a value. -/
  options : List String
  /-- The names that take none. -/
  flags : List String
  plain : PlainRole
  /-- Whether the version can be asked for. -/
  tellsVersion : Bool := false

namespace Form

/-- What can be given before the command. -/
def ofProgram : Form := ⟨["path"], ["json"], .command, true⟩

/-- What can be given after a command. -/
def ofVerb : Verb → Form
  | .migrate => ⟨["path", "db"], ["json"], .operand, false⟩
  | .rollBack => ⟨["path", "db"], ["json", "force"], .operand, false⟩
  | .status => ⟨["path", "db"], ["json"], .nothing, false⟩
  | .seed => ⟨["path", "db"], ["json", "force"], .operand, false⟩
  | .makeMigration => ⟨["path", "db"], ["json"], .operand, false⟩
  | .makeSeeder => ⟨["path", "db"], ["json"], .operand, false⟩
  | .makeFactory => ⟨["path"], ["json"], .operand, false⟩
  | .compile => ⟨["path", "db"], ["json", "rollback"], .operand, false⟩

end Form

/-- What has been given at one place. -/
structure Given where
  options : List (String × String) := []
  flags : List String := []
  operand : Option String := none
  deriving DecidableEq, Repr

namespace Given

/-- Adds the value of an option; a second one is refused, and so is an empty path. -/
def addOption (g : Given) (name value : String) : Except Intent Given :=
  if (g.options.lookup name).isSome ∨ (name = "path" ∧ value = "") then .error .misuse
  else .ok { g with options := (name, value) :: g.options }

/-- Adds a flag; a second one is refused. -/
def addFlag (g : Given) (name : String) : Except Intent Given :=
  if g.flags.contains name then .error .misuse else .ok { g with flags := name :: g.flags }

/-- Adds the operand if there is to be one; a second one is refused. -/
def addOperand (form : Form) (g : Given) (text : String) : Except Intent Given :=
  if form.plain = .operand ∧ g.operand = none then .ok { g with operand := some text }
  else .error .misuse

/-- Adds an option or flag after two dashes. An option that still lacks its value is told. -/
def addLong (form : Form) (g : Given) (name : String) (value : Option String) :
    Except Intent (Given × Option String) :=
  if form.options.contains name then
    match value with
    | some value => do return (← g.addOption name value, none)
    | none => .ok (g, some name)
  else if value.isSome then .error .misuse
  else if form.flags.contains name then do return (← g.addFlag name, none)
  else if name = "help" then .error .help
  else if form.tellsVersion ∧ name = "version" then .error .version
  else .error .misuse

/-- What a letter after one dash asks for. -/
def shortIntent (form : Form) (letter : Char) : Intent :=
  if letter = 'h' then .help
  else if form.tellsVersion ∧ letter = 'V' then .version
  else .misuse

/-- Reads the arguments at one place, up to a command if there can be one. An option that lacks its
value comes first. -/
def read (form : Form) : Option String → Given → List String →
    Except Intent (Given × Option (String × List String))
  | some _, _, [] => .error .misuse
  | none, g, [] => .ok (g, none)
  | some name, g, arg :: rest =>
    match Argument.ofText arg with
    | .plain value => do read form none (← g.addOption name value) rest
    | _ => .error .misuse
  | none, g, arg :: rest =>
    match Argument.ofText arg with
    | .separator => do return (← rest.foldlM (addOperand form) g, none)
    | .short letter => .error (shortIntent form letter)
    | .long name value => do
      let (g, pending) ← g.addLong form name value
      read form pending g rest
    | .plain text =>
      if form.plain = .command then .ok (g, some (text, rest))
      else do read form none (← g.addOperand form text) rest

/-- The request of a command, unless it lacks its operand. -/
def request? (g : Given) : Verb → Option Request
  | .migrate => some (.migrate g.operand)
  | .rollBack => some (.rollBack g.operand (g.flags.contains "force"))
  | .status => some .status
  | .seed => some (.seed g.operand (g.flags.contains "force"))
  | .makeMigration => g.operand.map .makeMigration
  | .makeSeeder => g.operand.map .makeSeeder
  | .makeFactory => g.operand.map .makeFactory
  | .compile => g.operand.map fun file => .compile file (g.flags.contains "rollback")

end Given

namespace Intent

/-- The intent of a command with its arguments, after those for the whole program. What is given after
the command wins. -/
def ofVerb (before : Given) (verb : Verb) (args : List String) : Intent :=
  match Given.read (.ofVerb verb) none {} args with
  | .error intent => intent
  | .ok (after, _) =>
    match after.request? verb with
    | none => .misuse
    | some request => .perform
      { request
        database := after.options.lookup "db"
        root := after.options.lookup "path" <|> before.options.lookup "path"
        asJson := before.flags.contains "json" || after.flags.contains "json" }

/-- The intent of the word `help` with what it is asked about: nothing or one word that is known. -/
def ofHelp : List String → Intent
  | [] => .help
  | [word] => if word = "help" ∨ (Verb.ofText? word).isSome then .help else .misuse
  | _ => .misuse

/-- The intent of a list of arguments. -/
def ofArguments (args : List String) : Intent :=
  match Given.read .ofProgram none {} args with
  | .error intent => intent
  | .ok (_, none) => .misuse
  | .ok (before, some (word, rest)) =>
    if word = "help" then ofHelp rest
    else
      match Verb.ofText? word with
      | some verb => ofVerb before verb rest
      | none => .misuse

end Intent

end SchemaSeed.Command
