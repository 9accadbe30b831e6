import SpecForge.Document.Display
import SpecForge.Text.Similar
import SpecForge.Text.Styling

/-!
# Usage

How a command is written, and why the words of a command line do not lead to a command: they may ask
for the help or for the version, or have a fault. For a name that there is not, names that are like
it are proposed.
-/

namespace SpecForge.Command

/-- The version of the program. -/
def programVersion : String := "0.1.0"

/-- How a command is written. -/
structure Usage where
  command : String
  operands : List String

/-- The line that shows how a command is written. -/
def Usage.line (u : Usage) : String :=
  "Usage: " ++ " ".intercalate (u.command :: "[OPTIONS]" :: u.operands)

/-- Why words do not lead to a command. -/
inductive UsageFault where
  | help
  | version
  | noWords
  | missingCommand
  | unknownCommand (name : String) (similar : List String)
  | unknownOption (name : String) (similar : List String)
  | needsValue (option : String)
  | takesNoValue (option : String)
  | notAmong (option : List String) (value : String) (choices : List String)
  | missingOperand (name : String)
  | unexpected (words : List String)

/-- The question whether one of some names was meant. -/
def proposal : List String → String
  | [] => ""
  | [name] => " Did you mean " ++ Text.shown name ++ "?"
  | names => " (Did you mean one of: " ++ ", ".intercalate (names.map Text.shown) ++ "?)"

/-- The wording of a fault. -/
def UsageFault.message : UsageFault → String
  | .help => ""
  | .version => ""
  | .noWords => ""
  | .missingCommand => "Missing command."
  | .unknownCommand name similar =>
    "No such command " ++ Text.shown name ++ "." ++ proposal similar
  | .unknownOption name similar =>
    "No such option " ++ Text.shown name ++ "." ++ proposal similar
  | .needsValue option => "Option " ++ Text.shown option ++ " requires an argument."
  | .takesNoValue option => "Option " ++ Text.shown option ++ " does not take a value."
  | .notAmong option value choices =>
    "Invalid value for " ++ " / ".intercalate (option.map fun name => "'" ++ name ++ "'") ++ ": " ++
      Text.shown value ++ " is not one of " ++
      ", ".intercalate (choices.map Text.shown) ++ "."
  | .missingOperand name => "Missing argument '" ++ name ++ "'."
  | .unexpected words =>
    "Got unexpected extra argument" ++ (if words.length == 1 then "" else "s") ++ " (" ++
      " ".intercalate words ++ ")"

/-- A fault and the command that the words were meant for. -/
structure UsageError where
  usage : Usage
  fault : UsageFault

namespace UsageError

/-- Is the fault said to be one of a single option, without showing how the command is written? -/
def isBare (e : UsageError) : Bool :=
  match e.fault with
  | .needsValue _ => true
  | .takesNoValue _ => true
  | _ => false

/-- What the user is told. -/
def text (e : UsageError) : String :=
  match e.fault with
  | .help => e.usage.line ++ "\n"
  | .noWords => e.usage.line ++ "\n"
  | .version => e.usage.command ++ ", version " ++ programVersion ++ "\n"
  | fault =>
    (if e.isBare then ""
      else e.usage.line ++ "\nTry '" ++ e.usage.command ++ " --help' for help.\n\n") ++
      Text.plain ("Error: " ++ fault.message) ++ "\n"

end UsageError

end SpecForge.Command
