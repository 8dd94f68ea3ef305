import BackupConsole.Fault

set_option autoImplicit false

namespace BackupConsole.CommandLine

inductive UsageError
  | nothingTyped
  | noSuchOption (name : String)
  | needsValue (name : String)
  | takesNoValue (name : String)
  | badReal (name : String) (flaw : Flaw)
  | notOneOf (name value : String) (values : List String)
  | missingCommand
  | noSuchCommand (name : String)
  | missingArgument (name : String)
  | extraArguments (words : List String)
  | valueRequired (name : String)
  deriving DecidableEq

namespace UsageError

private def invalidValue (name reason : String) : String :=
  "Invalid value for '" ++ name ++ "': " ++ reason

def message : UsageError → String
  | nothingTyped => ""
  | noSuchOption name => "No such option: " ++ name
  | needsValue name => "Option " ++ Text.quote name ++ " requires an argument."
  | takesNoValue name => "Option " ++ Text.quote name ++ " does not take a value."
  | badReal name flaw => invalidValue name flaw.message
  | notOneOf name value values =>
    invalidValue name ("Value error, " ++ Text.quote value ++ " is not one of " ++
      ", ".intercalate (values.map Text.quote) ++ ".")
  | missingCommand => "Missing command."
  | noSuchCommand name => "No such command " ++ Text.quote name ++ "."
  | missingArgument name => "Missing argument '" ++ name ++ "'."
  | extraArguments words =>
    "Got unexpected extra argument(s) (" ++ " ".intercalate words ++ ")"
  | valueRequired name => invalidValue name "a value is required"

end UsageError

end BackupConsole.CommandLine
