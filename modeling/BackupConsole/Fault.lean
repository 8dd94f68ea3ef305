import BackupConsole.Text.Quoted

set_option autoImplicit false

namespace BackupConsole

inductive Rejection
  | emptyAddress
  | compressor (value : String)
  | timeout
  | logLevel (value : String)
  | logFormat (value : String)
  deriving DecidableEq, Repr

def Rejection.message : Rejection → String
  | emptyAddress => "server address must not be empty"
  | compressor value => "server compressor " ++ Text.quote value ++
      " is invalid (expected one of: gzip, deflate, none)"
  | timeout => "connect timeout must be positive"
  | logLevel value => "log level " ++ Text.quote value ++ " is invalid"
  | logFormat value => "log format " ++ Text.quote value ++
      " is invalid (expected console or json)"

inductive Flaw
  | notText
  | brokenText
  | notBool
  | unreadableBool
  | notReal
  | unreadableReal
  | notInteger
  | unreadableInteger
  | notWhole
  | notFinite
  | tooLarge
  | notAllowed
  | badKey
  | missing
  | frozen
  | rejected (reason : Rejection)
  deriving DecidableEq, Repr

namespace Flaw

def kind : Flaw → String
  | notText => "string_type"
  | brokenText => "string_unicode"
  | notBool => "bool_type"
  | unreadableBool => "bool_parsing"
  | notReal => "float_type"
  | unreadableReal => "float_parsing"
  | notInteger => "int_type"
  | unreadableInteger => "int_parsing"
  | notWhole => "int_from_float"
  | notFinite => "finite_number"
  | tooLarge => "int_parsing_size"
  | notAllowed => "extra_forbidden"
  | badKey => "invalid_key"
  | missing => "missing"
  | frozen => "frozen_instance"
  | rejected _ => "value_error"

def message : Flaw → String
  | notText => "Input should be a valid string"
  | brokenText =>
    "Input should be a valid string, unable to parse raw data as a unicode string"
  | notBool => "Input should be a valid boolean"
  | unreadableBool => "Input should be a valid boolean, unable to interpret input"
  | notReal => "Input should be a valid number"
  | unreadableReal => "Input should be a valid number, unable to parse string as a number"
  | notInteger => "Input should be a valid integer"
  | unreadableInteger =>
    "Input should be a valid integer, unable to parse string as an integer"
  | notWhole => "Input should be a valid integer, got a number with a fractional part"
  | notFinite => "Input should be a finite number"
  | tooLarge => "Unable to parse input string as an integer, exceeded maximum size"
  | notAllowed => "Extra inputs are not permitted"
  | badKey => "Keys should be strings"
  | missing => "Field required"
  | frozen => "Instance is frozen"
  | rejected reason => "Value error, " ++ reason.message

end Flaw

structure Fault where
  place : String
  flaw : Flaw
  deriving DecidableEq, Repr

end BackupConsole
