import Debuggee.Text.Case
import Debuggee.Text.Path

namespace Debuggee

open Text

inductive LogFormat : Type
  | pretty : LogFormat
  | json : LogFormat
  deriving DecidableEq, Repr

namespace LogFormat

def parse (text : String) : Except String LogFormat :=
  match String.ofList (lower text.toList) with
  | "pretty" | "dev" | "development" => .ok .pretty
  | "json" | "prod" | "production" => .ok .json
  | _ => .error s!"Unknown log format: {text}. Use 'pretty' or 'json'"

def text : LogFormat → String
  | .pretty => "Pretty"
  | .json => "Json"

end LogFormat

inductive LogLevel : Type
  | error : LogLevel
  | warn : LogLevel
  | info : LogLevel
  | debug : LogLevel
  | trace : LogLevel
  deriving DecidableEq, Repr

namespace LogLevel

def parse (text : String) : Except String LogLevel :=
  match String.ofList (lower text.toList) with
  | "error" | "err" => .ok .error
  | "warn" | "warning" => .ok .warn
  | "info" => .ok .info
  | "debug" | "dbg" => .ok .debug
  | "trace" => .ok .trace
  | _ => .error s!"Unknown log level: {text}. Use 'error', 'warn', 'info', 'debug', or 'trace'"

def text : LogLevel → String
  | .error => "ERROR"
  | .warn => "WARN"
  | .info => "INFO"
  | .debug => "DEBUG"
  | .trace => "TRACE"

end LogLevel

inductive LogError : Type
  | invalidFormat : String → LogError
  | invalidLevel : String → LogError
  | initializationFailed : String → LogError
  | file : String → LogError
  deriving DecidableEq, Repr

def LogError.message : LogError → String
  | .invalidFormat text => s!"Invalid log format: {text}"
  | .invalidLevel text => s!"Invalid log level: {text}"
  | .initializationFailed text => s!"Failed to initialize logging: {text}"
  | .file text => s!"File logging error: {text}"

namespace LogFile

def defaultDirectory (home : String) : String :=
  String.ofList (Path.join home.toList ".vantage".toList)

def dated (directory date : String) : String :=
  String.ofList (Path.join directory.toList (date ++ "-vantage.log").toList)

end LogFile

end Debuggee
