import Scriptlet.Numeral
import Scriptlet.Text.Quoted

/-!
# Settings

How programs are run can be set by environment variables. A variable that is not set, or, where
that cannot be meant, is set to white space, leaves its setting at the default. The variables are
read in a fixed order, and the first one that is malformed is reported.
-/

namespace Scriptlet

/-- The least importance of the notes that are shown. -/
inductive LogLevel where
  | critical
  | fatal
  | error
  | warn
  | warning
  | info
  | debug
  | notset
deriving DecidableEq, Repr

namespace LogLevel

/-- The name of a level. -/
def name : LogLevel → String
  | critical => "CRITICAL"
  | fatal => "FATAL"
  | error => "ERROR"
  | warn => "WARN"
  | warning => "WARNING"
  | info => "INFO"
  | debug => "DEBUG"
  | notset => "NOTSET"

/-- All levels. -/
def all : List LogLevel := [critical, fatal, error, warn, warning, info, debug, notset]

/-- The level of a given name. -/
def ofName? (s : String) : Option LogLevel := all.find? (·.name = s)

theorem ofName?_name (l : LogLevel) : ofName? l.name = some l := by cases l <;> decide

/-- Whether the notes of a debugging run are shown. -/
def showsNotes : LogLevel → Bool
  | debug | notset => true
  | _ => false

end LogLevel

/-- The environment variables that are set, by their names. -/
abbrev Environment := String → Option String

/-- How programs are run. -/
structure Settings where
  /-- How many calls may be nested. -/
  maxCallDepth : Int := 100
  /-- Whether leaves without a value are passed over, and not errors. -/
  permissiveLeaves : Bool := false
  /-- Whether arguments and results are checked against the annotations. -/
  checkTypes : Bool := false
  /-- Which notes are shown. -/
  logLevel : LogLevel := .warning
deriving DecidableEq, Repr

namespace Settings

/-- The variable of the call depth. -/
def depthVariable : String := "MINILANG_MAX_CALL_DEPTH"

/-- The variable of permissive leaves. -/
def permissiveVariable : String := "MINILANG_PERMISSIVE_LEAVES"

/-- The variable of type checks. -/
def checkVariable : String := "MINILANG_CHECK_TYPES"

/-- The variable of the log level. -/
def levelVariable : String := "MINILANG_LOG_LEVEL"

/-- Why a variable is malformed. -/
inductive Malformed where
  /-- The call depth is no integer. -/
  | depthNotInteger (raw : String)
  /-- The call depth allows no call. -/
  | depthTooSmall (depth : Int)
  /-- A flag is neither on nor off. -/
  | notFlag (variableName raw : String)
  /-- The log level is none that there is. -/
  | unknownLevel (raw : String)
deriving DecidableEq, Repr

/-- What is said of a malformed variable. -/
def Malformed.message : Malformed → String
  | depthNotInteger raw => depthVariable ++ " must be an integer, got " ++ Text.quoted raw
  | depthTooSmall depth => depthVariable ++ " must be at least 1, got " ++ toString depth
  | notFlag variableName raw => variableName ++ " must be a boolean flag, got " ++ Text.quoted raw
  | unknownLevel raw => levelVariable ++ " must be a logging level name, got " ++ Text.quoted raw

/-- The value of a flag, if it is one. Case does not matter, nor does white space around it. -/
def flag? (raw : String) : Option Bool :=
  let word := String.ofList ((Text.trim raw.toList).map Char.toLower)
  if word ∈ ["1", "true", "yes", "on"] then some true
  else if word ∈ ["", "0", "false", "no", "off"] then some false
  else none

/-- A letter in upper case. Beside the ASCII letters these are the two other letters whose upper
case is an ASCII letter. -/
def upperLetter (c : Char) : Char :=
  if c = 'ı' then 'I' else if c = 'ſ' then 'S' else c.toUpper

/-- The level that a text names. Case does not matter, nor does white space around it. -/
def level? (raw : String) : Option LogLevel :=
  LogLevel.ofName? (String.ofList ((Text.trim raw.toList).map upperLetter))

/-- A variable that is set to more than white space. -/
def filled? (environment : Environment) (variableName : String) : Option String :=
  (environment variableName).filter fun raw => !(Text.trim raw.toList).isEmpty

/-- The call depth that an environment sets. -/
def depthOf (environment : Environment) (default : Int) : Except Malformed Int :=
  match filled? environment depthVariable with
  | none => .ok default
  | some raw =>
    match Numeral.readGrouped raw.toList with
    | .error _ => .error (.depthNotInteger raw)
    | .ok depth => if depth < 1 then .error (.depthTooSmall depth) else .ok depth

/-- The flag that a variable sets. -/
def flagOf (environment : Environment) (variableName : String) (default : Bool) :
    Except Malformed Bool :=
  match environment variableName with
  | none => .ok default
  | some raw =>
    match flag? raw with
    | none => .error (.notFlag variableName raw)
    | some b => .ok b

/-- The log level that an environment sets. -/
def levelOf (environment : Environment) (default : LogLevel) : Except Malformed LogLevel :=
  match filled? environment levelVariable with
  | none => .ok default
  | some raw =>
    match level? raw with
    | none => .error (.unknownLevel raw)
    | some level => .ok level

/-- The settings that an environment makes. -/
def ofEnvironment (environment : Environment) : Except Malformed Settings := do
  let defaults : Settings := {}
  let maxCallDepth ← depthOf environment defaults.maxCallDepth
  let permissiveLeaves ← flagOf environment permissiveVariable defaults.permissiveLeaves
  let checkTypes ← flagOf environment checkVariable defaults.checkTypes
  let logLevel ← levelOf environment defaults.logLevel
  return { maxCallDepth, permissiveLeaves, checkTypes, logLevel }

end Settings

end Scriptlet
