import Scriptlet.Text.Digit
import Scriptlet.Text.Quoted

/-!
# The arguments of the command line

An invocation names one of four commands and a file. Before the command there may be flags; flags
after it belong to the command. A long flag may be cut short, short flags may share one dash, and
`--` ends the flags. Arguments that nobody takes are refused at the very end, so that any other
fault, and a call for help, comes first.
-/

namespace Scriptlet.CommandLine

/-- What can be done with a program. -/
inductive Command where
  /-- Running it. -/
  | run
  /-- Looking for errors that keep it from being run. -/
  | check
  /-- Printing its statements as trees. -/
  | ast
  /-- Printing its tokens. -/
  | tokens
deriving DecidableEq, Repr

namespace Command

/-- The name of a command. -/
def name : Command → String
  | run => "run"
  | check => "check"
  | ast => "ast"
  | tokens => "tokens"

/-- All commands. -/
def all : List Command := [run, check, ast, tokens]

/-- The command of a given name. -/
def ofName? (s : String) : Option Command := all.find? (·.name = s)

theorem ofName?_name (c : Command) : ofName? c.name = some c := by cases c <;> decide

end Command

/-- What an invocation asks for. -/
inductive Request where
  /-- Help, on a command or in general. -/
  | help (topic : Option Command)
  /-- Nothing that is understood: the message says why, the topic says where. -/
  | misuse (topic : Option Command) (message : String)
  /-- Doing something with a file, with all notes shown if `verbose`. -/
  | perform (command : Command) (verbose : Bool) (file : String)
deriving DecidableEq, Repr

/-! ## Flags -/

/-- The flags that there are. -/
inductive Flag where
  /-- Asks for help. -/
  | help
  /-- Asks for all notes. -/
  | verbose
deriving DecidableEq, Repr

namespace Flag

/-- The letter of a flag. -/
def letter : Flag → Char
  | help => 'h'
  | verbose => 'v'

/-- The word of a flag. -/
def word : Flag → String
  | help => "--help"
  | verbose => "--verbose"

/-- The short form of a flag. -/
def short (f : Flag) : String := String.ofList ['-', f.letter]

/-- The flag as error messages name it. -/
def title (f : Flag) : String := f.short ++ "/" ++ f.word

/-- What is said where a flag is given a value. -/
def valueMessage (f : Flag) (value : List Char) : String :=
  "argument " ++ f.title ++ ": ignored explicit argument " ++ Text.quoted (String.ofList value)

end Flag

/-- What an argument is, as far as its own text tells. -/
inductive Word where
  /-- An argument that is no flag. -/
  | plain (s : String)
  /-- The mark behind which no flags are. -/
  | mark
  /-- Something that looks like a flag but is none of those that there are. -/
  | unknown (s : String)
  /-- A flag without a value. -/
  | flag (f : Flag)
  /-- A flag with a value, which no flag takes. -/
  | valued (f : Flag) (value : List Char)
  /-- A short flag with further flags behind it, a letter each, if it is right. -/
  | letters (f : Flag) (more : List Char)
deriving DecidableEq, Repr

/-- Whether a text is a negative number, such as `-5` or `-.5`; a line feed at its end is
overlooked. -/
def isNegativeNumber (cs : List Char) : Bool :=
  let digits (ds : List Char) : Bool := !ds.isEmpty && ds.all Text.isDecimalDigit
  let body := if cs.getLast? = some '\n' then cs.dropLast else cs
  match body with
  | '-' :: rest =>
    digits rest ||
      (rest.dropWhile Text.isDecimalDigit).head? = some '.' &&
        digits ((rest.dropWhile Text.isDecimalDigit).drop 1)
  | _ => false

/-- A text split at its first equals sign, if it has one. -/
def splitValue (cs : List Char) : List Char × Option (List Char) :=
  let (before, rest) := (cs.takeWhile (· ≠ '='), cs.dropWhile (· ≠ '='))
  (before, rest.tail?)

/-- What a flag is with a text behind an equals sign, given whether the flag is the short one.
Behind a short flag the sign says nothing: the text is read as letters, unless there is none of
it. -/
def Flag.withText (f : Flag) (isShort : Bool) (text : List Char) : Word :=
  if isShort && !text.isEmpty then .letters f text else .valued f text

/-- What an argument is that starts with a dash and is none of the flags as it stands; if several
flags fit it, these are what it could mean. -/
def classifyDashed (flags : List Flag) (s : String) : Except (List Flag) Word :=
  let cs := s.toList
  let (before, value) := splitValue cs
  let other : Word :=
    if isNegativeNumber cs || cs.contains ' ' then .plain s else .unknown s
  match flags.find? (fun f => f.short.toList = before || f.word.toList = before), value with
  | some f, some value => .ok (f.withText (f.short.toList = before) value)
  | _, _ =>
    match cs with
    | '-' :: '-' :: _ =>
      match flags.filter fun f => before.isPrefixOf f.word.toList with
      | [] => .ok other
      | [f] => .ok (match value with
        | some value => .valued f value
        | none => .flag f)
      | fs => .error fs
    | '-' :: c :: more =>
      match flags.find? (·.letter = c) with
      | some f => .ok (.letters f more)
      | none => .ok other
    | _ => .ok other

/-- What an argument is, before any mark; if several flags fit it, these are what it could mean. -/
def classify (flags : List Flag) (s : String) : Except (List Flag) Word :=
  match flags.find? fun f => f.short = s || f.word = s with
  | some f => .ok (.flag f)
  | none => if s.startsWith "-" && s ≠ "-" then classifyDashed flags s else .ok (.plain s)

/-- What is said of an argument that could be several flags. -/
def ambiguousMessage (s : String) (flags : List Flag) : String :=
  "ambiguous option: " ++ s ++ " could match " ++ ", ".intercalate (flags.map Flag.word)

/-- What arguments are; behind a mark all are plain. -/
def classifyAll (flags : List Flag) : List String → Except String (List Word)
  | [] => .ok []
  | s :: rest =>
    if s = "--" then .ok (.mark :: rest.map .plain)
    else
      match classify flags s with
      | .error fs => .error (ambiguousMessage s fs)
      | .ok w => (classifyAll flags rest).map (w :: ·)

/-- The flags that share a dash with a flag, and that flag. Where a character is no flag, it and all
behind it is a value of the flag before it, which no flag takes. -/
def spell (flags : List Flag) (f : Flag) : List Char → Except String (List Flag)
  | [] => .ok [f]
  | c :: more =>
    match flags.find? (·.letter = c) with
    | none => .error (f.valueMessage (c :: more))
    | some g => (spell flags g more).map (f :: ·)

/-- What an argument stands for: the flags in it, and the argument itself if it is no flag. -/
def Word.flags (flags : List Flag) : Word → Except String (List Flag × List String)
  | .flag f => .ok ([f], [])
  | .valued f value => .error (f.valueMessage value)
  | .letters f more => (spell flags f more).map fun fs => (fs, [])
  | .unknown s => .ok ([], [s])
  | .mark => .ok ([], ["--"])
  | .plain s => .ok ([], [s])

/-! ## The arguments of a command -/

/-- What is said where an argument is missing. -/
def missingMessage (name : String) : String := "the following arguments are required: " ++ name

/-- Takes the file off the arguments of a command: either a request that comes of them at once, or
the file, if there is one, and the arguments that are left over. -/
def takeFile (command : Command) (file : Option String) (left : List String) :
    List Word → Except Request (Option String × List String)
  | [] => .ok (file, left)
  | .mark :: .plain s :: rest =>
    match file with
    | none => takeFile command (some s) left rest
    | some file => takeFile command (some file) (left ++ ["--", s]) rest
  | .plain s :: .mark :: rest =>
    match file with
    | none => takeFile command (some s) left rest
    | some file => takeFile command (some file) (left ++ [s, "--"]) rest
  | .plain s :: rest =>
    match file with
    | none => takeFile command (some s) left rest
    | some file => takeFile command (some file) (left ++ [s]) rest
  | w :: rest =>
    match w.flags [.help] with
    | .error message => .error (.misuse (some command) message)
    | .ok (fs, more) =>
      if fs.isEmpty then takeFile command file (left ++ more) rest
      else .error (.help (some command))

/-- What the arguments of a command ask for, given the arguments before it that nobody took. -/
def requestOf (command : Command) (verbose : Bool) (left : List String) (args : List String) :
    Request :=
  match classifyAll [.help] args with
  | .error message => .misuse (some command) message
  | .ok words =>
    match takeFile command none [] words with
    | .error request => request
    | .ok (none, _) => .misuse (some command) (missingMessage "file")
    | .ok (some file, more) =>
      if (left ++ more).isEmpty then .perform command verbose file
      else .misuse none ("unrecognized arguments: " ++ " ".intercalate (left ++ more))

/-! ## The whole command line -/

/-- What is said of a command that there is none of. -/
def unknownCommandMessage (s : String) : String :=
  "argument action: invalid choice: " ++ Text.quoted s ++ " (choose from " ++
    ", ".intercalate (Command.all.map fun c => Text.quoted c.name) ++ ")"

/-- Takes the flags before the command off the arguments, and leaves the rest to the command. The
words say what the arguments are. -/
def takeCommand (verbose : Bool) (left : List String) : List Word → List String → Request
  | [], _ | [.mark], _ | _, [] => .misuse none (missingMessage "action")
  | .mark :: _, _ => .misuse none (unknownCommandMessage "--")
  | .plain s :: _, _ :: args =>
    match Command.ofName? s with
    | none => .misuse none (unknownCommandMessage s)
    | some command => requestOf command verbose left args
  | w :: words, _ :: args =>
    match w.flags [.help, .verbose] with
    | .error message => .misuse none message
    | .ok (fs, more) =>
      if .help ∈ fs then .help none
      else takeCommand (verbose || .verbose ∈ fs) (left ++ more) words args

/-- What an invocation asks for. -/
def Request.ofArguments (args : List String) : Request :=
  match classifyAll [.help, .verbose] args with
  | .error message => .misuse none message
  | .ok words => takeCommand false [] words args

/-! ## Texts -/

/-- How the program or one of its commands is invoked. -/
def programName : Option Command → String
  | none => "python -m minilang"
  | some command => "python -m minilang " ++ command.name

/-- The names of the commands as usage lines and help list them. -/
def commandNames : String := "\x7b" ++ ",".intercalate (Command.all.map Command.name) ++ "\x7d"

/-- The usage line. -/
def usageLine : Option Command → String
  | none => "usage: " ++ programName none ++ " [-h] [-v] " ++ commandNames ++ " ...\n"
  | some command => "usage: " ++ programName (some command) ++ " [-h] file\n"

/-- What is said of a command in the list of commands. -/
def Command.summary : Command → String
  | run => "Run a program"
  | check => "Check a program for syntax errors"
  | ast => "Print the parsed statements"
  | tokens => "Print the token stream"

/-- A text set flush left in a field of the given width. -/
def flushLeft (width : Nat) (s : String) : String :=
  s ++ String.ofList (List.replicate (width - s.length) ' ')

/-- The help text. -/
def helpText : Option Command → String
  | none =>
    usageLine none ++ "\nminilang interpreter\n\n" ++
      "positional arguments:\n  " ++ commandNames ++ "\n" ++
      String.join (Command.all.map fun c => "    " ++ flushLeft 20 c.name ++ c.summary ++ "\n") ++
      "\noptions:\n  -h, --help            show this help message and exit\n" ++
      "  -v, --verbose         Enable debug logging\n"
  | some command =>
    usageLine (some command) ++ "\npositional arguments:\n  file        Source file\n" ++
      "\noptions:\n  -h, --help  show this help message and exit\n"

/-- What is written where an invocation is not understood. -/
def misuseText (topic : Option Command) (message : String) : String :=
  usageLine topic ++ programName topic ++ ": error: " ++ message ++ "\n"

end Scriptlet.CommandLine
