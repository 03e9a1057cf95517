/-
# The command line

`Options.ofArguments` reads the words of a command line: at most one path of a story, and
switches.  A switch may be shortened as long as it is the only one that begins so, and its value
is the next word or stands behind an equals sign.  After `--` every word is a path.

A word that begins with a dash is no switch, but may be a path or a value, if it is a single
dash, a negative number, or holds a space.
-/
import Gamebook.Number.Literal
import Gamebook.Text.Split

namespace Gamebook

/-- How much is to be logged. -/
inductive LogLevel where
  | debug
  | info
  | warning
  | error
deriving DecidableEq, Repr

/-- Whether warnings are among what is logged. -/
def LogLevel.warns : LogLevel → Bool
  | .debug | .info | .warning => true
  | .error => false

/-- What a command line asks for. -/
structure Options where
  /-- The folder of the story; none for the usual one. -/
  story : Option String := none
  /-- The save file. -/
  save : String := "save.json"
  seed : Option Int := none
  /-- Whether the story is only checked. -/
  validate : Bool := false
  logLevel : LogLevel := .warning
deriving DecidableEq

namespace CommandLine

/-! ## 1. Words -/

/-- The switches that take a value. -/
inductive Setting where
  | save
  | seed
  | logLevel
deriving DecidableEq, Repr

/-- The switches. -/
inductive Switch where
  | help
  | validate
  | setting (setting : Setting)
deriving DecidableEq, Repr

/-- Why there are no options. -/
inductive Stop where
  /-- Help was asked for. -/
  | help
  /-- The command line is wrong. -/
  | wrong
deriving DecidableEq, Repr

/-- A word of a command line as it is understood. -/
inductive Word where
  | plain (text : String)
  /-- The mark after which every word is plain. -/
  | divider
  | switch (switch : Switch)
  /-- A switch with something written right behind it. -/
  | attached (setting : Setting) (value : String)
  /-- A switch without a value that got one. -/
  | misused
  /-- What looks like a switch and is none. -/
  | stray

/-- The names of the switches. -/
def names : List (String × Switch) :=
  [("--help", .help), ("--save", .setting .save), ("--seed", .setting .seed),
   ("--validate", .validate), ("--log-level", .setting .logLevel)]

/-- What stands before the first equals sign, and what stands behind it. -/
def atEquals (cs : List Char) : String × Option String :=
  match cs.dropWhile (· ≠ '=') with
  | [] => (String.ofList cs, none)
  | _ :: value => (String.ofList (cs.takeWhile (· ≠ '=')), some (String.ofList value))

/-- Whether a text is one or more decimal digits. -/
def isDigits (cs : List Char) : Bool :=
  !cs.isEmpty && cs.all fun c => (Text.decimalValue? c).isSome

/-- Whether a word is a negative number; one line feed at its end does not count. -/
def isNegative : List Char → Bool
  | '-' :: rest =>
    let body := if rest.getLast? = some '\n' then rest.dropLast else rest
    isDigits body || match Text.splitAt '.' body with
      | [whole, fraction] => (whole.isEmpty || isDigits whole) && isDigits fraction
      | _ => false
  | _ => false

/-- Understands a word that no switch is called like. -/
def otherWord (cs : List Char) : Word :=
  if isNegative cs || cs.contains ' ' then .plain (String.ofList cs) else .stray

/-- A switch with what is written behind its equals sign, if there is one. -/
def called (switch : Switch) (value : Option String) : Word :=
  match switch, value with
  | .setting setting, some value => .attached setting value
  | _, some _ => .misused
  | switch, none => .switch switch

/-- Understands a word that begins with two dashes. -/
def longWord (cs : List Char) : Except Stop Word :=
  let (name, value) := atEquals cs
  match names.lookup name with
  | some switch => .ok (called switch value)
  | none =>
    match names.filter fun known => name.toList.isPrefixOf known.1.toList with
    | [] => .ok (otherWord cs)
    | [(_, switch)] => .ok (called switch value)
    | _ => .error .wrong

/-- The short call for help, with what is written behind it: it may be repeated, the first time
also behind an equals sign, and nothing else may follow. -/
def shortHelp (cs : List Char) : Word :=
  let repeated := match cs with
    | '=' :: more => !more.isEmpty && more.all (· = 'h')
    | _ => cs.all (· = 'h')
  if repeated then .switch .help else .misused

/-- Understands a word. -/
def classify (text : String) : Except Stop Word :=
  let cs := text.toList
  match cs with
  | ['-'] => .ok (.plain text)
  | '-' :: '-' :: _ => longWord cs
  | '-' :: 'h' :: rest => .ok (shortHelp rest)
  | '-' :: _ => .ok (otherWord cs)
  | _ => .ok (.plain text)

/-- Understands the words of a command line. -/
def words : List String → Except Stop (List Word)
  | [] => .ok []
  | "--" :: rest => .ok (.divider :: rest.map .plain)
  | text :: rest => do return (← classify text) :: (← words rest)

/-! ## 2. Options -/

/-- The level of a name. -/
def logLevel? (name : String) : Option LogLevel :=
  match name with
  | "DEBUG" => some .debug
  | "INFO" => some .info
  | "WARNING" => some .warning
  | "ERROR" => some .error
  | _ => none

/-- Gives a setting its value. -/
def setValue (options : Options) (setting : Setting) (value : String) : Except Stop Options :=
  match setting with
  | .save => .ok { options with save := value }
  | .seed => match Literal.integer? value.toList with
    | .ok seed => .ok { options with seed := some seed }
    | .error _ => .error .wrong
  | .logLevel => match logLevel? value with
    | some logLevel => .ok { options with logLevel }
    | none => .error .wrong

/-- Goes through the words.  `placed` tells that the path was met, or that there is none any
more; `surplus` that there was a word that belongs nowhere. -/
def collect (options : Options) (placed surplus : Bool) : List Word → Except Stop Options
  | [] => if surplus then .error .wrong else .ok options
  | .stray :: rest => collect options placed true rest
  | .misused :: _ => .error .wrong
  | .switch .help :: _ => .error .help
  | .switch .validate :: rest => collect { options with validate := true } placed surplus rest
  | .attached setting value :: rest => do
    collect (← setValue options setting value) placed surplus rest
  | .switch (.setting setting) :: .plain value :: rest => do
    collect (← setValue options setting value) placed surplus rest
  | .switch (.setting _) :: _ => .error .wrong
  | .plain path :: .divider :: rest =>
    if placed then collect options true true rest
    else collect { options with story := some path } true surplus rest
  | .plain path :: rest =>
    if placed then collect options true true rest
    else collect { options with story := some path } true surplus rest
  | .divider :: .plain path :: rest =>
    if placed then collect options true true rest
    else collect { options with story := some path } true surplus rest
  | .divider :: rest => collect options true (surplus || placed) rest

end CommandLine

/-- **Reads a command line.** -/
def Options.ofArguments (arguments : List String) : Except CommandLine.Stop Options := do
  CommandLine.collect {} false false (← CommandLine.words arguments)

end Gamebook
