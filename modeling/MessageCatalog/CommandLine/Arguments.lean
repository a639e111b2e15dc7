import MessageCatalog.CommandLine.Setting
import MessageCatalog.Number.Decimal

/-!
# Arguments of the command line

The words after a command are read one by one: names of settings with their values, and plain
words. Settings and plain words mix freely; after two hyphens on their own every word is plain.
-/

namespace MessageCatalog.CommandLine

/-- What is wrong with a command line. -/
inductive UsageFault where
  | noCommand
  | unknownCommand (name : Text)
  | unknownSetting (name : Text)
  | missingValue (name : Text)
  | unwantedValue (name : Text)
  | missingWords
  | missingSource
  | badNumber (shown : Text)
  | missingPath (path : Text)
  | isDirectory (path : Text)
  | isFile (path : Text)
  deriving DecidableEq, Repr

def UsageFault.message : UsageFault → Text
  | .noCommand => "Missing command."
  | .unknownCommand name => "No such command " ++ name
  | .unknownSetting name => "No such option: " ++ name
  | .missingValue name => "Option " ++ name ++ " requires an argument."
  | .unwantedValue name => "Option " ++ name ++ " does not take a value."
  | .missingWords => "Missing argument."
  | .missingSource => "Missing option --source."
  | .badNumber shown => shown ++ " is not a valid integer."
  | .missingPath path => "Path " ++ path ++ " does not exist."
  | .isDirectory path => "Path " ++ path ++ " is a directory."
  | .isFile path => "Path " ++ path ++ " is a file."

/-- What a setting was given. -/
inductive Given where
  | value (t : Text)
  | truth (on : Bool)
  | once
  deriving DecidableEq, Repr

/-- The settings and the plain words that were given, in order. -/
structure Arguments where
  given : List (Setting × Given) := []
  words : List Text := []
  deriving DecidableEq, Inhabited

namespace Arguments

/-- Note what a setting is given. -/
def give (a : Arguments) (s : Setting) (g : Given) : Arguments :=
  { a with given := a.given ++ [(s, g)] }

/-- Note a plain word. -/
def addWord (a : Arguments) (w : Text) : Arguments := { a with words := a.words ++ [w] }

/-! ### Looking up -/

/-- Everything that a setting was given. -/
def all (a : Arguments) (s : Setting) : List Given :=
  (a.given.filter fun g => g.1 = s).map (·.2)

/-- The values of a setting. -/
def values (a : Arguments) (s : Setting) : List Text :=
  (a.all s).filterMap fun g => match g with
    | .value t => some t
    | _ => none

/-- The value of a setting; the last one counts. -/
def value? (a : Arguments) (s : Setting) : Option Text := (a.values s).getLast?

def number? (a : Arguments) (s : Setting) : Option Int := (a.value? s).bind Decimal.int?

/-- Whether a setting was turned on or off; the last word counts. -/
def truth? (a : Arguments) (s : Setting) : Option Bool :=
  ((a.all s).filterMap fun g => match g with
    | .truth on => some on
    | _ => none).getLast?

/-- Whether a setting was turned on. -/
def isOn (a : Arguments) (s : Setting) : Bool := (a.truth? s).getD false

/-- How often a setting was named. -/
def count (a : Arguments) (s : Setting) : Nat := (a.all s).length

/-- The settings that were given, in the order of first mention. -/
def settings (a : Arguments) : List Setting := (a.given.map (·.1)).eraseDups

end Arguments

/-! ### Reading -/

/-- The state of reading: the arguments so far, the setting that waits for its value, and whether
all words are plain from now on. -/
structure Reading where
  arguments : Arguments := {}
  waiting : Option SettingName := none
  plain : Bool := false
  deriving Inhabited

namespace Reading

/-- Note that a setting is named without a value beside it. -/
def named (r : Reading) (s : SettingName) : Reading :=
  match s.effect with
  | .takes => { r with waiting := some s }
  | .turns on => { r with arguments := r.arguments.give s.setting (.truth on) }
  | .counts => { r with arguments := r.arguments.give s.setting .once }

/-- Note that a setting is named with a value. -/
def valued (r : Reading) (s : SettingName) (v : Text) : Reading :=
  { r with arguments := r.arguments.give s.setting (.value v) }

/-- Read a long name, with a value after a sign of equality if there is one. -/
def long (c : Command) (r : Reading) (word : Text) : Except UsageFault Reading :=
  match Text.cutFirst '=' word with
  | some (name, v) => match c.setting? name with
    | none => .error (.unknownSetting name)
    | some s => if s.effect = .takes then .ok (r.valued s v) else .error (.unwantedValue name)
  | none => match c.setting? word with
    | none => .error (.unknownSetting word)
    | some s => .ok (r.named s)

/-- Read short names that stand side by side. What follows the name of a setting that takes a value
is the value. -/
def short (c : Command) (r : Reading) : Text → Except UsageFault Reading
  | [] => .ok r
  | letter :: rest => match c.setting? ['-', letter] with
    | none => .error (.unknownSetting ['-', letter])
    | some s =>
      if s.effect = .takes && !rest.isEmpty then .ok (r.valued s rest)
      else short c (r.named s) rest

def step (c : Command) (r : Reading) (word : Text) : Except UsageFault Reading :=
  match r.waiting with
  | some s => .ok { r.valued s word with waiting := none }
  | none =>
    if r.plain then .ok { r with arguments := r.arguments.addWord word }
    else match word with
      | ['-', '-'] => .ok { r with plain := true }
      | '-' :: '-' :: _ => long c r word
      | '-' :: letter :: rest => short c r (letter :: rest)
      | _ => .ok { r with arguments := r.arguments.addWord word }

end Reading

def Arguments.ofWords (c : Command) (words : List Text) : Except UsageFault Arguments := do
  let r ← words.foldlM (Reading.step c) {}
  match r.waiting with
  | some s => .error (.missingValue s.name)
  | none => return r.arguments

end MessageCatalog.CommandLine
