import MessageCatalog.CommandLine.Check
import MessageCatalog.CommandLine.Commands

/-!
# Running a command line

A command line is read and checked, and its command is run in a session. What comes out is the two
outputs, the exit code and the session afterwards.
-/

namespace MessageCatalog.CommandLine

/-- How a run comes to its end. -/
inductive Ending where
  | verdict (v : Verdict)
  | usage (fault : UsageFault)
  | broken (f : Failure)
  deriving Inhabited

def Ending.exitCode : Ending → Nat
  | .verdict (.success _) => 0
  | .verdict (.failure _) | .broken _ => 1
  | .usage _ => 2

/-- A run: how it ended, what it printed to its two outputs, and the session it leaves behind. -/
structure Outcome where
  ending : Ending
  output : Text := []
  errors : Text := []
  session : Session

def printed (ns : List Notice) : Text := ns.flatMap fun n => n.plainText ++ ['\n']

/-- The line about what went wrong. -/
def errorLine (reason : Text) : Text := Notice.plain ("Error: " ++ reason) ++ ['\n']

def helpText : Text :=
  "Usage: COMMAND [OPTIONS] GLOBS...\n\nCommands:\n" ++
    "  extract  Extract messages from source files and print them as JSON.\n" ++
    "  merge    Extract messages from sources and merge them into PO files.\n" ++
    "  audit    List untranslated, fuzzy and obsolete messages of PO files.\n"

/-- Run a command with arguments that have been read. -/
def Command.action (c : Command) (a : Arguments) (s : MergeOptions.Surroundings) :
    Action (Except UsageFault Verdict) := do
  if a.isOn .help then return .ok (.success helpText)
  match ← a.fault c with
  | some f => return .error f
  | none => match c with
    | .extract => return .ok (← extractMessages a)
    | .merge => return .ok (← mergeMessages a s)
    | .audit => return .ok (← auditCatalogs a)

/-- The outcome of a command. The command that prints messages keeps its notices off the
output. -/
def Command.outcome (c : Command) (r : Except Failure (Except UsageFault Verdict))
    (session : Session) : Outcome :=
  let notices := printed session.notices
  let isQuiet := c = .extract
  let ending : Ending := match r with
    | .error f => .broken f
    | .ok (.error f) => .usage f
    | .ok (.ok v) => .verdict v
  let result : Text := match ending with
    | .verdict (.success t) => t
    | _ => []
  let complaint : Text := match ending with
    | .verdict (.failure reason) => errorLine reason
    | .usage f => errorLine f.message
    | _ => []
  { ending, session
    output := (if isQuiet then [] else notices) ++ result
    errors := (if isQuiet then notices else []) ++ complaint }

/-- The outcome of a command line that cannot be read. -/
def refuse (f : UsageFault) (session : Session) : Outcome :=
  { ending := .usage f, errors := errorLine f.message, session }

def Command.run (c : Command) (words : List Text) (s : MergeOptions.Surroundings)
    (session : Session) : Outcome :=
  match Arguments.ofWords c words with
  | .error f => refuse f session
  | .ok a =>
    let (r, after) := (c.action a s).outcome session
    c.outcome r after

def runNamed (words : List Text) (s : MergeOptions.Surroundings) (session : Session) : Outcome :=
  match words with
  | [] => refuse .noCommand session
  | name :: rest => match Command.ofName? name with
    | some c => c.run rest s session
    | none => refuse (.unknownCommand name) session

def run (words : List Text) (s : MergeOptions.Surroundings) (session : Session) : Outcome :=
  match words with
  | ['-', '-'] :: rest => runNamed rest s session
  | ('-' :: letter :: rest) :: _ =>
    let name := '-' :: letter :: rest
    if name = ("--help" : Text) then
      { ending := .verdict (.success helpText), output := helpText, session }
    else refuse (.unknownSetting name) session
  | words => runNamed words s session

end MessageCatalog.CommandLine
