import MessageCatalog.Number.Decimal
import MessageCatalog.Text.Quoted

/-!
# Failures

Everything that can go wrong, one constructor for each cause, and the wording of each cause. The
causes fall into classes; a batch goes on after a failure of some classes and stops at others.
-/

namespace MessageCatalog

/-- What is wrong with a line of catalog text. -/
inductive LineFault where
  /-- The line does not fit the grammar where it stands. -/
  | misplaced
  /-- A quotation mark inside a quoted text is not escaped. -/
  | unescapedMark
  /-- A line about the previous text neither names a field nor goes on with one. -/
  | badContinuation
  /-- A line about the previous text names no known field. -/
  | unknownField (word : Text)
  deriving DecidableEq, Repr

/-- The cause of a failure. -/
inductive Failure where
  -- arguments and options
  | optionsNotMapping (name typeName : Text)
  | unknownOptions (name : Text) (unknown : List Text)
  | noMarkers
  | argumentPosition
  | optionContext
  | sortOption (shown : Text)
  | configSyntax (path : Text)
  | configNotObject (path : Text)
  | configSections (unknown : List Text)
  | patternSyntax (name : Text)
  | noGlobs
  | messagesNotList (typeName : Text)
  | messageNotMapping (typeName : Text)
  | messageKey (shown : Text)
  | messageContext
  | messageStrings (field typeName : Text)
  | notCatalog (typeName : Text)
  | translationsNotMap
  | headersNotMap
  -- merging, collecting and writing
  | missingContext (context : Text)
  | missingContextIn (context file : Text)
  | duplicateKey (key : Text)
  | conflict (key reference stored new : Text)
  | unsavedChanges (status file : Text)
  | gitUnavailable (reason : Text)
  | gitExit (code : Int) (stderr : Text)
  -- reading and writing files and texts
  | catalogSyntax (line : Nat) (fault : LineFault)
  | catalogSyntaxIn (file : Text) (line : Nat) (fault : LineFault)
  | unknownCharset (name : Text)
  | undecodable (charset : Text)
  | malformed (codec : Text)
  | unencodable (charset : Text)
  | fileNotFound (path : Text)
  | isDirectory (path : Text)
  | notDirectory (path : Text)
  | fileExists (path : Text)
  | sourceSyntax
  -- values that an operation cannot work with
  | missingKey (key : Text)
  | noSuchGroup
  | groupUnmatched
  | noFields
  | wrongType
  | notPair
  | badNumber (shown : Text)
  | badWidth (width : Int)
  | badGlob (shown : Text)
  | emptyGlob
  | longNumber
  | numberTooLarge
  deriving DecidableEq, Repr

namespace Failure

/-- The classes of failures. -/
inductive Kind where
  | argument | missingContext | duplicateKey | conflict | unsavedChanges | gitCommand
  | catalogSyntax | lookup | decoding | codec | encoding
  | fileNotFound | isDirectory | notDirectory | fileExists
  | sourceSyntax | missingKey | index | attribute | type | value | overflow
  deriving DecidableEq, Repr

/-- The class of a failure. -/
def kind : Failure → Kind
  | .optionsNotMapping .. | .unknownOptions .. | .noMarkers | .argumentPosition | .optionContext
  | .sortOption _ | .configSyntax _ | .configNotObject _ | .configSections _ | .patternSyntax _
  | .noGlobs | .messagesNotList _ | .messageNotMapping _ | .messageKey _ | .messageContext
  | .messageStrings .. | .notCatalog _ | .translationsNotMap | .headersNotMap => .argument
  | .missingContext _ | .missingContextIn .. => .missingContext
  | .duplicateKey _ => .duplicateKey
  | .conflict .. => .conflict
  | .unsavedChanges .. => .unsavedChanges
  | .gitUnavailable _ | .gitExit .. => .gitCommand
  | .catalogSyntax .. | .catalogSyntaxIn .. => .catalogSyntax
  | .unknownCharset _ => .lookup
  | .undecodable _ => .decoding
  | .malformed _ => .codec
  | .unencodable _ => .encoding
  | .fileNotFound _ => .fileNotFound
  | .isDirectory _ => .isDirectory
  | .notDirectory _ => .notDirectory
  | .fileExists _ => .fileExists
  | .sourceSyntax => .sourceSyntax
  | .missingKey _ => .missingKey
  | .noSuchGroup | .emptyGlob => .index
  | .groupUnmatched | .noFields => .attribute
  | .wrongType => .type
  | .notPair | .badNumber _ | .badWidth _ | .badGlob _ | .longNumber => .value
  | .numberTooLarge => .overflow

/-- The failures that the library itself raises about arguments, merging and writing. -/
def isOwn (f : Failure) : Bool :=
  match f.kind with
  | .argument | .missingContext | .duplicateKey | .conflict | .unsavedChanges | .gitCommand => true
  | _ => false

/-- The failures of the file system, and of the syntax of a catalog file. -/
def isSystem (f : Failure) : Bool :=
  match f.kind with
  | .catalogSyntax | .fileNotFound | .isDirectory | .notDirectory | .fileExists => true
  | _ => false

/-- The failures about a value of the right type that is not acceptable. -/
def isValue (f : Failure) : Bool :=
  match f.kind with
  | .argument | .decoding | .codec | .encoding | .value => true
  | _ => false

/-- The failure with the name of the file that is at fault, where its message tells that. -/
def inFile (file : Text) : Failure → Failure
  | .catalogSyntax line fault => .catalogSyntaxIn file line fault
  | f => f

@[simp] theorem kind_inFile (file : Text) (f : Failure) : (f.inFile file).kind = f.kind := by
  cases f <;> rfl

/-- The failures of one file that do not stop a batch. -/
def isContained (f : Failure) : Bool := f.isOwn || f.isSystem || f.isValue

/-- The names of the sort orders, as messages list them. -/
def sortNames : List Text := ["source", "msgid", "msgid-desc", "reference"]

/-- Texts with commas between them. -/
def commaList (ts : List Text) : Text := Text.join ", " ts

/-- The detail after the number of a faulty line. -/
def lineDetail : LineFault → Text
  | .misplaced => ""
  | .unescapedMark => ": unescaped double quote found"
  | .badContinuation => ": invalid continuation line"
  | .unknownField word => ": unknown keyword " ++ word

def message : Failure → Text
  | .optionsNotMapping name typeName =>
    "Option (" ++ name ++ ") must be a mapping, got '" ++ typeName ++ "'."
  | .unknownOptions name unknown =>
    "Unknown option(s) for " ++ name ++ ": " ++ commaList unknown
  | .noMarkers => "Option (markers) cannot be empty"
  | .argumentPosition => "Option (arg_pos) must be an integer"
  | .optionContext => "Option (context) must be a string"
  | .sortOption shown =>
    "Invalid argument (sort): " ++ shown ++ ". Expected one of " ++ commaList sortNames ++
      " or a callable."
  | .configSyntax path => "Invalid config file " ++ path
  | .configNotObject path => "Config file " ++ path ++ " must contain a JSON object"
  | .configSections unknown => "Unknown config section(s): " ++ commaList unknown
  | .patternSyntax name => "Invalid regular expression for " ++ name
  | .noGlobs => "Argument (globs) cannot be empty"
  | .messagesNotList typeName =>
    "Argument (messages) must be a list, got '" ++ typeName ++ "'."
  | .messageNotMapping typeName => "Message must be a mapping, got '" ++ typeName ++ "'."
  | .messageKey shown =>
    "Argument (key) must be a non-empty string, got " ++ shown ++ "."
  | .messageContext => "Argument (context) must be a string."
  | .messageStrings field typeName =>
    "Argument (" ++ field ++ ") must contain strings, got '" ++ typeName ++ "'."
  | .notCatalog typeName =>
    "Argument (catalog) must be a Catalog, got '" ++ typeName ++ "'."
  | .translationsNotMap => "Argument (catalog.translations) must be a dict."
  | .headersNotMap => "Argument (catalog.headers) must be a dict."
  | .missingContext context => "Context '" ++ context ++ "' missing from po."
  | .missingContextIn context file =>
    "Context '" ++ context ++ "' missing from po file " ++ file
  | .duplicateKey key => "Duplicate msgid: '" ++ key ++ "'. Collate the messages first."
  | .conflict key reference stored new =>
    "message: '" ++ key ++ "' ref: '" ++ reference ++ "' cmt_stored: '" ++ stored ++
      "' cmt_new: '" ++ new ++ "'"
  | .unsavedChanges status file =>
    "Refusing to clobber " ++ status ++ " changes in git: " ++ file
  | .gitUnavailable reason => "Failed to execute git: " ++ reason
  | .gitExit code stderr =>
    "Git exited with status code " ++ Decimal.ofInt code ++ ": " ++ stderr
  | .catalogSyntax line fault =>
    "Syntax error in po file (line " ++ Decimal.ofNat line ++ ")" ++ lineDetail fault
  | .catalogSyntaxIn file line fault =>
    "Syntax error in po file " ++ file ++ " (line " ++ Decimal.ofNat line ++ ")" ++
      lineDetail fault
  | .unknownCharset name => "unknown encoding: " ++ name
  | .undecodable charset => "'" ++ charset ++ "' codec can't decode the bytes"
  | .malformed codec => "the bytes are no text of the codec '" ++ codec ++ "'"
  | .unencodable charset => "'" ++ charset ++ "' codec can't encode the text"
  | .fileNotFound path => "[Errno 2] No such file or directory: " ++ path.quoted
  | .isDirectory path => "[Errno 21] Is a directory: " ++ path.quoted
  | .notDirectory path => "[Errno 20] Not a directory: " ++ path.quoted
  | .fileExists path => "[Errno 17] File exists: " ++ path.quoted
  | .sourceSyntax => "invalid syntax"
  | .missingKey key => key.quoted
  | .noSuchGroup => "no such group"
  | .groupUnmatched => "the group did not take part in the match"
  | .noFields => "a value has no fields"
  | .wrongType => "a value has the wrong type"
  | .notPair => "an item of a list of options is no pair"
  | .badNumber shown => "invalid literal for int() with base 10: " ++ shown
  | .badWidth width => "invalid width " ++ Decimal.ofInt width ++ " (must be > 0)"
  | .badGlob shown => "Invalid pattern: " ++ shown
  | .emptyGlob => "the pattern has no components"
  | .longNumber => "a number has too many digits"
  | .numberTooLarge => "int too large to convert to float"

end Failure

end MessageCatalog
