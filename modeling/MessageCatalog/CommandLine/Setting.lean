import MessageCatalog.Text.Basic

/-!
# Settings of the command line

The commands, the settings that each of them has, and the names by which a setting is given. A
setting takes a value, or its name says all, or it counts how often it is named.
-/

namespace MessageCatalog.CommandLine

/-- The commands. -/
inductive Command where
  | extract
  | merge
  | audit
  deriving DecidableEq, Repr

/-- The settings. -/
inductive Setting where
  | help | baseDir | config | context | verbose
  | marker | argPos | members | comments
  | output | source
  | sort | replace | dryRun | forceSave | gitCheck
  | references | refsMax | refsPerFile | refsPerLine | refsLineLength
  | destination | charset | outputDirectory
  deriving DecidableEq, Repr

/-- What naming a setting does. -/
inductive Effect where
  /-- It takes a value. -/
  | takes
  /-- It turns the setting on or off. -/
  | turns (on : Bool)
  /-- It counts. -/
  | counts
  deriving DecidableEq, Repr

/-- A name of a setting. -/
structure SettingName where
  name : Text
  setting : Setting
  effect : Effect := .takes

namespace Command

def name : Command → Text
  | .extract => "extract"
  | .merge => "merge"
  | .audit => "audit"

def ofName? (t : Text) : Option Command := [extract, merge, audit].find? fun c => c.name = t

def sharedNames : List SettingName :=
  [⟨"--help", .help, .turns true⟩, ⟨"--base-dir", .baseDir, .takes⟩, ⟨"-C", .baseDir, .takes⟩,
    ⟨"--context", .context, .takes⟩]

def searchNames : List SettingName :=
  [⟨"--config", .config, .takes⟩, ⟨"--verbose", .verbose, .counts⟩, ⟨"-v", .verbose, .counts⟩,
    ⟨"--marker", .marker, .takes⟩, ⟨"-m", .marker, .takes⟩, ⟨"--arg-pos", .argPos, .takes⟩,
    ⟨"--members", .members, .turns true⟩, ⟨"--no-members", .members, .turns false⟩,
    ⟨"--comments", .comments, .turns true⟩, ⟨"--no-comments", .comments, .turns false⟩]

def mergeNames : List SettingName :=
  [⟨"--source", .source, .takes⟩, ⟨"-s", .source, .takes⟩, ⟨"--sort", .sort, .takes⟩,
    ⟨"--replace", .replace, .turns true⟩, ⟨"--patch", .replace, .turns false⟩,
    ⟨"--dry-run", .dryRun, .turns true⟩, ⟨"--force-save", .forceSave, .turns true⟩,
    ⟨"--git-check", .gitCheck, .turns true⟩, ⟨"--no-git-check", .gitCheck, .turns false⟩,
    ⟨"--references", .references, .turns true⟩, ⟨"--no-references", .references, .turns false⟩,
    ⟨"--refs-max", .refsMax, .takes⟩, ⟨"--refs-per-file", .refsPerFile, .takes⟩,
    ⟨"--refs-per-line", .refsPerLine, .takes⟩, ⟨"--refs-line-length", .refsLineLength, .takes⟩,
    ⟨"--dest-dir", .destination, .takes⟩, ⟨"-d", .destination, .takes⟩]

def settingNames : Command → List SettingName
  | .extract => sharedNames ++ searchNames ++ [⟨"--output", .output, .takes⟩, ⟨"-o", .output, .takes⟩]
  | .merge => sharedNames ++ searchNames ++ mergeNames
  | .audit => sharedNames ++
      [⟨"--charset", .charset, .takes⟩, ⟨"--output-directory", .outputDirectory, .takes⟩,
        ⟨"-o", .outputDirectory, .takes⟩]

def setting? (c : Command) (name : Text) : Option SettingName :=
  c.settingNames.find? fun s => s.name = name

end Command

end MessageCatalog.CommandLine
