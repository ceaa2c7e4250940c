import AsyncReports.Ini.Reader
import AsyncReports.Json.Reader
import AsyncReports.Json5.Reader
import AsyncReports.Ron.Reader
import AsyncReports.Settings.Layers
import AsyncReports.Settings.Lenient
import AsyncReports.Toml.Reader
import AsyncReports.Variables
import AsyncReports.Yaml.Reader

set_option autoImplicit false

/-!
# Loading settings

Settings are loaded from a directory with at most one base file and one file for each environment, and from the
variables, which stand above both. Nothing has to be there. A source that cannot be read, or a merged value that
does not fit its setting, makes loading fail as a whole; only the merged settings are checked, so a lower layer
may be out of range where a higher one makes it good.
-/

namespace AsyncReports

/-- How a file spells its settings. -/
inductive FileFormat
  | toml
  | json
  | yaml
  | ini
  | ron
  | json5
deriving DecidableEq

namespace FileFormat

/-- The endings of file names. -/
def endings : List (String × FileFormat) :=
  [("toml", .toml), ("json", .json), ("yaml", .yaml), ("yml", .yaml), ("ini", .ini), ("ron", .ron),
    ("json5", .json5)]

def ofEnding? (ending : String) : Option FileFormat := endings.lookup ending

/-- What a file sets. -/
def read? (format : FileFormat) (text : String) : Option Layer :=
  match format with
  | .toml => Toml.read? text
  | .yaml => Yaml.read? text
  | .ini => Ini.read? text
  | .ron => Ron.read? text
  | .json5 => Json5.read? text
  | .json =>
    match Json.read? text with
    | some (.object fields) => some fields
    | _ => none

end FileFormat

/-- The files of a directory: their names and texts. -/
abbrev Files := List (String × String)

namespace Files

/-- What follows the last point of a file name. -/
def ending (name : String) : String :=
  String.ofList (name.toList.reverse.takeWhile (· ≠ '.')).reverse

/-- A name without the slashes at its end. -/
def plainName (name : String) : String := String.ofList (name.toList.reverse.dropWhile (· = '/')).reverse

/-- The file that a name without ending stands for. A file of exactly that name hides the others, and it counts
only if the name itself has a known ending. A name that ends in a slash is no file's, but endings take its place. -/
def find? (files : Files) (name : String) : Option (FileFormat × String) :=
  match files.lookup name with
  | some text => (FileFormat.ofEnding? (ending name)).map (·, text)
  | none => FileFormat.endings.findSome? fun (ending, format) =>
      (files.lookup (plainName name ++ "." ++ ending)).map (format, ·)

/-- What such a file sets; one that is not there sets nothing. -/
def layer? (files : Files) (name : String) : Option Layer :=
  match files.find? name with
  | some (format, text) => format.read? text
  | none => some []

end Files

namespace Settings

/-- The name of the base file. -/
def fileName : String := "insights-jobs"

def environmentFileName (environment : String) : String := fileName ++ "-" ++ environment

/-- The sources, the lowest first. -/
def layers? (files : Files) (environment : String) (vars : Variables) : Option (List Layer) := do
  let base ← files.layer? fileName
  let special ← files.layer? (environmentFileName environment)
  pure [base, special, vars.settings]

/-- The settings that all sources give together. -/
def load (directory : String) (files : Files) (environment : String) (vars : Variables) :
    Except SettingsError Settings :=
  match (layers? files environment vars).bind fun layers => ofTree? (Layer.merge layers) with
  | none => .error (.loadFailed directory)
  | some settings => settings.check.map fun () => settings

end Settings

end AsyncReports
