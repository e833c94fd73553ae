import SyncLedger.Settings.File
import SyncLedger.Settings.Variable
import SyncLedger.Settings.Wrapped
import SyncLedger.Toml.Document

/-!
# Loading settings

Settings are loaded from a file, which may be missing, and from variables on top of it.
The file has to be well formed whatever the variables say.

The program says what is put on top of what. That layers are merged by `Json.merge`, and that
the file is read before the variables, is how the settings library does it.
-/

namespace SyncLedger

/-- Where settings come from: the text of the file, if there is one, and the names and
texts of variables. -/
structure SettingsSource where
  file : Option String
  environment : List (String × String)

/-- Why settings cannot be loaded: the file is not well formed, or the settings as a
whole are not what they should be. -/
inductive LoadError where
  | malformed
  | invalid (error : DecodeError)

/-- The wording of a failure. What is wrong is said by its cause. -/
def LoadError.message (_ : LoadError) : String := "Failed to load configuration file"

/-- Where the fault is: nowhere in particular when the file is not well formed. -/
def LoadError.path : LoadError → List String
  | .malformed => []
  | .invalid e => e.path

namespace SettingsSource

/-- The data in the file. A missing file says nothing. -/
def fileTree? (s : SettingsSource) : Option Json :=
  match s.file with
  | none => some (.obj [])
  | some text => (Toml.parse? text).bind Json.unwrapDocument?

/-- The data in the file with the variables on top. -/
def tree? (s : SettingsSource) : Option Json :=
  s.fileTree?.map fun below => below.merge (Variable.tree s.environment)

/-- The settings that a source gives. -/
def load (s : SettingsSource) : Except LoadError SettingsFile :=
  match s.tree? with
  | none => .error .malformed
  | some tree =>
    match SettingsFile.decode .settings tree with
    | .ok f => .ok f
    | .error e => .error (.invalid e)

end SettingsSource

end SyncLedger
