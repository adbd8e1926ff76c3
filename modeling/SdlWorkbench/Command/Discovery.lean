import SdlWorkbench.Command.Error
import SdlWorkbench.Settings
/-!
Finding the settings and the schema files of a run.
-/

namespace SdlWorkbench

namespace Store

def source (store : Store) (path : Text) : Except CommandError Text :=
  (store.read path).mapError (CommandError.fileFault path)

def settingsAt (store : Store) (path : Text) : Except CommandError Settings := do
  match Settings.ofText? (← store.source path) with
  | some settings => return settings
  | none => throw (.badSettings path)

/-- Where settings may lie when no path is given: in the working directory, in the directory for
settings, and in the home directory. -/
def settingsPaths (environment : Environment) : List Text :=
  "sdl-forge.toml".toList ::
    ((environment.configHome.map fun path => Path.join path "sdl-forge/config.toml".toList).toList ++
      (environment.home.map fun path =>
        Path.join path ".config/sdl-forge/config.toml".toList).toList)

/-- The settings of a run: those at the given path, or else at the first place where something is. -/
def settings (store : Store) (environment : Environment) (path : Option Text) :
    Except CommandError Settings :=
  match path.or ((settingsPaths environment).find? store.contains) with
  | some path => store.settingsAt path
  | none => .ok {}

def extensionPattern (directory ext : Text) : Text :=
  Path.join (Path.join directory "**".toList) ("*.".toList ++ ext)

/-- The schema files that one path stands for: the file itself, or the files below a directory that
have one of the extensions. -/
def filesAt (store : Store) (extensions : List Text) (path : Text) :
    Except CommandError (List Text) :=
  if store.isFile path then .ok [path]
  else if store.isDirectory path then
    extensions.flatMapM fun ext =>
      (store.search (extensionPattern path ext)).mapError .searchFailed
  else .error (.noFiles path)

/-- The schema files of a run in order, each once.  Without paths the configured directory is
searched. -/
def schemaFiles (store : Store) (settings : Settings) (paths : List Text) :
    Except CommandError (List Text) := do
  let paths := if paths.isEmpty then [settings.schemaDirectory] else paths
  let files ← paths.flatMapM (store.filesAt settings.extensions)
  if files.isEmpty then throw (.noFiles (paths.headD []))
  return Path.sort files

end Store

end SdlWorkbench
