import SdlWorkbench.Command.Editing
import SdlWorkbench.Command.Listing
import SdlWorkbench.Command.Validation
/-!
A whole run of the command line on a store of files.

The settings are read before a command looks at anything else.
-/

namespace SdlWorkbench

def commandNames : String :=
  "parse fmt edit inspect completions help"

def Shell.completionScript : Shell → Text
  | bash => s!"complete -W '{commandNames}' sdl-forge\n".toList
  | zsh => s!"#compdef sdl-forge\n_arguments '1:command:({commandNames})' '*:file:_files'\n".toList
  | fish => s!"complete -c sdl-forge -n __fish_use_subcommand -a '{commandNames}'\n".toList
  | powershell =>
      "Register-ArgumentCompleter -Native -CommandName sdl-forge -ScriptBlock \x7b\n".toList ++
        s!"  '{commandNames}'.Split(' ')\n".toList ++ "\x7d\n".toList
  | elvish =>
      "set edit:completion:arg-completer[sdl-forge] = \x7b|@words|\n".toList ++
        s!"  put {commandNames}\n".toList ++ "\x7d\n".toList

def Command.paths : Command → List Text
  | parse paths _ => paths
  | format paths _ => paths
  | edit file script _ => [file, script]
  | inspect file _ => [file]
  | completions _ => []

/-- Whether a command has to search for files: some path it names, or the path of the settings, may be
a directory. -/
def Command.searches (store : Store) : Command → Bool
  | parse paths _ => paths.isEmpty || !paths.all store.isFile
  | format paths _ => paths.isEmpty || !paths.all store.isFile
  | _ => false

def Invocation.paths (environment : Environment) (invocation : Invocation) : List Text :=
  invocation.config.toList ++ Store.settingsPaths environment ++ invocation.command.paths

def Command.run (style : Style) (settings : Settings) (supply : IdSupply) (store : Store) :
    Command → Report
  | parse paths print => validateFiles style settings paths print store
  | format paths check => formatFiles style settings paths check store
  | edit file script write => editFile style settings supply file script write store
  | inspect file type => inspectFile style supply file type store
  | completions shell => style.report shell.completionScript [] none store

def Invocation.run (environment : Environment) (supply : IdSupply) (store : Store)
    (invocation : Invocation) : Report :=
  let style : Style := ⟨invocation.format, invocation.quiet⟩
  match store.settings environment invocation.config with
  | .error error => style.report [] [] (some error) store
  | .ok settings => invocation.command.run style settings supply store

def usageText : Text :=
  ("Usage: sdl-forge [OPTIONS] COMMAND\n\n" ++
    "Commands:\n" ++
    "  parse [--print] [PATH]...            check SDL files\n" ++
    "  fmt [--check] [PATH]...              bring SDL files into canonical form\n" ++
    "  edit [--write] --script SCRIPT FILE  carry out an edit script\n" ++
    "  inspect [--type NAME] FILE           list types, fields and access scopes\n" ++
    "  completions SHELL                    write a completion script\n\n" ++
    "Options:\n" ++
    "  -c, --config PATH    read the settings in this file\n" ++
    "  --format FORMAT      write for human, json or plain readers\n" ++
    "  -v, --verbose        say more\n" ++
    "  -q, --quiet          write only results and errors\n" ++
    "  --no-color           write without colors\n").toList

end SdlWorkbench
