import SheetQuery.CommandLine.Run

/-! The command line tool. -/

namespace SheetQuery.CommandLine

def settingsFile : IO (Option String) := do
  let base := match ← IO.getEnv "XDG_CONFIG_HOME", ← IO.getEnv "HOME" with
    | some dir, _ => dir
    | none, some home => home ++ "/.config"
    | none, none => "."
  let path : String := base ++ "/formula-sql/config.toml"
  try
    return some (← IO.FS.readFile path)
  catch _ => return none

def runIn (args : List String) : IO UInt32 := do
  let stdin ← if readsInput args then (← IO.getStdin).readToEnd else pure ""
  let out := run readers (← settingsFile) stdin args
  IO.print out.stdout
  IO.eprint out.stderr
  return out.code.toUInt32

end SheetQuery.CommandLine

def main (args : List String) : IO UInt32 := SheetQuery.CommandLine.runIn args
