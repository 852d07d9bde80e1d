import OrgFederation.Resource.Definition
import OrgFederation.Settings.Help
import OrgFederation.Startup

open OrgFederation

/-- The variables that the program looks at, as far as they are set. -/
def readVariables : IO Environment := do
  let names := Startup.filterVariable :: Setting.all.map Setting.variableName
  names.filterMapM fun name => do
    return (← IO.getEnv name).map (Prod.mk name)

def main (arguments : List String) : IO UInt32 := do
  let environment ← readVariables
  let startup := Startup.ofCommandLine arguments environment
  match startup with
  | .definition => IO.println FederatedAuth.definition.render
  | .version => IO.println Startup.versionLine
  | .help => (helpLines environment).forM IO.println
  | .refusedCommandLine problem => IO.eprintln ("error: " ++ problem.message)
  | .refusedSettings _ => pure ()
  | .started settings lines => (lines.map (LogLine.render settings.logFormat)).forM IO.println
  startup.errorLine?.forM IO.eprintln
  return UInt32.ofNat startup.exitCode
