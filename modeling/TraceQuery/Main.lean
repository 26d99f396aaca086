import TraceQuery.Application

/-!
The command line, over a store that holds no spans. It looks up the variables and reads the files
that a run may need, and leaves all else to `Application.run`.
-/

set_option autoImplicit false
namespace TraceQuery.CommandLine

def fileAt (path : String) : IO Config.File := do
  try
    return .ofBytes (← IO.FS.readBinFile path)
  catch
    | .noFileOrDirectory .. => return .absent
    | .inappropriateType _ 21 _ => return .directory
    -- nothing stands below a file
    | .inappropriateType .. => return .absent
    | _ => return .damaged ""

def filesAt (paths : List String) : IO (List (String × Config.File)) :=
  paths.mapM fun path => return (path, ← fileAt path)

def variablesSet (names : List String) : IO (List (String × String)) :=
  names.filterMapM fun name => return (← IO.getEnv name).map fun value => (name, value)

/-- The surroundings as far as these arguments reach. -/
def surroundings (args : List String) : IO Application.Surroundings := do
  let directories : Path.Directories :=
    { home := (← IO.getEnv "HOME").getD "/", working := (← IO.currentDir).toString }
  let before ← filesAt (Application.variableFiles directories)
  let found (environment : List (String × String)) (files : List (String × Config.File)) :
      Application.Surroundings :=
    { directories, environment := fun name => environment.lookup name
      files := fun path => (files.lookup path).getD .absent }
  let environment ← variablesSet
    (Opt.everywhere.filterMap Opt.environmentName? ++
      Variables.mentioned (found [] before).variableText)
  let early := found environment before
  match parse (Variables.behind early.environment early.assigned) args with
  | .error _ => return early
  | .ok invocation =>
    let files := before ++ (← filesAt (Application.configFiles directories invocation))
    let late := found environment files
    match (Config.load directories late.files invocation.overrides).result with
    | .error _ => return late
    | .ok settings =>
      return found environment (files ++ (← filesAt (Application.storeFiles settings.database)))

end TraceQuery.CommandLine

def main (args : List String) : IO UInt32 := do
  let found ← TraceQuery.CommandLine.surroundings args
  let result := TraceQuery.Application.run found .scripted [] (← IO.monoNanosNow) args
  IO.print result.output
  if let some message := result.error then
    IO.eprintln s!"\nError: {message}\n"
  return UInt32.ofNat result.exitCode
