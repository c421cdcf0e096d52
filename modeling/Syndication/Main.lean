import Syndication.Json.Printer
import Syndication.Service
import Syndication.Settings.Service

/-!
# Command line

Reads the configuration file that is named on the command line, starts the service and
answers requests from standard input, one line with a method and a path each, until the
input ends. Collaborators are not reachable from here, so their requests fail.
-/

open Syndication

/-- The path of the configuration file among the arguments. -/
def configPath? : List String → Option String
  | ["--config-file-path", path] => some path
  | _ => none

/-- The contents of a file, or what went wrong. -/
def contentsOf (path : String) : IO (Except String String) := do
  try return .ok (← IO.FS.readFile path)
  catch problem => return .error (toString problem)

/-- The settings in a file, or why there are none. -/
def settingsIn (path : String) : IO (Except String ServiceSettings) := do
  match ← contentsOf path with
  | .error problem => return .error ("could not load config from file: " ++ problem)
  | .ok text =>
    match ServiceSettings.read? text with
    | some settings => return .ok settings
    | none => return .error "could not parse config"

/-- The text of the catalog, if there is one that can be read. -/
def catalogText? : Option String → IO (Option String)
  | some path => return (← contentsOf path).toOption
  | none => return none

/-- The service that settings describe, on a network that reaches nobody. -/
def startedService (settings : PipelineSettings) : IO (Except StartError (Service Unit)) := do
  let catalog ← catalogText? settings.catalog
  return Service.start Network.unreachable (fun _ => catalog) settings ()

/-- A response on one line. -/
def responseLine (response : Response) : String :=
  let body := match response.body with
    | .empty => ""
    | .text content => " " ++ content
    | .json content => " " ++ content.render
  toString response.status ++ body

/-- Answers the requests on standard input. -/
partial def answerRequests (input output : IO.FS.Stream) (service : Service Unit) : IO Unit := do
  let line ← input.getLine
  if line.isEmpty then return ()
  match line.trimAscii.toString.splitOn " " with
  | [method, path] => do
    let (response, after) := service.answer method path
    output.putStrLn (responseLine response)
    output.flush
    answerRequests input output after
  | _ => do
    output.putStrLn (responseLine (Response.ofStatus 400))
    output.flush
    answerRequests input output service

/-- Runs the service with the configuration file that is named. -/
def main (arguments : List String) : IO UInt32 := do
  let errors ← IO.getStderr
  match configPath? arguments with
  | none => do
    errors.putStrLn "usage: syndication --config-file-path PATH"
    return 2
  | some path => do
    match ← settingsIn path with
    | .error problem => do
      errors.putStrLn ("Failed to load config: " ++ problem)
      return 1
    | .ok settings => do
      match ← startedService settings.pipeline with
      | .error cause => do
        errors.putStrLn cause.message
        return 1
      | .ok service => do
        answerRequests (← IO.getStdin) (← IO.getStdout) service
        return 0
