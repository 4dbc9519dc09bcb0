import PodProbe.Configuration.Store
import PodProbe.Discovery
import PodProbe.Http.Executor
import PodProbe.Keystore
import PodProbe.Narration.Summary
import PodProbe.Options.Reader
import PodProbe.Program
import PodProbe.Tls.Client

/-!
This module contains the session that a command line asks for: a run of the discovery with all that comes before it,
and the storing of what was found.
-/

namespace PodProbe

structure Ending where
  code : UInt32 := 0
  output : String := ""
  errors : String := ""
deriving DecidableEq, Repr

/-- The end of a command line that asks for no run. -/
def Ending.ofStop : Options.Stop → Ending
  | .help => { output := Options.help }
  | .version => { output := Options.version }
  | .complaint c => { code := 2, errors := c.message }

/-- The end by an error, which is told together with the one that is behind it. -/
def Ending.ofError (e : RunError) : Ending where
  code := 1
  errors :=
    "Error: " ++ e.message
      ++ (match e.source? with
        | some s => "\n\nCaused by:\n    " ++ s
        | none => "")
      ++ "\n"

abbrev Session := ExceptT RunError Program

namespace Session

def command (c : Command) : Session c.Answer :=
  ExceptT.lift (Program.command c)

def print (s : Text.Styled) : Session Unit :=
  command (.report (.ofText s))

def inform (message : String) : Session Unit :=
  command (.report (.ofEvent .info message))

/-- Asks a question. An answer that is not UTF-8 is an error. -/
def confirm (q : Console.Question) : Session Bool := do
  print [q.prompt]
  let line ← if q.assumeYes then pure [] else command .readLine
  match (q.ask line).1 with
  | some yes => return yes
  | none => throw (.other ErrorChain.notText.message)

def identity (o : Options) : Session (Option ClientIdentity) := do
  match o.clientCertificate with
  | none => return none
  | some path =>
    let kind ← KeystoreKind.ofText o.keystoreType
    let contents ← command (.read path)
    let i ← ClientIdentity.ofFile path contents kind o.keystorePassword
    inform ("using client certificate from " ++ path)
    return some i

def goesOn (o : Options) : Session Bool := do
  match o.output with
  | none => return true
  | some path =>
    if !(← command (.find path)) then return true
    let contents ← command (.read path)
    let existing ← Configuration.ofFile path contents
    inform ("existing configuration for " ++ existing.podUrl.getD "an unknown pod")
    confirm { text := path ++ " already exists. Continue with probe?", preset := true, assumeYes := o.assumeYes }

def keep (o : Options) (c : Configuration) : Session Unit := do
  match o.output with
  | none => return
  | some path =>
    let question :=
      if ← command (.find path) then "Overwrite " ++ path ++ "?" else "Save configuration to " ++ path ++ "?"
    if ← confirm { text := question, preset := true, assumeYes := o.assumeYes } then
      let saved ← command (.work (c.tasks path o.trustDirectory))
      saved
      print (Text.line ["Configuration saved to " ++ path])

def explore (net : Http.Network) (o : Options) (settings : Settings) : Session Unit := do
  let start ← command .now
  print (Console.startBanner start.calendar start.epoch settings.hostname)
  Tls.checkIdentity settings.identity
  let run := Discovery.run settings (Http.executor net settings) []
  let (report, store) := run.value
  command (.report (if o.verbose then run.journal else run.journal.withoutDetails))
  print (Narration.summary report)
  for t in store do
    inform (t.name ++ " token obtained for " ++ t.host)
  if report.isUsable then keep o report.configuration
  else print (Text.line ["No usable configuration was discovered."])
  let stop ← command .now
  print (Console.endBanner stop.calendar (stop.seconds - start.seconds) settings.hostname)

def ofOptions (net : Http.Network) (o : Options) : Session Unit := do
  let identity ← identity o
  if ← goesOn o then explore net o { o.settings with identity }

def ofWords (net : Http.Network) (words : List String) : Program Ending :=
  match Options.read words with
  | .error stop => .done (.ofStop stop)
  | .ok o => do
    match ← (ofOptions net o).run with
    | .ok () => return {}
    | .error e => return .ofError e

end Session

end PodProbe
