import PodProbe.Console
import PodProbe.Options

/-!
This module contains the explanation of the command line.
-/

namespace PodProbe.Options

def nameText : String := "<NAME>"

def usage : String :=
  Console.programName ++ " [OPTIONS] " ++ nameText

/-- The command line with some switches, each of which is named once. -/
def usageWith (switches : List Switch) : String :=
  " ".intercalate (Console.programName :: switches.eraseDups.map Switch.text ++ [nameText])

def explanation : Switch → String
  | .domain => "Domain appended to every candidate host name"
  | .connectTimeout => "Connect timeout per probe in milliseconds"
  | .readTimeout => "Overall read timeout per probe in milliseconds (unbounded if absent)"
  | .clientCertificate => "PEM bundle holding the client certificate chain and private key"
  | .keystoreType => "Type of the client keystore: pem or pkcs12"
  | .keystorePassword => "Password of the client keystore or of its encrypted private key"
  | .output => "Where the discovered configuration is stored"
  | .trustDirectory => "Directory receiving harvested root certificates"
  | .yes => "Answer every question with yes"
  | .verbose => "Enable verbose output"
  | .help => "Print help"
  | .version => "Print version"

/-- The value that a switch has if it is not given. -/
def preset? (s : Switch) : Option String :=
  let o : Options := { name := "" }
  match s with
  | .domain => some o.domain
  | .connectTimeout => some (toString o.connectTimeout)
  | .keystoreType => some o.keystoreType
  | _ => none

def switchHelp (s : Switch) : String :=
  let short :=
    match s.short? with
    | some c => "-" ++ String.singleton c ++ ", "
    | none => "    "
  let preset :=
    match preset? s with
    | some v => " [default: " ++ v ++ "]"
    | none => ""
  "  " ++ short ++ s.text ++ "\n          " ++ explanation s ++ preset ++ "\n"

def help : String :=
  "Discovers the endpoints and certificates of a pod\n\nUsage: " ++ usage ++ "\n\nArguments:\n  " ++ nameText
    ++ "  Logical pod name, e.g. \x60acme\x60 for acme.symphony.com\n\nOptions:\n"
    ++ String.join (Switch.all.map switchHelp)

def version : String :=
  Console.programName ++ " " ++ Console.programVersion ++ "\n"

end PodProbe.Options
