import PodProbe.Settings
import PodProbe.Text.Integer

/-!
This module contains what a command line may ask for, and the switches by which it does.
-/

namespace PodProbe

structure Options where
  name : String
  domain : String := ".symphony.com"
  connectTimeout : Nat := 2000
  readTimeout : Option Nat := none
  clientCertificate : Option String := none
  keystoreType : String := "pem"
  keystorePassword : Option String := none
  output : Option String := none
  trustDirectory : Option String := none
  assumeYes : Bool := false
  verbose : Bool := false
deriving DecidableEq, Repr

/-- What a run is told by its options, but for the identity of the client. -/
def Options.settings (o : Options) : Settings where
  name := o.name
  domain := o.domain
  connectTimeout := o.connectTimeout
  readTimeout := o.readTimeout

inductive Switch where
  | domain
  | connectTimeout
  | readTimeout
  | clientCertificate
  | keystoreType
  | keystorePassword
  | output
  | trustDirectory
  | yes
  | verbose
  | help
  | version
deriving DecidableEq, Repr

namespace Switch

def all : List Switch :=
  [domain, connectTimeout, readTimeout, clientCertificate, keystoreType, keystorePassword, output, trustDirectory, yes,
   verbose, help, version]

def long : Switch → String
  | domain => "domain"
  | connectTimeout => "connect-timeout-ms"
  | readTimeout => "read-timeout-ms"
  | clientCertificate => "client-cert"
  | keystoreType => "keystore-type"
  | keystorePassword => "keystore-password"
  | output => "output"
  | trustDirectory => "trust-dir"
  | yes => "yes"
  | verbose => "verbose"
  | help => "help"
  | version => "version"

def short? : Switch → Option Char
  | domain => some 'd'
  | output => some 'o'
  | yes => some 'y'
  | verbose => some 'v'
  | help => some 'h'
  | version => some 'V'
  | _ => none

inductive Kind where
  | nothing
  | text
  | number
  | path
deriving DecidableEq, Repr

def kind : Switch → Kind
  | domain | keystoreType | keystorePassword => .text
  | connectTimeout | readTimeout => .number
  | clientCertificate | output | trustDirectory => .path
  | yes | verbose | help | version => .nothing

def takesValue (s : Switch) : Bool :=
  s.kind != .nothing

def placeholder (s : Switch) : String :=
  "<" ++ String.ofList (s.long.toList.map fun c => if c = '-' then '_' else c.toUpper) ++ ">"

def text (s : Switch) : String :=
  "--" ++ s.long ++ if s.takesValue then " " ++ s.placeholder else ""

def ofLong? (name : String) : Option Switch :=
  all.find? (·.long == name)

def ofShort? (c : Char) : Option Switch :=
  all.find? (·.short? == some c)

end Switch

inductive SwitchValue where
  | on
  | text (s : String)
  | number (n : Nat)
deriving DecidableEq, Repr

/-- The options with one more switch. Values of the wrong kind, which are not made, change nothing. -/
def Options.set (o : Options) : Switch → SwitchValue → Options
  | .domain, .text s => { o with domain := s }
  | .connectTimeout, .number n => { o with connectTimeout := n }
  | .readTimeout, .number n => { o with readTimeout := some n }
  | .clientCertificate, .text s => { o with clientCertificate := some s }
  | .keystoreType, .text s => { o with keystoreType := s }
  | .keystorePassword, .text s => { o with keystorePassword := some s }
  | .output, .text s => { o with output := some s }
  | .trustDirectory, .text s => { o with trustDirectory := some s }
  | .yes, .on => { o with assumeYes := true }
  | .verbose, .on => { o with verbose := true }
  | _, _ => o

end PodProbe
