import PodProbe.ErrorChain

/-!
This module contains the errors that end a run. What goes wrong with a single probe is not among them.
-/

namespace PodProbe

inductive RunError where
  | io (e : ErrorChain)
  | tls (e : Tls.Error)
  | http (text : String)
  | json (text : String)
  | clientIdentity (text : String)
  | keystoreType (text : String)
  | storedConfiguration (path text : String)
  | persist (path : String) (e : ErrorChain)
  | other (text : String)
deriving Repr

namespace RunError

def message : RunError → String
  | io e => "I/O error: " ++ e.message
  | tls e => "TLS configuration error: " ++ e.message
  | http text => "HTTP client error: " ++ text
  | json text => "JSON error: " ++ text
  | clientIdentity text => "invalid client identity: " ++ text
  | keystoreType text => "unsupported keystore type '" ++ text ++ "' (expected 'pem' or 'pkcs12')"
  | storedConfiguration path text => "invalid stored configuration " ++ path ++ ": " ++ text
  | persist path e => "cannot write " ++ path ++ ": " ++ e.message
  | other text => text

def source? : RunError → Option String
  | io e => some e.message
  | persist _ e => some e.message
  | tls e => some e.message
  | http text => some text
  | json text => some text
  | _ => none

end RunError

end PodProbe
