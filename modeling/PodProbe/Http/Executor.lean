import PodProbe.Http.Network
import PodProbe.HostName
import PodProbe.Journal

/-!
This module contains the attempts at probes over a network. An attempt never fails: whatever goes wrong becomes the
failure of its probe. What happens is logged.
-/

namespace PodProbe.Http

/-- Whether a host is an address in itself, so that there is nothing to look up. -/
def isAddress (host : String) : Bool :=
  let cs := host.toList
  (match (cs.splitOn '.').mapM Url.readByte? with
    | some [_, _, _, _] => true
    | _ => false)
  || (Url.readAddress6? cs).isSome

/-- Looks up a host, unless it cannot be a name. -/
def Network.resolve (net : Network) (host : String) : Except String Bool :=
  if isAddress host then .ok true
  else
    match HostName.fault? host with
    | some e => .error ("proto error: " ++ e.message)
    | none => (net.lookup host).map (!·.isEmpty)

inductive Course where
  /-- The host has no address, for a reason that may be known. -/
  | unknownHost (reason : Option String)
  | refused (r : Refusal)
  | attempted (a : Attempt)

def course (net : Network) (settings : Settings) (p : Probe) : Course :=
  match if settings.resolveHosts then net.resolve p.endpoint.host else .ok true with
  | .error reason => .unknownHost (some reason)
  | .ok false => .unknownHost none
  | .ok true =>
    match Message.ofProbe p with
    | .error r => .refused r
    | .ok m => .attempted (net.send settings m)

def Refusal.error (r : Refusal) : TransportError where
  chain := r.chain

/-- What a course comes to, and what is left in the recorder. A request that cannot be made fails before any handshake. -/
def Course.conclude : Course → Reply × Tls.Recorder
  | unknownHost _ => (.failure .unknownHost [], {})
  | refused r => Attempt.conclude { ending := .error r.error }
  | attempted a => a.conclude

def Course.reply (c : Course) : Reply :=
  c.conclude.1

def Course.log (p : Probe) : Course → List Event
  | unknownHost reason =>
    (match reason with
      | some text => [debug (p.endpoint.host ++ " does not resolve: " ++ text)]
      | none => [])
    ++ [debug (p.url ++ ": unknown host " ++ p.endpoint.host)]
  | refused r => start :: verdict r.error.failure
  | attempted a =>
    match a.ending with
    | .error e => start :: verdict e.failure
    | .ok r =>
      let answered := debug (p.url ++ ": HTTP " ++ toString r.status.toNat ++ " ("
        ++ r.contentType.getD "no content type" ++ ")")
      start :: answered
        :: match (p.receive a.reply).failure? with
          | some f => verdict f
          | none => []
where
  debug (message : String) : Event := { level := .debug, message }
  start : Event := debug (p.request.method.text ++ " " ++ p.url)
  verdict (f : Failure) : List Event := [debug (p.url ++ ": " ++ f.message)]

def executor (net : Network) (settings : Settings) : Executor where
  reply p := (course net settings p).reply
  log p := (course net settings p).log p

end PodProbe.Http
