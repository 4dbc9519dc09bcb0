import PodProbe.Discovery.Phase
import PodProbe.Narration.Account
import PodProbe.Settings
import PodProbe.Url.Reader

/-!
This module contains the discovery of a pod. It goes through phases, each of which adds what it finds to what the
earlier ones have found; a phase that finds nothing does not stop the later ones, unless there is no pod at all.
Tokens are passed on only where a scan leaves no doubt about them.
-/

namespace PodProbe

inductive Site where
  | platform
  | websiteOnly
  | nonSslWebsite
  | notAWebsite
deriving DecidableEq, Repr

structure Report where
  site : Site
  configuration : Configuration := {}
  health : Option Health := none
  identity : Option SessionIdentity := none
  tokens : Tokens := {}

def Report.isUsable (r : Report) : Bool :=
  r.site == .platform

namespace Discovery

open Journaled

def podPorts : List UInt16 := [443, 8443]

def authPorts : List UInt16 := [8444, 8445, 8446]

def agentPorts : List UInt16 := [443, 8444, 8445, 8446]

def nameSuffixes : List String := ["-api", ""]

def clientPath : String := "/client/index.html"

def healthCheckPath : String := "/webcontroller/HealthCheck/aggregated"

def podInfoPath : String := "/webcontroller/public/podInfo"

def checkAuthPath : String := "/login/checkauth?type=user"

def authenticatePath : String := "/v1/authenticate"

def podApiBase : String := "/pod"

def sessionInfoPath : String := "/v2/sessioninfo"

def agentBase : String := "/agent"

def echoPath : String := "/v1/util/echo"

def relayPath : String := "/relay"

def jsonType : String := "application/json"

def siteStatuses : List UInt16 := [200, 301, 302, 303, 307, 308]

/-! ### The site -/

def siteProbe (endpoint : Endpoint) : Probe :=
  (endpoint.probe "/" none).expectStatuses siteStatuses

def clientProbe (endpoint : Endpoint) : Probe :=
  endpoint.probe clientPath (some "text/html")

def findClient (settings : Settings) (e : Executor) (seen : Bool) : List UInt16 → Phase (Bool × Option Endpoint)
  | [] => return (seen, none)
  | port :: ports => do
    let endpoint := settings.endpoint port
    let site ← attempt e (siteProbe endpoint)
    if site.isFailed then findClient settings e seen ports
    else
      let client ← attempt e (clientProbe endpoint)
      if client.isFailed then
        print (Narration.note "Website" (endpoint.baseUrl ++ " does not serve the pod client"))
        findClient settings e true ports
      else
        print (Narration.found "Pod client" client.url)
        configure ({ · with webUrl := some endpoint.baseUrl })
        return (true, some endpoint)

/-- The probe of a website without TLS, of which a redirection does not count. -/
def plainProbe (endpoint : Endpoint) : Probe :=
  endpoint.plaintext.probe "/" none

def findPlainSite (settings : Settings) (e : Executor) : List UInt16 → Phase Bool
  | [] => return false
  | port :: ports => do
    let p ← attempt e (plainProbe (settings.endpoint port))
    if p.isFailed then findPlainSite settings e ports
    else
      print (Narration.note "Website" ("non-SSL website at " ++ p.baseUrl))
      return true

def detectSite (settings : Settings) (e : Executor) : Phase (Site × Option Endpoint) := do
  print (Narration.phase ("Looking for a website at " ++ settings.hostname))
  let (seen, pod) ← findClient settings e false podPorts
  if pod.isSome then return (.platform, pod)
  else if seen then
    print (Narration.note "Website" "found, but it is not a pod")
    return (.websiteOnly, none)
  else
    let plain ← findPlainSite settings e podPorts
    if plain then return (.nonSslWebsite, none)
    else
      print (Narration.notFound "Website")
      return (.notAWebsite, none)

/-! ### Health -/

def healthProbe (pod : Endpoint) : Probe :=
  pod.probe healthCheckPath (some jsonType)

def checkHealth (e : Executor) (pod : Endpoint) : Phase (Option Health) := do
  print (Narration.phase "Health check")
  let p ← attempt e (healthProbe pod)
  if p.isFailed then
    print (Narration.notFound "Health check")
    return none
  else
    match p.json.bind Health.ofJson? with
    | none =>
      warnPayload "health check" p
      print (Narration.note "Health check" "unexpected payload")
      return none
    | some health =>
      configure ({ · with podUrl := some pod.baseUrl })
      print (Narration.health health (if health.isHealthy then p else p.setUnhealthy))
      return some health

/-! ### Tokens -/

inductive AuthKind where
  | session
  | key
deriving DecidableEq, Repr

namespace AuthKind

def title : AuthKind → String
  | session => "Session auth"
  | key => "Key auth"

def basePath : AuthKind → String
  | session => "/sessionauth"
  | key => "/keyauth"

def token : AuthKind → TokenKind
  | session => .session
  | key => .keyManager

def record (kind : AuthKind) (url : Option String) (c : Configuration) : Configuration :=
  match kind with
  | session => { c with sessionAuthUrl := url }
  | key => { c with keyAuthUrl := url }

end AuthKind

def tokenOf? (p : Probe) : Option String :=
  (p.json.bind (·.get? "token")).bind Json.str?

def authProbes (kind : AuthKind) (name domain : String) (tokens : Tokens) : List Probe :=
  (Endpoint.candidates name domain nameSuffixes authPorts kind.basePath).map fun endpoint =>
    tokens.asHeaders (tokens.asCookies (endpoint.probe authenticatePath (some jsonType)).post)

/-- The token of the only valid candidate. -/
def resolvedToken? : Outcome → Option String
  | .found p => tokenOf? p
  | _ => none

/-- Looks for a service among its candidates. Its token is kept if only one of them gives one out. -/
def discoverAuth (settings : Settings) (e : Executor) (kind : AuthKind) (name domain : String) : Phase Unit := do
  print (Narration.phase (kind.title ++ " discovery"))
  let scan ← scan e kind.title (fun p => (tokenOf? p).isSome) (authProbes kind name domain (← get).tokens)
  let url ← conclude kind.title scan.outcome
  if let some token := resolvedToken? scan.outcome then
    modify (·.obtain settings.hostname kind.token token)
    log .debug (kind.title ++ " token stored for " ++ settings.hostname)
  configure (kind.record url)

/-! ### The interface of the pod -/

def sessionInfoProbe (pod : Endpoint) (tokens : Tokens) : Probe :=
  let statuses : List UInt16 := if (tokens.get? .session).isSome then [200] else [200, 401]
  tokens.asCookies (({ pod with basePath := podApiBase, scheme := .https }.probe sessionInfoPath none).expectStatuses statuses)

/-- Tells whom a session belongs to, which is of interest only with a client certificate. -/
def tellIdentity (settings : Settings) (p : Probe) (identity : Option SessionIdentity) : Phase Unit := do
  match identity with
  | some i => if settings.hasClientCertificate then print (Narration.identity i)
  | none => warnPayload "session info" p

def discoverPodApi (settings : Settings) (e : Executor) (pod : Endpoint) : Phase (Option SessionIdentity) := do
  print (Narration.phase "Pod API discovery")
  let p ← attempt e (sessionInfoProbe pod (← get).tokens)
  if p.isFailed then
    print (Narration.notFound "Pod API")
    return none
  else
    print (Narration.found "Pod API" p.baseUrl)
    configure ({ · with podApiUrl := some p.baseUrl })
    if p.status = some 200 then
      let identity := p.json.bind SessionIdentity.ofJson?
      tellIdentity settings p identity
      return identity
    else return none

/-! ### The key manager -/

def checkAuthProbe (pod : Endpoint) (tokens : Tokens) : Probe :=
  tokens.asCookies ((pod.probe checkAuthPath none).expectStatuses [200, 401])

def checkAuth (e : Executor) (pod : Endpoint) : Phase Unit := do
  print (Narration.phase "Key manager discovery")
  configure ({ · with keyManagerUrl := some (pod.baseUrl ++ relayPath) })
  let p ← attempt e (checkAuthProbe pod (← get).tokens)
  if p.isFailed then print (Narration.notFound "Check auth")
  else
    match (p.json.bind (·.get? "keymanagerUrl")).bind Json.str? with
    | some url =>
      print (Narration.found "Key manager (checkauth)" url)
      configure ({ · with keyManagerUrl := some url })
    | none => print (Narration.note "Key manager" "checkauth did not name one, using relay")

def podInfoProbe (pod : Endpoint) : Probe :=
  pod.probe podInfoPath (some jsonType)

def podInfo (e : Executor) (pod : Endpoint) : Phase Unit := do
  print (Narration.phase "Pod info")
  let p ← attempt e (podInfoProbe pod)
  if p.isFailed then print (Narration.notFound "Pod info")
  else
    match p.json.bind PodInfo.ofJson? with
    | none =>
      warnPayload "pod info" p
      print (Narration.note "Pod info" "unexpected payload")
    | some info =>
      if let some id := info.podId then
        print (Narration.note "Pod id" (toString id))
        configure ({ · with podId := some id })
      if let some url := info.keyManagerUrl then
        print (Narration.found "Key manager (podInfo)" url)
        configure ({ · with keyManagerUrl := some url })

def discoverKeyAuth (settings : Settings) (e : Executor) : Phase Unit := do
  match (← get).configuration.keyManagerUrl.bind Url.splitHost? with
  | some (name, domain) => discoverAuth settings e .key name domain
  | none => print (Narration.note AuthKind.key.title "skipped, no key manager host")

/-! ### The agent -/

def agentProbes (settings : Settings) (tokens : Tokens) : List Probe :=
  (Endpoint.candidates settings.name settings.domain nameSuffixes agentPorts agentBase).map fun endpoint =>
    tokens.asHeaders ((endpoint.probe echoPath none).postJson (.obj [("message", .str "Hello World")]))

def discoverAgent (settings : Settings) (e : Executor) : Phase Unit := do
  print (Narration.phase "Agent discovery")
  let scan ← scan e "Agent" (fun _ => true) (agentProbes settings (← get).tokens)
  let url ← conclude "Agent API" scan.outcome
  configure ({ · with agentApiUrl := url })

/-! ### The whole run -/

def consultPod (settings : Settings) (e : Executor) (pod : Endpoint) : Phase (Option SessionIdentity) := do
  discoverAuth settings e .session settings.name settings.domain
  let identity ← discoverPodApi settings e pod
  checkAuth e pod
  podInfo e pod
  return identity

def exploreHealthy (settings : Settings) (e : Executor) (pod : Endpoint) (health : Health) : Phase Report := do
  let identity ← consultPod settings e pod
  discoverKeyAuth settings e
  discoverAgent settings e
  let f ← get
  return { site := .platform, configuration := f.configuration, health := some health, identity, tokens := f.tokens }

def explorePod (settings : Settings) (e : Executor) (pod : Endpoint) : Phase Report := do
  match ← checkHealth e pod with
  | some health => exploreHealthy settings e pod health
  | none =>
    log .debug ("no health object from " ++ pod.baseUrl ++ ", skipping remaining phases")
    return { site := .platform, configuration := (← get).configuration }

def explore (settings : Settings) (e : Executor) : Phase Report := do
  let (site, pod) ← detectSite settings e
  match pod with
  | some pod => explorePod settings e pod
  | none => return { site, configuration := (← get).configuration }

def run (settings : Settings) (e : Executor) (store : TokenStore) : Journaled (Report × TokenStore) := do
  let (report, f) ← (explore settings e).run { store }
  return (report, f.store)

end Discovery

end PodProbe
