import PodProbe.Certificate.Fingerprint
import PodProbe.Discovery

/-!
This module contains the summary of a run.
-/

namespace PodProbe.Narration

open Text (Styled Span Tint line)

def site : Site → Span
  | .platform => Tint.green.span "pod client found"
  | .websiteOnly => Tint.yellow.span "website, but not a pod"
  | .nonSslWebsite => Tint.yellow.span "non-SSL website"
  | .notAWebsite => Tint.red.span "not a website"

/-- A line for something that may not be known. -/
def field (what : String) (value : Option String) : Styled :=
  match value with
  | some v => note what v
  | none => entry what [Tint.dimmed.span "--"]

def healthField (h : Option Health) : Styled :=
  field "Health" (h.map fun h => if h.isHealthy then "healthy" else "UNHEALTHY")

def certificate (c : Certificate) : Styled :=
  note "" (c.subject?.getD "(unparsable certificate)")
    ++ note "" ("  SHA1 " ++ c.sha1Hex)
    ++ note "" ("  SHA256 " ++ c.sha256Hex)

def certificates (what : String) (cs : List Certificate) : Styled :=
  note what (toString cs.length) ++ cs.flatMap certificate

def configuration (c : Configuration) : Styled :=
  field "Web URL" c.webUrl
    ++ field "Pod URL" c.podUrl
    ++ field "Pod API URL" c.podApiUrl
    ++ field "Key manager URL" c.keyManagerUrl
    ++ field "Session auth URL" c.sessionAuthUrl
    ++ field "Key auth URL" c.keyAuthUrl
    ++ field "Agent API URL" c.agentApiUrl
    ++ field "Pod id" (c.podId.map toString)

def summary (r : Report) : Styled :=
  phase "Discovered configuration"
    ++ entry "Site" [site r.site]
    ++ configuration r.configuration
    ++ healthField r.health
    ++ certificates "Root certificates" r.configuration.certificates.roots
    ++ certificates "Server certificates" r.configuration.certificates.servers
    ++ line []

end PodProbe.Narration
