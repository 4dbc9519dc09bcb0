import PodProbe.Health
import PodProbe.Narration
import PodProbe.PodAccount

/-!
This module contains what a run tells about the health of a pod and about the account of its session.
-/

namespace PodProbe.Narration

open Text (Styled Tint line pad)

def health (h : Health) (p : Probe) : Styled :=
  let overall := if p.unhealthy then Tint.red.span "UNHEALTHY" else Tint.green.span "healthy"
  entry "Pod health" [overall, (" (" ++ p.baseUrl ++ ")" : String)]
    ++ h.components.flatMap fun c =>
      entry "" [(pad 24 c.name ++ " " : String), if c.healthy then Tint.green.span "OK" else Tint.red.span "UNHEALTHY"]

def identity (i : SessionIdentity) : Styled :=
  note "Authenticated as" (i.displayName.getD "--")
    ++ note "User id" (i.id.getD "--")
    ++ note "Company" (i.company.getD "--")

end PodProbe.Narration
