import PodProbe.Harvest

/-!
This module contains what is to be known about a pod in order to use it.
-/

namespace PodProbe

structure Configuration where
  webUrl : Option String := none
  podUrl : Option String := none
  podApiUrl : Option String := none
  keyManagerUrl : Option String := none
  sessionAuthUrl : Option String := none
  keyAuthUrl : Option String := none
  agentApiUrl : Option String := none
  podId : Option Int := none
  rootFingerprints : List String := []
  serverFingerprints : List String := []
  certificates : Harvest := {}
deriving DecidableEq, Repr

/-- Whether nothing is known of the pod, whatever certificates were seen. -/
def Configuration.isEmpty (c : Configuration) : Bool :=
  c.webUrl.isNone && c.podUrl.isNone && c.podApiUrl.isNone && c.keyManagerUrl.isNone && c.sessionAuthUrl.isNone
    && c.keyAuthUrl.isNone && c.agentApiUrl.isNone && c.podId.isNone

end PodProbe
