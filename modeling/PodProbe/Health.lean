import PodProbe.Json

/-!
This module contains the health of a pod, which is told by one truth value for each of its components.
-/

namespace PodProbe

structure HealthComponent where
  name : String
  healthy : Bool
deriving DecidableEq, Repr

structure Health where
  components : List HealthComponent
deriving DecidableEq, Repr

namespace Health

/-- Reads an object that has nothing but truth values. -/
def ofJson? (j : Json) : Option Health := do
  let members ← j.members?
  let components ← members.mapM fun (name, value) => value.bool?.map fun healthy => HealthComponent.mk name healthy
  return { components }

def isHealthy (h : Health) : Bool :=
  h.components.all HealthComponent.healthy

end Health

end PodProbe
