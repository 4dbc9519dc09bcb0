import PodProbe.Console
import PodProbe.Scan

/-!
This module contains what a run tells on the terminal about its steps: the phase it is in, each attempt, and what was
found where.
-/

namespace PodProbe.Narration

open Text (Styled Span Tint line pad)

def entry (what : String) (spans : List Span) : Styled :=
  line (((pad 30 what ++ " " : String) : Span) :: spans)

def phase (title : String) : Styled :=
  line [Console.title title]

def verdict (p : Probe) : Span :=
  match p.failure? with
  | none => Tint.green.span "ok"
  | some f => if p.isFailedCertAuth then Tint.yellow.span f.message else Tint.red.span f.message

def attempt (p : Probe) : Styled :=
  line [("  " ++ pad 60 p.url ++ " " : String), verdict p]

def attempts (ps : List Probe) : Styled :=
  ps.flatMap attempt

def found (what url : String) : Styled :=
  entry what [Tint.green.span "found at", (" " ++ url : String)]

def notFound (what : String) : Styled :=
  entry what [Tint.red.span "not found"]

def note (what detail : String) : Styled :=
  entry what [detail]

/-- The conclusion of a scan, with the candidates among which it could not decide. -/
def conclusion (what : String) : Outcome → Styled
  | .found p => found what p.baseUrl
  | .probable p =>
    entry what [Tint.yellow.span "probably at", (" " ++ p.baseUrl ++ " (client certificate required)" : String)]
  | .possible ps =>
    entry what [Tint.yellow.span "possibly at one of"] ++ ps.flatMap fun p => entry "" [p.baseUrl]
  | .ambiguous ps =>
    entry what [Tint.yellow.span "ambiguous, answered at"] ++ ps.flatMap fun p => entry "" [p.baseUrl]
  | .notFound => notFound what

end PodProbe.Narration
