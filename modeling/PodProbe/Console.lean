import PodProbe.Bytes.Line
import PodProbe.Text.Ascii
import PodProbe.Text.Blank
import PodProbe.Text.Styled

/-!
This module contains the dealings with a terminal that do not depend on what a run finds: titles, questions and the
banners around a run.
-/

namespace PodProbe.Console

open Text (Styled line pad)

/-- A title has a rule below it, which is as long as the title has bytes. -/
def title (text : String) : String :=
  let rule := String.ofList (List.replicate (Bytes.ofString text).length '_')
  " " ++ text ++ "\n " ++ rule ++ "\n"

/-! ### Questions -/

structure Question where
  text : String
  preset : Bool
  assumeYes : Bool := false

def Question.prompt (q : Question) : String :=
  if q.assumeYes then q.text ++ " yes\n"
  else q.text ++ " " ++ (if q.preset then "[Y/n]" else "[y/N]") ++ " "

/-- The meaning of a line: blank is the preset, a kind of yes is yes, and all else is no. -/
def readAnswer (answer : List Char) (preset : Bool) : Bool :=
  let word := Text.lower (Text.trim answer)
  if word.isEmpty then preset else word == ['y'] || word == ['y', 'e', 's']

/--
Asks a question. The answer is the next line of what is typed, and there is none if that is not UTF-8; the rest of
what is typed is left for later questions.
-/
def Question.ask (q : Question) (typed : Bytes) : Option Bool × Bytes :=
  if q.assumeYes then (some true, typed)
  else
    let (line, rest) := Bytes.splitLine typed
    ((Bytes.toChars? line).map (readAnswer · q.preset), rest)

/-! ### Banners -/

def programName : String := "rust-podprobe"

def programVersion : String := "0.1.0"

def bar : String :=
  String.ofList (List.replicate 75 '#')

/-- What stands above a run that starts at a moment, which is given as a calendar time and as an epoch number. -/
def startBanner (moment epoch hostname : String) : Styled :=
  line [bar]
  ++ line [" " ++ programName ++ " version " ++ programVersion]
  ++ line [" (" ++ epoch ++ " " ++ moment ++ ")"]
  ++ line []
  ++ line [" Maps the endpoints of a pod starting from its host name."]
  ++ line [" Server certificates are trusted blindly so they can be harvested."]
  ++ line []
  ++ line [bar]
  ++ line []
  ++ line [pad 28 ("Start " ++ moment) ++ " -->> " ++ hostname ++ " <<--"]
  ++ line []

def endBanner (moment : String) (elapsed : Int) (hostname : String) : Styled :=
  line []
  ++ line [bar]
  ++ line ["Done " ++ pad 28 moment ++ "[ " ++ toString elapsed ++ "s] -->> " ++ hostname ++ " <<--"]
  ++ line []

end PodProbe.Console
