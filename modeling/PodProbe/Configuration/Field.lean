import PodProbe.Configuration
import PodProbe.Json.Printer

/-!
This module contains the fields of a configuration that are stored, and the two forms of its text: one without blank
space, and one with a line for each field.
-/

namespace PodProbe.Configuration

inductive Field where
  | webUrl
  | podUrl
  | podApiUrl
  | keyManagerUrl
  | sessionAuthUrl
  | keyAuthUrl
  | agentApiUrl
  | podId
  | rootFingerprints
  | serverFingerprints
deriving DecidableEq, Repr

namespace Field

def all : List Field := [
  webUrl, podUrl, podApiUrl, keyManagerUrl, sessionAuthUrl, keyAuthUrl, agentApiUrl, podId,
  rootFingerprints, serverFingerprints]

def key : Field → String
  | webUrl => "webUrl"
  | podUrl => "podUrl"
  | podApiUrl => "podApiUrl"
  | keyManagerUrl => "keyManagerUrl"
  | sessionAuthUrl => "sessionAuthUrl"
  | keyAuthUrl => "keyAuthUrl"
  | agentApiUrl => "agentApiUrl"
  | podId => "podId"
  | rootFingerprints => "trustedRootFingerprints"
  | serverFingerprints => "serverCertificateFingerprints"

def ofKey? (key : String) : Option Field :=
  all.find? (·.key == key)

theorem ofKey?_key (f : Field) : ofKey? f.key = some f := by
  cases f <;> decide

def textJson (s : Option String) : Json :=
  match s with
  | some s => .str s
  | none => .null

def integerJson (n : Option Int) : Json :=
  match n with
  | some n => .int n
  | none => .null

def listJson (ss : List String) : Json :=
  .arr (ss.map .str)

def json (c : Configuration) : Field → Json
  | webUrl => textJson c.webUrl
  | podUrl => textJson c.podUrl
  | podApiUrl => textJson c.podApiUrl
  | keyManagerUrl => textJson c.keyManagerUrl
  | sessionAuthUrl => textJson c.sessionAuthUrl
  | keyAuthUrl => textJson c.keyAuthUrl
  | agentApiUrl => textJson c.agentApiUrl
  | podId => integerJson c.podId
  | rootFingerprints => listJson c.rootFingerprints
  | serverFingerprints => listJson c.serverFingerprints

end Field

def members (c : Configuration) : List (String × Json) :=
  Field.all.map fun f => (f.key, f.json c)

def toText (c : Configuration) : String :=
  String.ofList ('\x7b' :: Json.commas (Json.memberChars c.members) ++ ['\x7d'])

def newline (depth : Nat) : List Char :=
  '\n' :: List.replicate (2 * depth) ' '

def block (depth : Nat) (start stop : Char) (items : List (List Char)) : List Char :=
  if items.isEmpty then [start, stop]
  else start :: Json.commas (items.map (newline (depth + 1) ++ ·)) ++ newline depth ++ [stop]

def valueChars (depth : Nat) : Json → List Char
  | .arr items => block depth '[' ']' (Json.itemChars items)
  | j => j.chars

def toLines (c : Configuration) : String :=
  String.ofList (block 0 '\x7b' '\x7d' (c.members.map fun (key, value) =>
    Json.quoted key ++ ':' :: ' ' :: valueChars 1 value))

end PodProbe.Configuration
