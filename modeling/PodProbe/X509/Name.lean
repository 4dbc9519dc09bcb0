import PodProbe.Der

/-!
This module contains the names in certificates and the text that they are shown as.
-/

namespace PodProbe.X509

structure Attribute where
  type : Bytes
  value : Der.Element
deriving DecidableEq, Repr

abbrev Name := List (List Attribute)

def readIdentifier (bs : Bytes) : Option (Bytes × Bytes) := do
  let (e, rest) ← Der.readElement bs
  if e.constructed then none else return (e.contents, rest)

def readAttribute (bs : Bytes) : Option (Attribute × Bytes) := do
  let (inside, rest) ← Der.readSequence bs
  let (type, inside) ← readIdentifier inside
  let (value, _) ← Der.readElement inside
  return (⟨type, value⟩, rest)

def readMany {α : Type} (item : Bytes → Option (α × Bytes)) : Nat → Bytes → List α × Bytes
  | 0, bs => ([], bs)
  | fuel + 1, bs =>
    match item bs with
    | some (x, rest) =>
      let (xs, rest) := readMany item fuel rest
      (x :: xs, rest)
    | none => ([], bs)

def readAttributes (bs : Bytes) : Option (List Attribute × Bytes) := do
  let (inside, rest) ← Der.readSet bs
  match (readMany readAttribute inside.length inside).1 with
  | [] => none
  | as => return (as, rest)

def readName (bs : Bytes) : Option (Name × Bytes) := do
  let (inside, rest) ← Der.readSequence bs
  return ((readMany readAttributes inside.length inside).1, rest)

def labels : List (List Nat × String) :=
  [([2, 5, 4, 3], "CN"), ([2, 5, 4, 6], "C"), ([2, 5, 4, 7], "L"), ([2, 5, 4, 8], "ST"), ([2, 5, 4, 10], "O"),
   ([2, 5, 4, 11], "OU"), ([0, 9, 2342, 19200300, 100, 1, 25], "DC"), ([1, 2, 840, 113549, 1, 9, 1], "Email"),
   ([2, 5, 4, 4], "surname"), ([2, 5, 4, 5], "serialNumber"), ([2, 5, 4, 9], "streetAddress"),
   ([2, 5, 4, 12], "title"), ([2, 5, 4, 13], "description"), ([2, 5, 4, 15], "businessCategory"),
   ([2, 5, 4, 16], "postalAddress"), ([2, 5, 4, 17], "postalCode"), ([2, 5, 4, 41], "name"),
   ([2, 5, 4, 42], "givenName"), ([2, 5, 4, 43], "initials"), ([2, 5, 4, 44], "generationQualifier"),
   ([2, 5, 4, 45], "uniqueIdentifier"), ([2, 5, 4, 46], "dnQualifier"),
   ([0, 9, 2342, 19200300, 100, 1, 1], "uid"), ([1, 2, 840, 113549, 1, 9, 2], "unstructuredName"),
   ([1, 2, 840, 113549, 1, 9, 7], "challengePassword"),
   ([1, 3, 6, 1, 4, 1, 311, 60, 2, 1, 1], "msJurisdictionLocality"),
   ([1, 3, 6, 1, 4, 1, 311, 60, 2, 1, 2], "msJurisdictionStateOrProvince"),
   ([1, 3, 6, 1, 4, 1, 311, 60, 2, 1, 3], "msJurisdictionCountry")]

def label (type : Bytes) : String :=
  let arcs := Der.identifierArcs type
  (labels.lookup arcs).getD ("OID(" ++ Der.dotted arcs ++ ")")

def units : Bytes → List Nat
  | [] => []
  | [a] => [a.toNat]
  | a :: b :: bs => (a.toNat * 256 + b.toNat) :: units bs

/-- The text of units of UTF-16, unless a surrogate has no partner. -/
def ofUnits? : List Nat → Option (List Char)
  | [] => some []
  | u :: us =>
    if 0xD800 ≤ u ∧ u < 0xDC00 then
      match us with
      | v :: us =>
        if 0xDC00 ≤ v ∧ v < 0xE000 then
          (ofUnits? us).map (Char.ofNat (0x10000 + (u - 0xD800) * 0x400 + (v - 0xDC00)) :: ·)
        else none
      | [] => none
    else if 0xDC00 ≤ u ∧ u < 0xE000 then none
    else (ofUnits? us).map (Char.ofNat u :: ·)

def utf8Types : List Nat :=
  [7, 12, 18, 19, 20, 21, 22, 25, 26, 27]

def bmpStringType : Nat := 30

/-- The text of a value: itself if it is a string, otherwise its bytes. -/
def valueText? (value : Der.Element) : Option String :=
  if utf8Types.contains value.number then Bytes.toString? value.contents
  else if value.number = bmpStringType then (ofUnits? (units value.contents)).map String.ofList
  else some (String.ofList ((Bytes.toHex value.contents).toList.map Char.toUpper))

def Attribute.text? (a : Attribute) : Option String :=
  (valueText? a.value).map fun v => label a.type ++ "=" ++ v

/-- Joins texts; nothing stands between two of them where nothing was written yet. -/
def joinNonempty (joiner : String) (parts : List String) : String :=
  parts.foldl (fun acc part => if acc.isEmpty then part else acc ++ joiner ++ part) ""

/-- The text of a name, unless it has a value that is no text. -/
def Name.text? (name : Name) : Option String := do
  let sets ← name.mapM fun as => do
    return joinNonempty " + " (← as.mapM Attribute.text?)
  return joinNonempty ", " sets

def Name.text (name : Name) : String :=
  (Name.text? name).getD "<X509Error: Invalid X.509 name>"

end PodProbe.X509
