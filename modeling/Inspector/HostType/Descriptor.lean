import Inspector.HostType.Basic
import Inspector.Reflection.Error

/-!
# Descriptors and display names

A type has two written forms. The descriptor has one letter for a primitive, `L…;` around the
slashed name of a class, and one `[` in front for each array level: `[[D`, `Ljava/lang/String;`.
The display name has the dotted name and one `[]` behind it for each level: `double[][]`.
Reading either form asks nothing of the host.
-/

namespace Inspector

/-- The most array levels that a written type may have. -/
def maxDimensions : Nat := 255

/-- The parts of a text between the separators; their number is one more than that of the
separators. -/
def segments (separator : Char) : List Char → List (List Char)
  | [] => [[]]
  | c :: rest =>
    if c = separator then [] :: segments separator rest
    else
      match segments separator rest with
      | [] => [[c]]
      | first :: others => (c :: first) :: others

/-- Whether a character may stand in a segment of a class name. -/
def isNameChar (c : Char) : Bool :=
  c != '.' && c != ';' && c != '[' && c != ']'

/-- Whether a text is a slashed class name: no segment is empty or holds punctuation. -/
def isSlashedName (name : List Char) : Bool :=
  (segments '/' name).all fun segment => !segment.isEmpty && segment.all isNameChar

namespace HostType

/-! ## Descriptors -/

def elementDescriptor : HostType → String
  | primitive kind => kind.code.toString
  | void => "V"
  | cls name => "L" ++ slashedName name ++ ";"
  | array component => component.elementDescriptor

def descriptor (t : HostType) : String :=
  String.ofList (List.replicate t.dimensions '[') ++ t.elementDescriptor

/-- The class whose descriptor is `L`, the given characters: a slashed name and a semicolon. -/
def parseClass? (body : List Char) : Option HostType :=
  if body.getLast? = some ';' ∧ isSlashedName body.dropLast then
    some (ofClassName (String.ofList body.dropLast))
  else none

/-- The element type with the given descriptor; `void` cannot be the element of an array. -/
def parseElement? (dimensions : Nat) : List Char → Option HostType
  | 'L' :: body => parseClass? body
  | ['V'] => if dimensions = 0 then some void else none
  | [code] => (Primitive.ofCode? code).map primitive
  | _ => none

def ofDescriptorChars? (text : List Char) : Option HostType :=
  let dimensions := (text.takeWhile (· == '[')).length
  if dimensions ≤ maxDimensions then
    (parseElement? dimensions (text.dropWhile (· == '['))).map fun element =>
      arrayOf element dimensions
  else none

def ofDescriptor (text : String) : Except ReflectionError HostType :=
  match ofDescriptorChars? text.toList with
  | some t => .ok t
  | none => .error (.malformedDescriptor text)

/-! ## Display names -/

def elementName : HostType → String
  | primitive kind => kind.name
  | void => "void"
  | cls name => name
  | array component => component.elementName

def displayName (t : HostType) : String :=
  t.elementName ++ String.join (List.replicate t.dimensions "[]")

/-- Takes `[]` off the end of a reversed text as often as it stands there. -/
def stripBrackets : List Char → Nat × List Char
  | ']' :: '[' :: rest =>
    let (dimensions, base) := stripBrackets rest
    (dimensions + 1, base)
  | base => (0, base)

def parseElementName? (dimensions : Nat) (name : String) : Option HostType :=
  if name = "void" then
    if dimensions = 0 then some void else none
  else
    match Primitive.ofName? name with
    | some kind => some (primitive kind)
    | none =>
      if !name.toList.contains '/' && isSlashedName (slashedName name).toList then
        some (cls name)
      else none

def ofDisplayNameChars? (text : List Char) : Option HostType :=
  let (dimensions, base) := stripBrackets text.reverse
  if dimensions ≤ maxDimensions then
    (parseElementName? dimensions (String.ofList base.reverse)).map fun element =>
      arrayOf element dimensions
  else none

def ofDisplayName (text : String) : Except ReflectionError HostType :=
  match ofDisplayNameChars? text.toList with
  | some t => .ok t
  | none => .error (.malformedDescriptor text)

end HostType

/-- The signature of a method: its parameters' descriptors in parentheses, then the result's. -/
def methodSignature (params : List HostType) (result : HostType) : String :=
  "(" ++ String.join (params.map HostType.descriptor) ++ ")" ++ result.descriptor

end Inspector
