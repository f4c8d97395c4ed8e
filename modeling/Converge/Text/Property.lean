import Converge.Text.Property.Table

/-!
# Properties of characters

Sets of characters with a property that patterns may name. Some are listed; the others follow from
categories and listed properties.
-/

namespace Converge.Text

/-- The characters with a listed property. -/
def listedProperty (name : String) : CodeSet :=
  (Listed.find? name listedProperties).getD .empty

/-- Characters of patterns that are part of no identifier. -/
def patternCharacters : CodeSet :=
  (listedProperty "patternsyntax").union (listedProperty "patternwhitespace")

/-- Characters that begin identifiers. -/
def identifierStart : CodeSet :=
  ((categorySet ["Lu", "Ll", "Lt", "Lm", "Lo", "Nl"]).union (listedProperty "otheridstart")).diff
    patternCharacters

/-- Characters that go on with identifiers. -/
def identifierPart : CodeSet :=
  ((identifierStart.union (categorySet ["Mn", "Mc", "Nd", "Pc"])).union
    (listedProperty "otheridcontinue")).diff patternCharacters

/-- Characters whose compatible forms begin no identifier although they do. -/
def unstableStart : CodeSet := CodeTable.readSet
  "37A E33 EB3 309B-309C FC5E-FC63 FDFA-FDFB FE70 FE72 FE74 FE76 FE78 FE7A FE7C FE7E FF9E-FF9F"

/-- Characters whose compatible forms are no parts of identifiers although they are. -/
def unstablePart : CodeSet := CodeTable.readSet
  "37A 309B-309C FC5E-FC63 FDFA-FDFB FE70 FE72 FE74 FE76 FE78 FE7A FE7C FE7E"

/-- Characters that other characters extend. -/
def graphemeBase : CodeSet :=
  ((categorySet ["Cc", "Cf", "Cs", "Co", "Cn", "Zl", "Zp"]).union graphemeExtend).complement

/-- Characters of mathematics. -/
def mathematical : CodeSet := (categorySet ["Sm"]).union (listedProperty "othermath")

/-- Characters that some change of case changes. -/
def caseMapped : CodeSet :=
  ((listedProperty "cwl").union (listedProperty "cwt")).union (listedProperty "cwu")

/-- The set of a property that follows from others, by the property's name. -/
def derivedProperty? : String → Option CodeSet
  | "alphabetic" | "alpha" => some alphabetic
  | "lowercase" | "lower" => some lowercase
  | "uppercase" | "upper" => some uppercase
  | "otheralphabetic" | "oalpha" => some otherAlphabetic
  | "otherlowercase" | "olower" => some otherLowercase
  | "otheruppercase" | "oupper" => some otherUppercase
  | "othergraphemeextend" | "ogrext" => some otherExtending
  | "graphemeextend" | "grext" => some graphemeExtend
  | "graphemebase" | "grbase" => some graphemeBase
  | "whitespace" | "wspace" | "space" => some blanks
  | "cased" => some cased
  | "caseignorable" | "ci" => some caseIgnorable
  | "changeswhencasemapped" | "cwcm" => some caseMapped
  | "math" => some mathematical
  | "idstart" | "ids" => some identifierStart
  | "idcontinue" | "idc" => some identifierPart
  | "xidstart" | "xids" => some (identifierStart.diff unstableStart)
  | "xidcontinue" | "xidc" => some (identifierPart.diff unstablePart)
  | _ => none

/-- The set of a property with a yes-or-no value, by the property's name in lower case and without
separators. -/
def propertySet? (name : String) : Option CodeSet :=
  match derivedProperty? name with
  | some s => some s
  | none => Listed.find? name listedProperties

end Converge.Text
