import Trackplan.Unicode.Case
import Trackplan.Unicode.NamedProperty
import Trackplan.Unicode.Property
import Trackplan.Unicode.ScriptsFromMahajani
import Trackplan.Unicode.ScriptsToLydian
import Trackplan.Unicode.SharedRanges

/-! Sets of characters by the names of their properties. Names are matched loosely: case, blanks,
hyphens, low lines and a leading "is" do not count. -/
namespace Trackplan.Unicode

/-- The loose form of a name. Characters beyond ASCII are dropped. The one name that its leading
"is" must not lose is the short form of the comment property. -/
def looseName (name : List Char) : String :=
  let letters := name.filterMap fun c =>
    if c = ' ' ∨ c = '_' ∨ c = '-' ∨ 128 ≤ c.toNat then none else some c.toLower
  match name.map Char.toLower with
  | 'i' :: 's' :: _ =>
    let rest := letters.drop 2
    if rest = ['c'] then "isc" else .ofList rest
  | _ => .ofList letters

def scripts : List NamedRanges := scriptsToLydian ++ scriptsFromMahajani

def rangesNamed? (sets : List NamedRanges) (name : String) : Option (Char → Bool) :=
  (sets.find? (·.names.contains name)).map fun set c => covers set.ranges c.toNat

def scriptNamed? (name : String) : Option (Char → Bool) := rangesNamed? scripts name

/-- The characters that a script uses: its own, and those that it shares. -/
def scriptUseNamed? (name : String) : Option (Char → Bool) :=
  (scripts.find? (·.names.contains name)).map fun set c =>
    match sharing? c.toNat with
    | some users => users.any set.names.contains
    | none => covers set.ranges c.toNat

structure CategoryGroup where
  names : List String
  members : List Category

def categoryGroups : List CategoryGroup := [
  ⟨["lu", "uppercaseletter"], [.uppercaseLetter]⟩,
  ⟨["ll", "lowercaseletter"], [.lowercaseLetter]⟩,
  ⟨["lt", "titlecaseletter"], [.titlecaseLetter]⟩,
  ⟨["lc", "casedletter"], Category.casedLetters⟩,
  ⟨["lm", "modifierletter"], [.modifierLetter]⟩,
  ⟨["lo", "otherletter"], [.otherLetter]⟩,
  ⟨["l", "letter"], Category.letters⟩,
  ⟨["mn", "nonspacingmark"], [.nonspacingMark]⟩,
  ⟨["mc", "spacingmark"], [.spacingMark]⟩,
  ⟨["me", "enclosingmark"], [.enclosingMark]⟩,
  ⟨["m", "mark", "combiningmark"], Category.marks⟩,
  ⟨["nd", "decimalnumber", "digit"], [.decimalNumber]⟩,
  ⟨["nl", "letternumber"], [.letterNumber]⟩,
  ⟨["no", "othernumber"], [.otherNumber]⟩,
  ⟨["n", "number"], Category.numbers⟩,
  ⟨["pc", "connectorpunctuation"], [.connectorPunctuation]⟩,
  ⟨["pd", "dashpunctuation"], [.dashPunctuation]⟩,
  ⟨["ps", "openpunctuation"], [.openPunctuation]⟩,
  ⟨["pe", "closepunctuation"], [.closePunctuation]⟩,
  ⟨["pi", "initialpunctuation"], [.initialPunctuation]⟩,
  ⟨["pf", "finalpunctuation"], [.finalPunctuation]⟩,
  ⟨["po", "otherpunctuation"], [.otherPunctuation]⟩,
  ⟨["p", "punctuation", "punct"], Category.punctuation⟩,
  ⟨["sm", "mathsymbol"], [.mathSymbol]⟩,
  ⟨["sc", "currencysymbol"], [.currencySymbol]⟩,
  ⟨["sk", "modifiersymbol"], [.modifierSymbol]⟩,
  ⟨["so", "othersymbol"], [.otherSymbol]⟩,
  ⟨["s", "symbol"], Category.symbols⟩,
  ⟨["zs", "spaceseparator"], [.spaceSeparator]⟩,
  ⟨["zl", "lineseparator"], [.lineSeparator]⟩,
  ⟨["zp", "paragraphseparator"], [.paragraphSeparator]⟩,
  ⟨["z", "separator"], Category.separators⟩,
  ⟨["cc", "control", "cntrl"], [.control]⟩,
  ⟨["cf", "format"], [.format]⟩,
  ⟨["cs", "surrogate"], [.surrogate]⟩,
  ⟨["co", "privateuse"], [.privateUse]⟩]

def categoryNamed? (name : String) : Option (Char → Bool) :=
  match name with
  | "any" => some fun _ => true
  | "assigned" => some Category.isAssigned
  | "ascii" => some fun c => c.toNat < 128
  | "cn" | "unassigned" => some fun c => !Category.isAssigned c
  | "c" | "other" =>
    some fun c => Category.anyHas Category.others c || !Category.isAssigned c
  | _ =>
    (categoryGroups.find? (·.names.contains name)).map fun group => Category.anyHas group.members

def identifierStart : List CodeRange := [
  ⟨0x1885, 0x1886⟩, ⟨0x2118, 0x2118⟩, ⟨0x212E, 0x212E⟩, ⟨0x309B, 0x309C⟩]

def identifierContinue : List CodeRange := [
  ⟨0xB7, 0xB7⟩, ⟨0x387, 0x387⟩, ⟨0x1369, 0x1371⟩, ⟨0x19DA, 0x19DA⟩]

/-- Marks that stay within an identifier only as long as the text is not normalized. -/
def notNormalized : List CodeRange := [
  ⟨0x37A, 0x37A⟩, ⟨0x309B, 0x309C⟩, ⟨0xFC5E, 0xFC63⟩, ⟨0xFDFA, 0xFDFB⟩, ⟨0xFE70, 0xFE70⟩,
  ⟨0xFE72, 0xFE72⟩, ⟨0xFE74, 0xFE74⟩, ⟨0xFE76, 0xFE76⟩, ⟨0xFE78, 0xFE78⟩, ⟨0xFE7A, 0xFE7A⟩,
  ⟨0xFE7C, 0xFE7C⟩, ⟨0xFE7E, 0xFE7E⟩]

/-- Letters that normalization turns into characters that cannot start an identifier. -/
def notNormalizedStart : List CodeRange := [
  ⟨0xE33, 0xE33⟩, ⟨0xEB3, 0xEB3⟩, ⟨0xFF9E, 0xFF9F⟩]

def isIdentifierStart (c : Char) : Bool :=
  covers identifierStart c.toNat ||
    Category.anyHas (.letterNumber :: Category.letters) c && c.toNat != 0x2E2F

def isIdentifierContinue (c : Char) : Bool :=
  isIdentifierStart c || covers identifierContinue c.toNat ||
    Category.anyHas [.nonspacingMark, .spacingMark, .decimalNumber, .connectorPunctuation] c

def isNormalizedContinue (c : Char) : Bool :=
  isIdentifierContinue c && !covers notNormalized c.toNat

def isNormalizedStart (c : Char) : Bool :=
  isIdentifierStart c && !covers notNormalized c.toNat && !covers notNormalizedStart c.toNat

def isGraphemeBase (c : Char) : Bool :=
  Category.isAssigned c && !isGraphemeExtend c &&
    !Category.anyHas (.lineSeparator :: .paragraphSeparator :: Category.others) c

def propertyNamed? (name : String) : Option (Char → Bool) :=
  match name with
  | "alpha" | "alphabetic" => some isAlphabetic
  | "lower" | "lowercase" => some isLowercase
  | "upper" | "uppercase" => some isUppercase
  | "wspace" | "whitespace" | "space" => some isWhiteSpace
  | "cased" => some isCased
  | "ci" | "caseignorable" => some isCaseIgnorable
  | "grext" | "graphemeextend" => some isGraphemeExtend
  | "grbase" | "graphemebase" => some isGraphemeBase
  | "di" | "defaultignorablecodepoint" => some fun c => covers defaultIgnorable c.toNat
  | "joinc" | "joincontrol" => some fun c => covers joinControl c.toNat
  | "ids" | "idstart" => some isIdentifierStart
  | "idc" | "idcontinue" => some isIdentifierContinue
  | "xids" | "xidstart" => some isNormalizedStart
  | "xidc" | "xidcontinue" => some isNormalizedContinue
  | _ => rangesNamed? namedProperties name

/-- A set named alone is a property, a category or a script, in this order. Three short names are
kept from the properties, for they mean categories. -/
def setNamed? (name : String) : Option (Char → Bool) :=
  let property := if ["cf", "sc", "lc"].contains name then none else propertyNamed? name
  property <|> categoryNamed? name <|> scriptNamed? name

/-- A set named by a property and a value. -/
def setValued? (property value : String) : Option (Char → Bool) :=
  match property with
  | "gc" | "generalcategory" => categoryNamed? value
  | "sc" | "script" => scriptNamed? value
  | "scx" | "scriptextensions" => scriptUseNamed? value
  | _ => none

/-- Characters of words: letters, marks, digits, connectors and joiners. -/
def isWordChar (c : Char) : Bool :=
  isAlphabetic c || covers joinControl c.toNat ||
    Category.anyHas (.decimalNumber :: .connectorPunctuation :: Category.marks) c

end Trackplan.Unicode
