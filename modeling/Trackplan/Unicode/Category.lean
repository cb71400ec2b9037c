import Trackplan.Unicode.Category.Letter
import Trackplan.Unicode.Category.Mark
import Trackplan.Unicode.Category.Number
import Trackplan.Unicode.Category.Punctuation
import Trackplan.Unicode.Category.Separator
import Trackplan.Unicode.Category.Symbol

/-! General categories of characters. The ranges of every assigned category are data; a
character in none of them is unassigned. -/
namespace Trackplan.Unicode

inductive Category
  | uppercaseLetter | lowercaseLetter | titlecaseLetter | modifierLetter | otherLetter
  | nonspacingMark | spacingMark | enclosingMark
  | decimalNumber | letterNumber | otherNumber
  | connectorPunctuation | dashPunctuation | openPunctuation | closePunctuation
  | initialPunctuation | finalPunctuation | otherPunctuation
  | mathSymbol | currencySymbol | modifierSymbol | otherSymbol
  | spaceSeparator | lineSeparator | paragraphSeparator
  | control | format | surrogate | privateUse
  deriving DecidableEq, Repr

namespace Category

def ranges : Category → List CodeRange
  | .uppercaseLetter => Table.uppercaseLetter
  | .lowercaseLetter => Table.lowercaseLetter
  | .titlecaseLetter => Table.titlecaseLetter
  | .modifierLetter => Table.modifierLetter
  | .otherLetter => Table.otherLetter
  | .nonspacingMark => Table.nonspacingMark
  | .spacingMark => Table.spacingMark
  | .enclosingMark => Table.enclosingMark
  | .decimalNumber => Table.decimalNumber
  | .letterNumber => Table.letterNumber
  | .otherNumber => Table.otherNumber
  | .connectorPunctuation => Table.connectorPunctuation
  | .dashPunctuation => Table.dashPunctuation
  | .openPunctuation => Table.openPunctuation
  | .closePunctuation => Table.closePunctuation
  | .initialPunctuation => Table.initialPunctuation
  | .finalPunctuation => Table.finalPunctuation
  | .otherPunctuation => Table.otherPunctuation
  | .mathSymbol => Table.mathSymbol
  | .currencySymbol => Table.currencySymbol
  | .modifierSymbol => Table.modifierSymbol
  | .otherSymbol => Table.otherSymbol
  | .spaceSeparator => Table.spaceSeparator
  | .lineSeparator => Table.lineSeparator
  | .paragraphSeparator => Table.paragraphSeparator
  | .control => Table.control
  | .format => Table.format
  | .surrogate => Table.surrogate
  | .privateUse => Table.privateUse

def has (category : Category) (c : Char) : Bool := covers category.ranges c.toNat

def letters : List Category :=
  [.uppercaseLetter, .lowercaseLetter, .titlecaseLetter, .modifierLetter, .otherLetter]

def casedLetters : List Category := [.uppercaseLetter, .lowercaseLetter, .titlecaseLetter]

def marks : List Category := [.nonspacingMark, .spacingMark, .enclosingMark]

def numbers : List Category := [.decimalNumber, .letterNumber, .otherNumber]

def punctuation : List Category :=
  [.connectorPunctuation, .dashPunctuation, .openPunctuation, .closePunctuation,
    .initialPunctuation, .finalPunctuation, .otherPunctuation]

def symbols : List Category := [.mathSymbol, .currencySymbol, .modifierSymbol, .otherSymbol]

def separators : List Category := [.spaceSeparator, .lineSeparator, .paragraphSeparator]

/-- The controls, formats, surrogates and private characters; the unassigned are in no list. -/
def others : List Category := [.control, .format, .surrogate, .privateUse]

def anyHas (categories : List Category) (c : Char) : Bool := categories.any (·.has c)

def isAssigned (c : Char) : Bool :=
  anyHas (letters ++ marks ++ numbers ++ punctuation ++ symbols ++ separators ++ others) c

end Category

end Trackplan.Unicode
