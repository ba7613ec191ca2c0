import Highlighter.Unicode.Age
import Highlighter.Unicode.Break

/-!
# Character sets by name

A pattern may name a set of characters by a binary property, a general
category or a script, or by a property and one of its values: a category, a
script, a version of the standard or a break property. Names are compared
without case, spaces, dashes and underscores, and a leading `is` is dropped.

A bare name is looked up as a property first, then as a category, then as a
script. The tables have no name in common, so the order only says where to
stop.

## Main definitions

* `CharSet.named?`: the set with a bare name.
* `CharSet.ofProperty?`: the set of a property value.
-/

namespace Highlighter

namespace CharSet

/-- The general categories and their groups with their names. -/
def categoryTable : List (List String × CharSet) := [
  (["any"], all),
  (["ascii"], range 0 0x7F),
  (["assigned"], Category.assigned),
  (["cn", "unassigned"], Category.unassigned),
  (["c", "other"], Category.other),
  (["cc", "control", "cntrl"], Category.controlMembers),
  (["cf", "format"], Category.formatMembers),
  (["co", "privateuse"], Category.privateUseMembers),
  (["l", "letter"], Category.unionOf Category.letters),
  (["lc", "casedletter"],
    Category.unionOf [.uppercaseLetter, .lowercaseLetter, .titlecaseLetter]),
  (["ll", "lowercaseletter"], Category.lowercaseLetterMembers),
  (["lm", "modifierletter"], Category.modifierLetterMembers),
  (["lo", "otherletter"], Category.otherLetterMembers),
  (["lt", "titlecaseletter"], Category.titlecaseLetterMembers),
  (["lu", "uppercaseletter"], Category.uppercaseLetterMembers),
  (["m", "mark", "combiningmark"], Category.unionOf Category.marks),
  (["mc", "spacingmark"], Category.spacingMarkMembers),
  (["me", "enclosingmark"], Category.enclosingMarkMembers),
  (["mn", "nonspacingmark"], Category.nonspacingMarkMembers),
  (["n", "number"], Category.unionOf Category.numbers),
  (["nd", "decimalnumber", "digit"], Category.decimalNumberMembers),
  (["nl", "letternumber"], Category.letterNumberMembers),
  (["no", "othernumber"], Category.otherNumberMembers),
  (["p", "punctuation", "punct"], Category.unionOf Category.punctuation),
  (["pc", "connectorpunctuation"], Category.connectorPunctuationMembers),
  (["pd", "dashpunctuation"], Category.dashPunctuationMembers),
  (["pe", "closepunctuation"], Category.closePunctuationMembers),
  (["pf", "finalpunctuation"], Category.finalPunctuationMembers),
  (["pi", "initialpunctuation"], Category.initialPunctuationMembers),
  (["po", "otherpunctuation"], Category.otherPunctuationMembers),
  (["ps", "openpunctuation"], Category.openPunctuationMembers),
  (["s", "symbol"], Category.unionOf Category.symbols),
  (["sc", "currencysymbol"], Category.currencySymbolMembers),
  (["sk", "modifiersymbol"], Category.modifierSymbolMembers),
  (["sm", "mathsymbol"], Category.mathSymbolMembers),
  (["so", "othersymbol"], Category.otherSymbolMembers),
  (["z", "separator"], Category.unionOf Category.separators),
  (["zl", "lineseparator"], Category.lineSeparatorMembers),
  (["zp", "paragraphseparator"], Category.paragraphSeparatorMembers),
  (["zs", "spaceseparator"], Category.spaceSeparatorMembers)]

/-- The general category or group of categories with a given name. -/
def category? (name : String) : Option CharSet :=
  (categoryTable.find? (·.1.contains name)).map (·.2)

/-- A name without a leading `is`. -/
def dropIs : List Char → List Char
  | 'i' :: 's' :: cs => cs
  | 'I' :: 's' :: cs => cs
  | 'i' :: 'S' :: cs => cs
  | 'I' :: 'S' :: cs => cs
  | cs => cs

/-- The form of a name in which names are compared. The category `c` cannot be
    written with a leading `is`. -/
def plainName (name : List Char) : String :=
  let short := dropIs name
  let plain := (short.filter fun c => c.toNat < 128 && c != ' ' && c != '_' && c != '-').map
    Char.toLower
  if short.length < name.length && plain == ['c'] then "isc" else String.ofList plain

/-- The set with a bare name. -/
def named? (name : List Char) : Option CharSet :=
  let name := plainName name
  (Property.find? name).or ((category? name).or (Script.members? name))

/-- The set of the characters for which a property has a value. -/
def ofProperty? (property value : List Char) : Option CharSet :=
  let value := plainName value
  match plainName property with
  | "gc" | "generalcategory" => category? value
  | "sc" | "script" => Script.members? value
  | "scx" | "scriptextensions" => Script.extended? value
  | "age" => Age.members? value
  | "gcb" | "graphemeclusterbreak" => Break.cluster? value
  | "wb" | "wordbreak" => Break.word? value
  | "sb" | "sentencebreak" => Break.sentence? value
  | _ => none

end CharSet

end Highlighter
