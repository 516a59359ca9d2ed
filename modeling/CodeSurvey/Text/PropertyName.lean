/-
Sets of characters by name.

A property is named loosely: case, blanks, hyphens, underscores and characters beyond ASCII do not count, and a leading
`is` may stand before the name. `named?` takes one name, of a property that holds or not, a category or a script;
`namedValue?` takes the name of a property with several values, and a value. A name that is not known gives nothing.
-/
import CodeSurvey.Text.Age
import CodeSurvey.Text.Segmentation

namespace CodeSurvey.Text

/-- the characters of a name that count, in lower case -/
def countedChars (cs : List Char) : List Char :=
  (cs.filter fun c => isAscii c && c != ' ' && c != '-' && c != '_').map lowerAscii

/-- the name without what does not count; `isc` is a name of its own, not `c` with a leading `is` -/
def looseName (name : String) : String :=
  match name.toList with
  | i :: s :: rest =>
    if lowerAscii i == 'i' && lowerAscii s == 's' then
      let counted := countedChars rest
      if counted == ['c'] then "isc" else String.ofList counted
    else String.ofList (countedChars (i :: s :: rest))
  | cs => String.ofList (countedChars cs)

/-- categories and groups of categories by name -/
def categorySets : List (List String × List Category) := [
  (["lu", "uppercaseletter"], [.uppercaseLetter]), (["ll", "lowercaseletter"], [.lowercaseLetter]),
  (["lt", "titlecaseletter"], [.titlecaseLetter]), (["lm", "modifierletter"], [.modifierLetter]),
  (["lo", "otherletter"], [.otherLetter]), (["l", "letter"], Category.letters),
  (["lc", "casedletter"], [.uppercaseLetter, .lowercaseLetter, .titlecaseLetter]),
  (["mn", "nonspacingmark"], [.nonspacingMark]), (["mc", "spacingmark"], [.spacingMark]),
  (["me", "enclosingmark"], [.enclosingMark]), (["m", "mark", "combiningmark"], Category.marks),
  (["nd", "decimalnumber", "digit"], [.decimalNumber]), (["nl", "letternumber"], [.letterNumber]),
  (["no", "othernumber"], [.otherNumber]), (["n", "number"], Category.numbers),
  (["pc", "connectorpunctuation"], [.connectorPunctuation]), (["pd", "dashpunctuation"], [.dashPunctuation]),
  (["ps", "openpunctuation"], [.openPunctuation]), (["pe", "closepunctuation"], [.closePunctuation]),
  (["pi", "initialpunctuation"], [.initialPunctuation]), (["pf", "finalpunctuation"], [.finalPunctuation]),
  (["po", "otherpunctuation"], [.otherPunctuation]), (["p", "punctuation", "punct"], Category.punctuation),
  (["sm", "mathsymbol"], [.mathSymbol]), (["sc", "currencysymbol"], [.currencySymbol]),
  (["sk", "modifiersymbol"], [.modifierSymbol]), (["so", "othersymbol"], [.otherSymbol]),
  (["s", "symbol"], Category.symbols), (["zs", "spaceseparator"], [.spaceSeparator]),
  (["zl", "lineseparator"], [.lineSeparator]), (["zp", "paragraphseparator"], [.paragraphSeparator]),
  (["z", "separator"], Category.separators), (["cc", "control", "cntrl"], [.control]), (["cf", "format"], [.format]),
  (["co", "privateuse"], [.privateUse])]

/-- the set of a category, a group of categories, or one of the sets that unassigned characters delimit -/
def namedCategory? (loose : String) : Option CharSet :=
  match loose with
  | "any" => some .all
  | "ascii" => some (.ofRanges [(0, 127)])
  | "assigned" => some Category.assigned
  | "cn" | "unassigned" => some Category.unassigned
  | "c" | "other" => some (Category.unassigned.union (Category.charsOf Category.others))
  | _ => (categorySets.find? fun c => c.1.contains loose).map fun c => Category.charsOf c.2

/-- the set of a property given by one name -/
def named? (name : String) : Option CharSet :=
  let loose := looseName name
  (propertyChars? loose).or ((namedCategory? loose).or (scriptChars? loose))

/-- the set of a property given by its kind and value -/
def namedValue? (kind value : String) : Option CharSet :=
  let value := looseName value
  match looseName kind with
  | "gc" | "generalcategory" => namedCategory? value
  | "sc" | "script" => scriptChars? value
  | "scx" | "scriptextensions" => scriptUse? value
  | "age" => agedChars? value
  | "gcb" | "graphemeclusterbreak" => Segmentation.find? Segmentation.graphemes value
  | "wb" | "wordbreak" => Segmentation.find? Segmentation.words value
  | "sb" | "sentencebreak" => Segmentation.find? Segmentation.sentences value
  | _ => none

end CodeSurvey.Text
