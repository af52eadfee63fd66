import ProcessTitle.Unicode.Category
import ProcessTitle.Unicode.Script

/-!
# Character properties by name
-/

namespace ProcessTitle

namespace Unicode

inductive Property where
  | any
  | ascii
  | assigned
  | categories (cs : List GeneralCategory)
  | script (index : Nat)
deriving Repr, Inhabited

/-- A name as lookups compare it: in lowercase, without spaces, underscores and hyphens. -/
def canonicalName (name : String) : String :=
  String.ofList ((name.toList.filter fun c => c != ' ' && c != '_' && c != '-').map Char.toLower)

/-- The long names of the general categories and their classes, with the code each stands
for. -/
def categoryAliases : List (String × String) :=
  [("other", "C"), ("control", "Cc"), ("cntrl", "Cc"), ("format", "Cf"), ("unassigned", "Cn"),
   ("privateuse", "Co"), ("surrogate", "Cs"), ("letter", "L"), ("casedletter", "LC"),
   ("lowercaseletter", "Ll"), ("modifierletter", "Lm"), ("otherletter", "Lo"),
   ("titlecaseletter", "Lt"), ("uppercaseletter", "Lu"), ("mark", "M"), ("combiningmark", "M"),
   ("spacingmark", "Mc"), ("enclosingmark", "Me"), ("nonspacingmark", "Mn"), ("number", "N"),
   ("decimalnumber", "Nd"), ("digit", "Nd"), ("letternumber", "Nl"), ("othernumber", "No"),
   ("punctuation", "P"), ("punct", "P"), ("connectorpunctuation", "Pc"),
   ("dashpunctuation", "Pd"), ("closepunctuation", "Pe"), ("finalpunctuation", "Pf"),
   ("initialpunctuation", "Pi"), ("otherpunctuation", "Po"), ("openpunctuation", "Ps"),
   ("symbol", "S"), ("currencysymbol", "Sc"), ("modifiersymbol", "Sk"), ("mathsymbol", "Sm"),
   ("othersymbol", "So"), ("separator", "Z"), ("lineseparator", "Zl"),
   ("paragraphseparator", "Zp"), ("spaceseparator", "Zs")]

/-- The categories a code names, given in lowercase: a major class by its letter, the cased
letters by `lc`, or one category by its two letters. -/
def categoriesOfCode (code : String) : Option (List GeneralCategory) :=
  match code.toList with
  | [m] =>
    let cs := GeneralCategory.all.filter fun g => g.major.toLower == m
    if cs.isEmpty then none else some cs
  | ['l', 'c'] => some [.uppercaseLetter, .lowercaseLetter, .titlecaseLetter]
  | _ =>
    match GeneralCategory.all.find? fun g => g.code.toLower == code with
    | some g => some [g]
    | none => none

def Property.named (name : String) : Option Property :=
  let key := canonicalName name
  if key == "any" then some .any
  else if key == "ascii" then some .ascii
  else if key == "assigned" then some .assigned
  else match categoriesOfCode key with
    | some cs => some (.categories cs)
    | none =>
      match scriptNames.findIdx? fun s => canonicalName s == key with
      | some i => some (.script i)
      | none =>
        match categoryAliases.lookup key with
        | some code => (categoriesOfCode code.toLower).map .categories
        | none => none

def Property.holds : Property → Nat → Bool
  | .any, _ => true
  | .ascii, cp => cp < 128
  | .assigned, cp => GeneralCategory.of cp != .unassigned
  | .categories cs, cp => cs.contains (GeneralCategory.of cp)
  | .script i, cp => scriptOf cp == some i

end Unicode

end ProcessTitle
