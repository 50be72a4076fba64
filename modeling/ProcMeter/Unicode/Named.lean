import ProcMeter.Unicode.Age
import ProcMeter.Unicode.Boundary
import ProcMeter.Unicode.Category
import ProcMeter.Unicode.CharSet
import ProcMeter.Unicode.Property
import ProcMeter.Unicode.Script
import ProcMeter.Unicode.ScriptExtensions

/-! Sets of characters by the names of their properties. Names are compared
without case, spaces, hyphens, underscores and a leading `is`. A single name is
looked for among the binary properties, then the general categories, then the
scripts. -/
namespace ProcMeter.Unicode

/-- A name in the form in which the tables write it. Characters that are not ASCII
do not count. `isc`, the name of no set, is not taken for `c`. -/
def plainName (name : String) : String :=
  let plain (cs : List Char) : List Char :=
    (cs.filter fun c => c.toNat < 0x80 && c != ' ' && c != '_' && c != '-').map Char.toLower
  match name.toList with
  | i :: s :: rest =>
    if (i == 'i' || i == 'I') && (s == 's' || s == 'S') then
      if plain rest == ['c'] then "isc" else String.ofList (plain rest)
    else String.ofList (plain name.toList)
  | cs => String.ofList (plain cs)

/-- The set with a name in a table. -/
def tableSet? (table : List (List String × List String)) (name : String) : Option CharSet :=
  (table.find? fun e => e.1.contains name).map fun e => .ofTable e.2

/-- Categories that are made of others. -/
def compoundCategories : List (List String × List String) :=
  [(["l", "letter"], ["lu", "ll", "lt", "lm", "lo"]),
    (["lc", "casedletter"], ["lu", "ll", "lt"]),
    (["m", "mark", "combiningmark"], ["mn", "mc", "me"]),
    (["n", "number"], ["nd", "nl", "no"]),
    (["p", "punctuation", "punct"], ["pc", "pd", "ps", "pe", "pi", "pf", "po"]),
    (["s", "symbol"], ["sm", "sc", "sk", "so"]),
    (["z", "separator"], ["zs", "zl", "zp"])]

/-- All characters that have been assigned, private ones too. -/
def assigned : CharSet := .unions (categories.map fun e => .ofTable e.2)

def unassigned : CharSet := (assigned.union (.range 0xD800 0xDFFF)).complement CharSet.last

/-- A general category, by a plain name. -/
def category? (name : String) : Option CharSet :=
  match tableSet? categories name with
  | some s => some s
  | none =>
    match compoundCategories.find? fun e => e.1.contains name with
    | some e => some (.unions (e.2.filterMap (tableSet? categories)))
    | none =>
      if name == "any" then some (.range 0 CharSet.last)
      else if name == "ascii" then some (.range 0 0x7F)
      else if name == "assigned" then some assigned
      else if name == "cn" || name == "unassigned" then some unassigned
      else if name == "c" || name == "other" then
        some (.unions (unassigned :: ["cc", "cf", "co"].filterMap (tableSet? categories)))
      else none

/-- How a set follows from sets in the tables. -/
structure Recipe where
  plus : List String
  plusRanges : List String
  minus : List String
  minusRanges : List String

/-- A category or a binary property of the tables. -/
def basic? (name : String) : Option CharSet :=
  (tableSet? categories name).or (tableSet? properties name)

def Recipe.set (r : Recipe) : CharSet :=
  let plus := CharSet.unions (.ofTable r.plusRanges :: r.plus.filterMap basic?)
  let minus := CharSet.unions (.ofTable r.minusRanges :: r.minus.filterMap basic?)
  plus.diff minus

def letters : List String := ["lu", "ll", "lt", "lm", "lo", "nl"]

def alphabetic : List String := letters ++ ["olower", "oupper", "oalpha"]

def identifierStart : List String := letters ++ ["oids"]

def identifierPart : List String := identifierStart ++ ["mn", "mc", "nd", "pc", "oidc"]

/-- The binary properties that follow from others. -/
def recipes : List (List String × Recipe) :=
  [(["lower", "lowercase"], ⟨["ll", "olower"], [], [], []⟩),
    (["upper", "uppercase"], ⟨["lu", "oupper"], [], [], []⟩),
    (["cased"], ⟨["ll", "olower", "lu", "oupper", "lt"], [], [], []⟩),
    (["alpha", "alphabetic"], ⟨alphabetic, [], [], []⟩),
    (["math"], ⟨["sm", "omath"], [], [], []⟩),
    (["grext", "graphemeextend"], ⟨["me", "mn", "ogrext"], [], [], []⟩),
    (["grbase", "graphemebase"],
      ⟨letters ++ ["mc", "nd", "no", "pc", "pd", "ps", "pe", "pi", "pf", "po", "sm", "sc", "sk",
        "so", "zs"], [], ["ogrext"], []⟩),
    (["ids", "idstart"], ⟨identifierStart, [], ["patsyn", "patws"], []⟩),
    (["idc", "idcontinue"], ⟨identifierPart, [], ["patsyn", "patws"], []⟩),
    (["xids", "xidstart"],
      ⟨identifierStart, [], ["patsyn", "patws"],
        ["37A E33 EB3 309B-309C FC5E-FC63 FDFA-FDFB FE70 FE72 FE74 FE76 FE78 FE7A FE7C FE7E",
          "FF9E-FF9F"]⟩),
    (["xidc", "xidcontinue"],
      ⟨identifierPart, [], ["patsyn", "patws"],
        ["37A 309B-309C FC5E-FC63 FDFA-FDFB FE70 FE72 FE74 FE76 FE78 FE7A FE7C FE7E"]⟩),
    (["ci", "caseignorable"],
      ⟨["mn", "me", "cf", "lm", "sk"],
        ["27 2E 3A B7 387 55F 5F4 2018-2019 2024 2027 FE13 FE52 FE55 FF07 FF0E FF1A"], [], []⟩),
    (["cwcm", "changeswhencasemapped"], ⟨["cwl", "cwu", "cwt"], [], [], []⟩),
    (["di", "defaultignorablecodepoint"],
      ⟨["odi", "cf", "vs"], [], ["wspace", "pcm"], ["FFF9-FFFB 13430-1343F"]⟩)]

/-- A binary property, by a plain name. -/
def property? (name : String) : Option CharSet :=
  match tableSet? properties name with
  | some s => some s
  | none => (recipes.find? fun e => e.1.contains name).map fun e => e.2.set

/-- The characters of words: letters, marks, decimal digits, connectors, joiners. -/
def wordChars : CharSet :=
  (Recipe.mk (alphabetic ++ ["mn", "mc", "me", "nd", "pc", "joinc"]) [] [] []).set

def decimalDigits : CharSet := (tableSet? categories "nd").getD .empty

def whiteSpace : CharSet := (tableSet? properties "wspace").getD .empty

/-- Letters in the wide sense: characters with the property Alphabetic. -/
def letterChars : CharSet := (Recipe.mk alphabetic [] [] []).set

/-- Numbers of any kind. -/
def numberChars : CharSet := (category? "n").getD .empty

/-- The set of a single name. -/
def named? (name : String) : Option CharSet :=
  let name := plainName name
  let other := (category? name).or (tableSet? scripts name)
  if name == "cf" || name == "sc" || name == "lc" then other else (property? name).or other

/-- Hangul syllables of two parts, and those of three. -/
def hangulClass? (name : String) : Option CharSet :=
  let blocks := (List.range 399).map fun i => 0xAC00 + 28 * i
  if name == "lv" then some ⟨blocks.map fun n => (n, n)⟩
  else if name == "lvt" then some ⟨blocks.map fun n => (n + 1, n + 27)⟩
  else none

/-- The tables of the versions up to and with the one of this name. -/
def agesUpTo? (name : String) : List (List String × List String) → Option (List CharSet)
  | [] => none
  | e :: rest =>
    if e.1.contains name then some [.ofTable e.2]
    else (agesUpTo? name rest).map fun ss => .ofTable e.2 :: ss

/-- The set of a property and one of its values. -/
def valued? (property value : String) : Option CharSet :=
  let property := plainName property
  let value := plainName value
  if property == "gc" || property == "generalcategory" then category? value
  else if property == "sc" || property == "script" then tableSet? scripts value
  else if property == "scx" || property == "scriptextensions" then tableSet? scriptExtensions value
  else if property == "age" then (agesUpTo? value ages).map CharSet.unions
  else if property == "gcb" || property == "graphemeclusterbreak" then
    (tableSet? graphemeClasses value).or (hangulClass? value)
  else if property == "wb" || property == "wordbreak" then tableSet? wordClasses value
  else if property == "sb" || property == "sentencebreak" then tableSet? sentenceClasses value
  else none

end ProcMeter.Unicode
