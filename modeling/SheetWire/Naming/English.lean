import SheetWire.Naming.Inflection

/-!
# English inflection

The plural and the singular of English nouns. A word is looked up among the irregular and the
uncountable words first; otherwise the first rule whose ending it has replaces that ending. Rules
are tried from the most particular to the most general.
-/

namespace SheetWire.English

open Text

/-- What a rule asks of one character of an ending. -/
inductive Piece where
  | one (c : Char)
  | anyOf (set : List Char)
  | noneOf (set : List Char)
  | nonWord
  | nonAscii

/-- Long `ſ` counts as the letter it is a form of. -/
def foldLetter (c : Char) : Char :=
  if c.toNat = 0x17F then 's' else c

/-- Whether a character is as a piece asks. -/
def Piece.accepts : Piece → Char → Bool
  | .one d, c => foldLetter c == d
  | .anyOf set, c => set.contains (foldLetter c)
  | .noneOf set, c => !set.contains (foldLetter c)
  | .nonWord, c => !isWord c
  | .nonAscii, c => 128 ≤ (foldLetter c).toNat

/-- What must stand before the characters that a rule looks at. -/
inductive Edge where
  | anywhere
  | wordStart
  | textStart

/-- A run of characters that stays when a rule applies, and what must stand before it. -/
structure Stem where
  edge : Edge
  pieces : List Piece

/-- A rule replaces one of `endings` after one of `stems` by `added`. -/
structure Rule where
  stems : List Stem
  endings : List String
  added : String

/-- The pieces that accept just a text. -/
def letters (text : String) : List Piece :=
  text.toList.map .one

/-- Stems that are just letters. -/
def stems (texts : List String) : List Stem :=
  texts.map fun text => ⟨.anywhere, letters text⟩

/-- Stems of letters that begin a word. -/
def wordStems (texts : List String) : List Stem :=
  texts.map fun text => ⟨.wordStart, letters text⟩

/-- A stem made of pieces. -/
def stem (pieces : List Piece) : Stem :=
  ⟨.anywhere, pieces⟩

/-- Any stem, even none. -/
def anyStem : List Stem :=
  [stem []]

/-- The text before the characters that the pieces accept, given both in reverse. -/
def strip? : List Piece → List Char → Option (List Char)
  | [], text => some text
  | _ :: _, [] => none
  | piece :: pieces, c :: text => if piece.accepts c then strip? pieces text else none

/-- Whether the reversed text before a stem is as its edge asks. -/
def Edge.holds : Edge → List Char → Bool
  | .anywhere, _ => true
  | .textStart, before => before.isEmpty
  | .wordStart, before => match before with
    | [] => true
    | c :: _ => !isWord c

/-- Whether a reversed text ends in the stem. -/
def Stem.fits (s : Stem) (reversed : List Char) : Bool :=
  match strip? s.pieces.reverse reversed with
  | some before => s.edge.holds before
  | none => false

/-- The reversed text before the first ending that fits after one of the stems. -/
def Rule.stem? (rule : Rule) (reversed : List Char) : Option (List Char) :=
  rule.endings.findSome? fun ending =>
    (strip? (letters ending).reverse reversed).filter fun before =>
      rule.stems.any fun s => s.fits before

/-- A text in which a `$` and the character after it stand for nothing. -/
def dropPlaceholders : List Char → List Char
  | [] => []
  | ['$'] => []
  | '$' :: _ :: rest => dropPlaceholders rest
  | c :: rest => c :: dropPlaceholders rest

/-- The word after the first rule that applies to it; without one the word stays as it is. -/
def applyRules (rules : List Rule) (word : List Char) : List Char :=
  match rules.findSome? fun rule => (rule.stem? word.reverse).map fun before => (rule, before) with
  | some (rule, before) => dropPlaceholders (before.reverse ++ rule.added.toList)
  | none => word

/-- Nouns whose plural follows no rule, each with its plural. Of two singulars with one plural the
later is the singular of that plural. -/
def irregular : List (String × String) :=
  [("me", "us"), ("he", "they"), ("she", "they"), ("them", "them"), ("myself", "ourselves"),
    ("yourself", "yourselves"), ("itself", "themselves"), ("herself", "themselves"),
    ("himself", "themselves"), ("themself", "themselves"), ("is", "are"), ("was", "were"),
    ("has", "have"), ("this", "these"), ("that", "those"), ("my", "our"), ("its", "their"),
    ("his", "their"), ("her", "their"), ("echo", "echoes"), ("dingo", "dingoes"),
    ("volcano", "volcanoes"), ("tornado", "tornadoes"), ("torpedo", "torpedoes"),
    ("genus", "genera"), ("viscus", "viscera"), ("stigma", "stigmata"), ("stoma", "stomata"),
    ("dogma", "dogmata"), ("lemma", "lemmata"), ("schema", "schemata"),
    ("anathema", "anathemata"), ("ox", "oxen"), ("axe", "axes"), ("die", "dice"),
    ("yes", "yeses"), ("foot", "feet"), ("eave", "eaves"), ("goose", "geese"),
    ("tooth", "teeth"), ("quiz", "quizzes"), ("human", "humans"), ("proof", "proofs"),
    ("carve", "carves"), ("valve", "valves"), ("looey", "looies"), ("thief", "thieves"),
    ("groove", "grooves"), ("pickaxe", "pickaxes"), ("passerby", "passersby"),
    ("canvas", "canvases")]

/-- The one irregular word that has a singular but is no plural of it in lower case. -/
def singularOnly : List (String × String) :=
  [("we", "i")]

/-- Nouns with a single form. -/
def uncountable : List String :=
  ["adulthood", "advice", "agenda", "aid", "aircraft", "alcohol", "ammo", "analytics", "anime",
    "athletics", "audio", "bison", "blood", "bream", "buffalo", "butter", "carp", "cash",
    "chassis", "chess", "clothing", "cod", "commerce", "cooperation", "corps", "debris",
    "diabetes", "digestion", "elk", "energy", "equipment", "excretion", "expertise", "firmware",
    "flounder", "fun", "gallows", "garbage", "graffiti", "hardware", "headquarters", "health",
    "herpes", "highjinks", "homework", "housework", "information", "jeans", "justice", "kudos",
    "labour", "literature", "machinery", "mackerel", "mail", "media", "mews", "moose", "music",
    "mud", "manga", "news", "only", "personnel", "pike", "plankton", "pliers", "police",
    "pollution", "premises", "rain", "research", "rice", "salmon", "scissors", "series", "sewage",
    "shambles", "shrimp", "software", "staff", "swine", "tennis", "traffic", "transportation",
    "trout", "tuna", "wealth", "welfare", "whiting", "wildebeest", "wildlife", "you"]

/-- Endings of nouns with a single form. -/
def singleForm : Rule :=
  ⟨[stem [.one 'p', .one 'o', .one 'k', .anyOf ['e', 'é'], .one 'm', .one 'o', .one 'n'],
    stem [.noneOf ['a', 'e', 'i', 'o', 'u'], .one 'e', .one 's', .one 'e'],
    stem (letters "deer"), stem (letters "fish"), stem (letters "measles"),
    stem [.one 'o', .anyOf ['i', 'u'], .one 's'], stem (letters "pox"), stem (letters "sheep")],
    [""], ""⟩

/-- Nouns from Latin in `us` with a plural in `i`. -/
def latinMasculine : List Stem :=
  stems ["alumn", "syllab", "vir", "radi", "nucle", "fung", "cact", "stimul", "termin", "bacill",
    "foc", "uter", "loc", "strat"]

/-- Nouns from Latin in `a` with a plural in `ae`. -/
def latinFeminine : List Stem :=
  stems ["alumn", "alg", "vertebr"]

/-- Nouns from Latin in `um` with a plural in `a`. -/
def latinNeuter : List Stem :=
  stems ["agend", "addend", "millenni", "dat", "extrem", "bacteri", "desiderat", "strat",
    "candelabr", "errat", "ov", "symposi", "curricul", "automat", "quor"]

/-- Nouns from Greek in `on` with a plural in `a`. -/
def greekNeuter : List Stem :=
  stems ["apheli", "hyperbat", "periheli", "asyndet", "noumen", "phenomen", "criteri", "organ",
    "prolegomen", "hedr", "automat"]

/-- A noun in `emu` or `enu`. -/
def emuStem : Stem :=
  stem [.one 'e', .anyOf ['m', 'n'], .one 'u']

/-- A noun in `us` that is not from Latin. -/
def usStem : Stem :=
  stem [.noneOf ['a', 'o', 'u'], .one 'u', .one 's']

/-- A noun in `tlas` or `tmas`. -/
def tlasStem : Stem :=
  stem [.one 't', .anyOf ['l', 'm'], .one 'a', .one 's']

/-- The rules for the plural, the most particular first. -/
def pluralRules : List Rule :=
  [singleForm,
    ⟨[⟨.textStart, []⟩], ["thou"], "you"⟩,
    ⟨stems ["m"], ["an", "en"], "en"⟩,
    ⟨stems ["eaux"], [""], ""⟩,
    ⟨stems ["child"], ["ren", ""], "ren"⟩,
    ⟨stems ["pe"], ["rson", "ople"], "ople"⟩,
    ⟨wordStems ["titm", "m", "l"], ["ice", "ouse"], "ice"⟩,
    ⟨stems ["matr", "cod", "mur", "sil", "vert", "ind", "append"], ["ix", "ex"], "ices"⟩,
    ⟨stems ["x", "ch", "ss", "sh", "zz"], [""], "es"⟩,
    ⟨[stem [.noneOf ['c', 'h'], .anyOf ['i', 'e', 'o'], .anyOf ['l', 'n']]], ["ey"], "ies"⟩,
    ⟨[stem [.noneOf ['a', 'e', 'i', 'o', 'u', 'y']], stem (letters "qu")], ["y"], "ies"⟩,
    ⟨stems ["kni", "wi", "li"], ["fe"], "ves"⟩,
    ⟨stems ["ar", "l", "ea", "eo", "oa", "hoo"], ["f"], "ves"⟩,
    ⟨anyStem, ["sis"], "ses"⟩,
    ⟨greekNeuter, ["a", "on"], "a"⟩,
    ⟨latinNeuter, ["a", "um"], "a"⟩,
    ⟨stems ["her", "at", "gr"], ["o"], "oes"⟩,
    ⟨stems ["seraph", "cherub"], ["im", ""], "im"⟩,
    ⟨latinFeminine, ["a", "ae"], "ae"⟩,
    ⟨latinMasculine, ["us", "i"], "i"⟩,
    ⟨[stem [.noneOf ['l'], .one 'i', .one 'a', .one 's'],
      stem [.anyOf ['a', 'e', 'i', 'o', 'u'], .one 'l', .one 'a', .one 's'],
      stem [.anyOf ['e', 'j', 'z', 'r'], .one 'a', .one 's'],
      stem [.anyOf ['i', 'u'], .one 'a', .one 'm']], [""], ""⟩,
    ⟨[emuStem], ["s", ""], "s"⟩,
    ⟨[stem (letters "alias"), usStem, tlasStem, stem (letters "gas"), stem (letters "ris")],
      [""], "es"⟩,
    ⟨stems ["ax", "test"], ["is"], "es"⟩,
    ⟨[stem [.nonAscii]], [""], ""⟩,
    ⟨anyStem, ["s", ""], "s"⟩]

/-- The rules for the singular, the most particular first. -/
def singularRules : List Rule :=
  [singleForm,
    ⟨stems ["m"], ["en"], "an"⟩,
    ⟨stems ["eau"], ["x", ""], ""⟩,
    ⟨stems ["child"], ["ren"], ""⟩,
    ⟨stems ["pe"], ["rson", "ople"], "rson"⟩,
    ⟨stems ["matr", "append"], ["ices"], "ix"⟩,
    ⟨stems ["cod", "mur", "sil", "vert", "ind"], ["ices"], "ex"⟩,
    ⟨latinFeminine, ["ae"], "a"⟩,
    ⟨greekNeuter, ["a"], "on"⟩,
    ⟨latinNeuter, ["a"], "um"⟩,
    ⟨latinMasculine, ["us", "i"], "us"⟩,
    ⟨stems ["test"], ["is", "es"], "is"⟩,
    ⟨stems ["movie", "twelve", "abuse"] ++ [emuStem], ["s"], ""⟩,
    ⟨stems ["analy", "diagno", "parenthe", "progno", "synop", "the", "empha", "cri", "ne"],
      ["sis", "ses"], "sis"⟩,
    ⟨stems ["x", "ch", "ss", "sh", "zz", "tto", "go", "cho", "alias", "gas", "hero", "ato", "gro"]
      ++ [usStem, tlasStem, stem [.anyOf ['a', 'e', 'i', 'o', 'u'], .one 'r', .one 'i', .one 's']],
      ["es", ""], ""⟩,
    ⟨stems ["seraph", "cherub"], ["im"], ""⟩,
    ⟨wordStems ["titm", "m", "l"], ["ice"], "ouse"⟩,
    ⟨wordStems ["mon", "smil"], ["ies"], "ey"⟩,
    ⟨wordStems ["l", "neckt", "crosst", "hogt", "aunt", "t", "coll", "faer", "food", "gen", "goon",
      "group", "hipp", "junk", "vegg", "porkp", "p", "charl", "calor", "cut"], ["ies"], "ie"⟩,
    ⟨stems ["dg", "ss", "ois", "lk", "ok", "wn", "mb", "th", "ch", "ec", "oal", "is", "ck", "ix",
      "sser", "ts", "wb"], ["ies"], "ie"⟩,
    ⟨anyStem, ["ies"], "y"⟩,
    ⟨stems ["ar", "wol"] ++ [stem [.anyOf ['a', 'e'], .one 'l'],
      stem [.anyOf ['e', 'o'], .anyOf ['a', 'o']]], ["ves"], "f"⟩,
    ⟨stems ["wi", "kni", "afterli", "halfli", "highli", "lowli", "midli", "nonli", "nightli"] ++
      [stem [.nonWord, .one 'l', .one 'i'], ⟨.textStart, letters "li"⟩], ["ves"], "fe"⟩,
    ⟨stems ["ss"], [""], ""⟩,
    ⟨anyStem, ["s"], ""⟩]

/-- A word by its rules, unless it has a single form. -/
def regular (rules : List Rule) (word : String) : String :=
  if word = "" ∨ uncountable.contains word then word
  else String.ofList (applyRules rules word.toList)

/-- The plural of a word in lower case. A plural stays as it is. -/
def plural (word : String) : String :=
  if (irregular ++ singularOnly.map Prod.swap).any fun entry => entry.2 == word then word
  else match irregular.lookup word with
    | some form => form
    | none => regular pluralRules word

/-- The singular of a word in lower case. A singular stays as it is. -/
def singular (word : String) : String :=
  if irregular.any fun entry => entry.1 == word then word
  else match (irregular.reverse.map Prod.swap ++ singularOnly).lookup word with
    | some form => form
    | none => regular singularRules word

/-- English as an inflector. -/
def inflector : Inflector :=
  ⟨plural, singular⟩

end SheetWire.English
