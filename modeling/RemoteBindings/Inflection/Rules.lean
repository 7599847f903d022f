import RemoteBindings.Inflection.Pattern

/-!
# Rules of the English plural

`rules` pairs endings with their replacements, in the order in which they are tried; the last rule
adds an s and fits every word. `irregulars` lists words that no ending decides, and `uncountables`
those without a plural.
-/

namespace RemoteBindings.Inflection

/-- A piece of a replacement: letters, a numbered part of what was found, or all of it. -/
inductive Piece where
  | letters (cs : List Char)
  | part (n : Nat)
  | found
deriving Repr, DecidableEq

structure Rule where
  pattern : Pattern
  replacement : List Piece

/-- Letters that end a word. -/
def ending (s : String) : Pattern := .seq (.letters s.toList) .finish

def anyOf : List String → Pattern
  | [] => .letters []
  | [s] => .letters s.toList
  | s :: t :: rest => .alt (.letters s.toList) (anyOf (t :: rest))

def inOrder : List Pattern → Pattern
  | [] => .letters []
  | [p] => p
  | p :: q :: rest => .seq p (inOrder (q :: rest))

def unchanged (p : Pattern) : Rule := ⟨p, [.found]⟩

/-- One of some stems, kept, then one of some endings, replaced by letters. -/
def stems (kept : List String) (dropped : List String) (added : String) : Rule :=
  ⟨inOrder [.part 1 (anyOf kept), anyOf dropped, .finish], [.part 1, .letters added.toList]⟩

def oneOf (s : String) : Pattern := .oneOf s.toList

def noneOf (s : String) : Pattern := .noneOf s.toList

def lettersOf (s : String) : Pattern := .letters s.toList

def rules : List Rule :=
  [unchanged (ending "sheep"),
   unchanged (ending "pox"),
   unchanged (inOrder [lettersOf "o", oneOf "iu", ending "s"]),
   unchanged (ending "measles"),
   unchanged (ending "fish"),
   unchanged (ending "deer"),
   unchanged (inOrder [noneOf "aeiou", ending "ese"]),
   unchanged (inOrder [lettersOf "pok", oneOf "eé", ending "mon"]),
   ⟨inOrder [.start, ending "thou"], [.letters "you".toList]⟩,
   ⟨inOrder [lettersOf "m", oneOf "ae", ending "n"], [.letters "men".toList]⟩,
   unchanged (ending "eaux"),
   ⟨inOrder [.part 1 (lettersOf "child"), .optional (lettersOf "ren"), .finish],
    [.part 1, .letters "ren".toList]⟩,
   stems ["pe"] ["rson", "ople"] "ople",
   ⟨inOrder [.wordStart,
      .part 1 (.alt (inOrder [.optional (lettersOf "tit"), lettersOf "m"]) (lettersOf "l")),
      anyOf ["ice", "ouse"], .finish],
    [.part 1, .letters "ice".toList]⟩,
   stems ["matr", "cod", "mur", "sil", "vert", "ind", "append"] ["ix", "ex"] "ices",
   stems ["x", "ch", "ss", "sh", "zz"] [""] "es",
   ⟨inOrder [.part 1 (inOrder [noneOf "ch", oneOf "ieo", oneOf "ln"]), ending "ey"],
    [.part 1, .letters "ies".toList]⟩,
   ⟨inOrder [.part 1 (.alt (noneOf "aeiouy") (lettersOf "qu")), ending "y"],
    [.part 1, .letters "ies".toList]⟩,
   ⟨inOrder [.alt (inOrder [.part 1 (anyOf ["kni", "wi", "li"]), lettersOf "fe"])
      (inOrder [.part 2 (anyOf ["ar", "l", "ea", "eo", "oa", "hoo"]), lettersOf "f"]), .finish],
    [.part 1, .part 2, .letters "ves".toList]⟩,
   ⟨ending "sis", [.letters "ses".toList]⟩,
   stems ["apheli", "hyperbat", "periheli", "asyndet", "noumen", "phenomen", "criteri", "organ",
     "prolegomen", "hedr", "automat"] ["a", "on"] "a",
   stems ["agend", "addend", "millenni", "dat", "extrem", "bacteri", "desiderat", "strat",
     "candelabr", "errat", "ov", "symposi", "curricul", "automat", "quor"] ["a", "um"] "a",
   stems ["her", "at", "gr"] ["o"] "oes",
   ⟨inOrder [.part 1 (anyOf ["seraph", "cherub"]), .optional (lettersOf "im"), .finish],
    [.part 1, .letters "im".toList]⟩,
   stems ["alumn", "alg", "vertebr"] ["a", "ae"] "ae",
   stems ["alumn", "syllab", "vir", "radi", "nucle", "fung", "cact", "stimul", "termin", "bacill",
     "foc", "uter", "loc", "strat"] ["us", "i"] "i",
   ⟨inOrder [.part 1 (.alt (.seq (noneOf "l") (lettersOf "ias"))
      (.alt (.seq (oneOf "aeiou") (lettersOf "las"))
        (.alt (.seq (oneOf "ejzr") (lettersOf "as")) (.seq (oneOf "iu") (lettersOf "am"))))),
      .finish],
    [.part 1]⟩,
   ⟨inOrder [.part 1 (inOrder [lettersOf "e", oneOf "mn", lettersOf "u"]),
      .optional (lettersOf "s"), .finish],
    [.part 1, .letters "s".toList]⟩,
   ⟨inOrder [.part 1 (.alt (lettersOf "alias") (.alt (.seq (noneOf "aou") (lettersOf "us"))
      (.alt (inOrder [lettersOf "t", oneOf "lm", lettersOf "as"]) (anyOf ["gas", "ris"])))),
      .finish],
    [.part 1, .letters "es".toList]⟩,
   stems ["ax", "test"] ["is"] "es",
   ⟨inOrder [.part 1 (.seq (noneOf "aeiou") (lettersOf "ese")), .finish], [.part 1]⟩,
   unchanged (.seq .beyondAscii .finish),
   ⟨.seq (.optional (lettersOf "s")) .finish, [.letters "s".toList]⟩]

/-- Words with a plural of their own. -/
def irregulars : List (String × String) :=
  [("i", "we"), ("me", "us"), ("he", "they"), ("she", "they"), ("them", "them"),
   ("myself", "ourselves"), ("yourself", "yourselves"), ("itself", "themselves"),
   ("herself", "themselves"), ("himself", "themselves"), ("themself", "themselves"),
   ("is", "are"), ("was", "were"), ("has", "have"), ("this", "these"), ("that", "those"),
   ("my", "our"), ("its", "their"), ("his", "their"), ("her", "their"), ("echo", "echoes"),
   ("dingo", "dingoes"), ("volcano", "volcanoes"), ("tornado", "tornadoes"),
   ("torpedo", "torpedoes"), ("genus", "genera"), ("viscus", "viscera"), ("stigma", "stigmata"),
   ("stoma", "stomata"), ("dogma", "dogmata"), ("lemma", "lemmata"), ("schema", "schemata"),
   ("anathema", "anathemata"), ("ox", "oxen"), ("axe", "axes"), ("die", "dice"), ("yes", "yeses"),
   ("foot", "feet"), ("eave", "eaves"), ("goose", "geese"), ("tooth", "teeth"), ("quiz", "quizzes"),
   ("human", "humans"), ("proof", "proofs"), ("carve", "carves"), ("valve", "valves"),
   ("looey", "looies"), ("thief", "thieves"), ("groove", "grooves"), ("pickaxe", "pickaxes"),
   ("passerby", "passersby"), ("canvas", "canvases")]

def uncountables : List String :=
  ["adulthood", "advice", "agenda", "aid", "aircraft", "alcohol", "ammo", "analytics", "anime",
   "athletics", "audio", "bison", "blood", "bream", "buffalo", "butter", "carp", "cash", "chassis",
   "chess", "clothing", "cod", "commerce", "cooperation", "corps", "debris", "diabetes",
   "digestion", "elk", "energy", "equipment", "excretion", "expertise", "firmware", "flounder",
   "fun", "gallows", "garbage", "graffiti", "hardware", "headquarters", "health", "herpes",
   "highjinks", "homework", "housework", "information", "jeans", "justice", "kudos", "labour",
   "literature", "machinery", "mackerel", "mail", "media", "mews", "moose", "music", "mud",
   "manga", "news", "only", "personnel", "pike", "plankton", "pliers", "police", "pollution",
   "premises", "rain", "research", "rice", "salmon", "scissors", "series", "sewage", "shambles",
   "shrimp", "software", "staff", "swine", "tennis", "traffic", "transportation", "trout", "tuna",
   "wealth", "welfare", "whiting", "wildebeest", "wildlife", "you"]

end RemoteBindings.Inflection
