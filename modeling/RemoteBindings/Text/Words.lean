import RemoteBindings.Text.Case

/-!
# Words of a name

`splitWords` cuts camel, snake, kebab and spaced names into words of ASCII letters or digits;
everything else separates. A run of capitals before a lower-case letter gives its last capital to
the next word (`cutCapitals`). `pascalCase` joins the words with a capital each.
-/

namespace RemoteBindings.Text

/-- The word and the rest of a text that opens with the capital `c`. -/
def cutCapitals (c : Char) (cs : List Char) : List Char × List Char :=
  let run := cs.takeWhile Char.isUpper
  let rest := cs.dropWhile Char.isUpper
  match rest.takeWhile Char.isLower with
  | [] => (c :: run, rest)
  | small =>
    match run.getLast? with
    | none => (c :: small, rest.dropWhile Char.isLower)
    | some last => (c :: run.dropLast, last :: rest)

/-- The word and the rest of a text that opens with `c`; no word if `c` separates. -/
def cutWord (c : Char) (cs : List Char) : List Char × List Char :=
  if c.isUpper then cutCapitals c cs
  else if c.isLower then (c :: cs.takeWhile Char.isLower, cs.dropWhile Char.isLower)
  else if c.isDigit then (c :: cs.takeWhile Char.isDigit, cs.dropWhile Char.isDigit)
  else ([], cs)

theorem length_cutCapitals_le (c : Char) (cs : List Char) :
    (cutCapitals c cs).2.length ≤ cs.length := by
  have h : (cs.takeWhile Char.isUpper).length + (cs.dropWhile Char.isUpper).length = cs.length := by
    rw [← List.length_append, List.takeWhile_append_dropWhile]
  unfold cutCapitals
  simp only
  split
  · exact (List.dropWhile_sublist _).length_le
  · split
    · exact Nat.le_trans (List.dropWhile_sublist _).length_le (by omega)
    · rename_i last hl
      have : cs.takeWhile Char.isUpper ≠ [] := by
        intro he
        simp [he] at hl
      have := List.length_pos_iff.mpr this
      simp only [List.length_cons]
      omega

theorem length_cutWord_le (c : Char) (cs : List Char) : (cutWord c cs).2.length ≤ cs.length := by
  unfold cutWord
  split
  · exact length_cutCapitals_le c cs
  · split
    · exact (List.dropWhile_sublist _).length_le
    · split
      · exact (List.dropWhile_sublist _).length_le
      · exact Nat.le_refl _

/-- The words of a text, from its start to its end. -/
def wordsOf : List Char → List (List Char)
  | [] => []
  | c :: cs =>
    match (cutWord c cs).1 with
    | [] => wordsOf (cutWord c cs).2
    | word => word :: wordsOf (cutWord c cs).2
termination_by cs => cs.length
decreasing_by all_goals exact Nat.lt_succ_of_le (length_cutWord_le c cs)

def splitWords (s : String) : List String := (wordsOf s.toList).map String.ofList

/-- A word with its first letter raised and the others lowered. -/
def capitalWord : List Char → List Char
  | [] => []
  | c :: cs => c.toUpper :: cs.map Char.toLower

def pascalChars (cs : List Char) : List Char := (wordsOf cs).flatMap capitalWord

def pascalCase (s : String) : String := String.ofList (pascalChars s.toList)

end RemoteBindings.Text
