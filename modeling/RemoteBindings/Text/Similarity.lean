/-!
# Similar words

How much two texts have in common is measured by blocks: the longest block that both hold, and then
the blocks in what stands before and behind it (`commonLength`). `closest` finds the words that
share enough with a given one.
-/

namespace RemoteBindings.Text

/-- The number of characters that two texts begin with alike. -/
def commonStart : List Char → List Char → Nat
  | a :: as, b :: bs => if a = b then commonStart as bs + 1 else 0
  | _, _ => 0

/-- A block that two texts hold, by its places in them and its length. -/
structure Block where
  left : Nat := 0
  right : Nat := 0
  length : Nat := 0

def Block.orLonger (old new : Block) : Block := if old.length < new.length then new else old

/-- The longest block at the start of `as` and at any place in `bs`, the first of equal ones. -/
def blockAt (left : Nat) (as : List Char) (right : Nat) : List Char → Block
  | [] => {}
  | b :: bs =>
    Block.orLonger ⟨left, right, commonStart as (b :: bs)⟩ (blockAt left as (right + 1) bs)

/-- The longest block of two texts, the first of equal ones. -/
def longestBlock (left : Nat) (bs : List Char) : List Char → Block
  | [] => {}
  | a :: as => Block.orLonger (blockAt left (a :: as) 0 bs) (longestBlock (left + 1) bs as)

/-- The number of characters in common blocks. Every step splits off a block, so the length of the
first text bounds the depth. -/
def commonLengthFrom : Nat → List Char → List Char → Nat
  | 0, _, _ => 0
  | fuel + 1, as, bs =>
    let block := longestBlock 0 bs as
    if block.length = 0 then 0
    else
      commonLengthFrom fuel (as.take block.left) (bs.take block.right) + block.length +
        commonLengthFrom fuel (as.drop (block.left + block.length))
          (bs.drop (block.right + block.length))

def commonLength (s t : String) : Nat := commonLengthFrom (s.length + 1) s.toList t.toList

/-- Whether at least three fifths of two texts are in common blocks. -/
def areSimilar (s t : String) : Bool := 3 * (s.length + t.length) ≤ 10 * commonLength s t

/-- Whether `s` shares a larger part with a word than `t` does; of equal parts the later text in
alphabetical order counts as the larger. -/
def isCloser (word s t : String) : Bool :=
  let x := commonLength s word * (t.length + word.length)
  let y := commonLength t word * (s.length + word.length)
  y < x || (y == x && t ≤ s)

/-- The texts that are similar to a word, three at most, in alphabetical order. -/
def closest (word : String) (texts : List String) : List String :=
  let similar := texts.filter fun t => areSimilar t word
  ((similar.mergeSort (isCloser word)).take 3).mergeSort fun s t => s ≤ t

end RemoteBindings.Text
