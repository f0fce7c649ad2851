/-! Similarity of texts: the share of characters that lie in common blocks, the longest
block first and then those on either side of it. -/
namespace SwaggerGate.Text

def commonLead : List Char → List Char → Nat
  | a :: as, b :: bs => if a = b then commonLead as bs + 1 else 0
  | _, _ => 0

/-- A block that two texts share, by its places in both and its length. -/
structure Block where
  left : Nat
  right : Nat
  length : Nat
deriving DecidableEq, Repr

/-- The longest common block; of several the first in the left text, then in the right. -/
def longestBlock (a b : List Char) : Block :=
  (List.range a.length).foldl (fun best i =>
    (List.range b.length).foldl (fun best j =>
      let length := commonLead (a.drop i) (b.drop j)
      if best.length < length then ⟨i, j, length⟩ else best) best) ⟨0, 0, 0⟩

/-- The number of characters in common blocks. Each block shortens the left text. -/
def sharedWithin : Nat → List Char → List Char → Nat
  | 0, _, _ => 0
  | n + 1, a, b =>
    let block := longestBlock a b
    if block.length = 0 then 0
    else block.length + sharedWithin n (a.take block.left) (b.take block.right)
      + sharedWithin n (a.drop (block.left + block.length)) (b.drop (block.right + block.length))

def shared (a b : String) : Nat := sharedWithin a.length a.toList b.toList

/-- Whether common blocks make up three fifths of two texts. -/
def isClose (a b : String) : Bool := 3 * (a.length + b.length) ≤ 10 * shared a b

/-- Whether the first text shares a larger part with a word than the second. -/
def isCloser (word a b : String) : Bool :=
  let left := shared a word * (b.length + word.length)
  let right := shared b word * (a.length + word.length)
  right < left || (left == right && b ≤ a)

/-- At most three candidates that are close to a word, in order. -/
def closeMatches (word : String) (candidates : List String) : List String :=
  let close := (candidates.filter fun c => isClose c word).mergeSort (isCloser word)
  (close.take 3).mergeSort (· ≤ ·)

end SwaggerGate.Text
