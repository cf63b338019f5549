import HeaderAudit.Text.Basic

/-!
# Similar words

How much of two words agrees: the longest common run, then the same to its left and to its right.
Words are similar when twice the agreeing length is at least six tenths of their joint length.
-/

namespace HeaderAudit.Text

def commonStart : Text → Text → Nat
  | a :: as, b :: bs => if a = b then commonStart as bs + 1 else 0
  | _, _ => 0

/-- The longest common run, as offsets into both words and a length; the earliest in the first word,
then in the second. -/
def longestRun (a b : Text) : Nat × Nat × Nat :=
  (List.range a.length).foldl (fun best i =>
    (List.range b.length).foldl (fun best j =>
      let size := commonStart (a.drop i) (b.drop j)
      if best.2.2 < size then (i, j, size) else best) best) (0, 0, 0)

/-- The number of agreeing characters, to a depth of nested runs. -/
def agreement : Nat → Text → Text → Nat
  | 0, _, _ => 0
  | depth + 1, a, b =>
    let (i, j, size) := longestRun a b
    if size = 0 then 0
    else agreement depth (a.take i) (b.take j) + size
      + agreement depth (a.drop (i + size)) (b.drop (j + size))

/-- The candidates that are similar to a word, best first, at most three. -/
def similar (word : Text) (candidates : List Text) : List Text :=
  let scored := candidates.filterMap fun c =>
    let agreeing := agreement (c.length + 1) c word
    let total := c.length + word.length
    if 20 * agreeing ≥ 6 * total then some (agreeing, total, c) else none
  let ordered := scored.mergeSort fun x y => x.1 * y.2.1 ≥ y.1 * x.2.1
  (ordered.take 3).map (·.2.2)

end HeaderAudit.Text
