/-! A stable sort by blocks. Blocks of twenty are sorted by insertion and neighbouring blocks are then
merged, the block size doubling each time. The merge is symmetric: it finds by binary search where to
swap the end of the left part with the start of the right one, and goes on with both halves.

The comparison is a `before` test between two elements and need not be an order. When it is one, the
result is the stable arrangement; when it is not, the result still depends on the list alone. -/

namespace StraightLine.Order

variable {α : Type}

/-- Looks for the first `i` in `lo ≤ i < lo + n` with `p i` by halving. `fuel` bounds the number of
halvings. -/
def searchWithin (p : Nat → Bool) : Nat → Nat → Nat → Nat
  | 0, lo, _ => lo
  | fuel + 1, lo, n =>
    if n = 0 then lo
    else if p (lo + n / 2) then searchWithin p fuel lo (n / 2)
    else searchWithin p fuel (lo + n / 2 + 1) (n - n / 2 - 1)

/-- The least `i` in `lo ≤ i < lo + n` with `p i`, or `lo + n`, by binary search. -/
def search (p : Nat → Bool) (lo n : Nat) : Nat := searchWithin p n lo n

/-- Inserts into a sorted list that is read backwards, in front of the first element which `x` does
not come before. -/
def insertBack (before : α → α → Bool) (x : α) : List α → List α
  | [] => [x]
  | y :: ys => if before x y then y :: insertBack before x ys else x :: y :: ys

def insertionSort (before : α → α → Bool) (xs : List α) : List α :=
  (xs.foldl (fun acc x => insertBack before x acc) []).reverse

/-- Whether the element at `i` of one list comes before the element at `j` of another. -/
def beforeAt (before : α → α → Bool) (ys : List α) (i : Nat) (xs : List α) (j : Nat) : Bool :=
  match ys[i]?, xs[j]? with
  | some y, some x => before y x
  | _, _ => false

/-- Where the left part is cut: as many elements of the left part go first as the search finds, and
the middle of both parts together decides how many of the right one follow. -/
def cutPoint (before : α → α → Bool) (xs ys : List α) : Nat :=
  let mid := (xs.length + ys.length) / 2
  let lo := mid - ys.length
  let hi := min mid xs.length
  search (fun c => beforeAt before ys (mid - 1 - c) xs c) lo (hi - lo)

/-- Merges two sorted lists, the left one first among equals. `depth` bounds the number of cuts. -/
def mergeWithin (before : α → α → Bool) : Nat → List α → List α → List α
  | 0, xs, ys => xs ++ ys
  | _ + 1, [], ys => ys
  | _ + 1, xs, [] => xs
  | _ + 1, [x], ys =>
    let i := search (fun h => !beforeAt before ys h [x] 0) 0 ys.length
    ys.take i ++ x :: ys.drop i
  | _ + 1, xs, [y] =>
    let i := search (fun h => beforeAt before [y] 0 xs h) 0 xs.length
    xs.take i ++ y :: xs.drop i
  | depth + 1, xs, ys =>
    let mid := (xs.length + ys.length) / 2
    let s := cutPoint before xs ys
    mergeWithin before depth (xs.take s) (ys.take (mid - s))
      ++ mergeWithin before depth (xs.drop s) (ys.drop (mid - s))

def merge (before : α → α → Bool) (xs ys : List α) : List α :=
  mergeWithin before (xs.length + ys.length) xs ys

/-- Cuts a list into at most `fuel` blocks of `n`; what is left over is dropped. -/
def blocksWithin (n : Nat) : Nat → List α → List (List α)
  | 0, _ => []
  | _ + 1, [] => []
  | fuel + 1, x :: rest => (x :: rest.take (n - 1)) :: blocksWithin n fuel (rest.drop (n - 1))

/-- Cuts a list into blocks of `n`, the last one perhaps shorter. -/
def blocks (n : Nat) (xs : List α) : List (List α) := blocksWithin n xs.length xs

/-- Merges neighbouring blocks; a last block without a neighbour stays. -/
def mergePairs (before : α → α → Bool) : List (List α) → List (List α)
  | xs :: ys :: rest => merge before xs ys :: mergePairs before rest
  | short => short

theorem length_mergePairs_le (before : α → α → Bool) :
    (bs : List (List α)) → (mergePairs before bs).length ≤ (bs.length + 1) / 2
  | [] => by simp [mergePairs]
  | [_] => by simp [mergePairs]
  | _ :: _ :: rest => by
    have h := length_mergePairs_le before rest
    simp only [mergePairs, List.length_cons]
    omega

/-- Merges neighbouring blocks at most `fuel` times, and joins what is left. -/
def mergeBlocksWithin (before : α → α → Bool) : Nat → List (List α) → List α
  | 0, bs => bs.flatten
  | _ + 1, [] => []
  | _ + 1, [xs] => xs
  | fuel + 1, bs => mergeBlocksWithin before fuel (mergePairs before bs)

/-- Merges blocks until one is left. Each round leaves fewer of them, so their number bounds the number
of rounds. -/
def mergeBlocks (before : α → α → Bool) (bs : List (List α)) : List α :=
  mergeBlocksWithin before bs.length bs

def blockSize : Nat := 20

/-- The list in the order that `before` tells, equal elements staying in their order. -/
def blockSort (before : α → α → Bool) (xs : List α) : List α :=
  mergeBlocks before ((blocks blockSize xs).map (insertionSort before))

end StraightLine.Order
