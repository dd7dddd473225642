/-! Bytes read as UTF-8, whatever they are. -/

namespace StraightLine.Text

/-- The character in front and the number of its bytes. -/
def leadingChar? (bs : List UInt8) : Option (Char × Nat) :=
  [1, 2, 3, 4].findSome? fun n =>
    let front := bs.take n
    if front.length < n then none
    else (String.fromUTF8? ⟨front.toArray⟩).bind fun s => s.toList.head?.map fun c => (c, n)

/-- The characters of some bytes behind the first `skip` of them. A byte that starts no character is
read as the replacement character. -/
def charsOfUtf8 (skip : Nat) : List UInt8 → List Char
  | [] => []
  | b :: bs =>
    match skip with
    | skip + 1 => charsOfUtf8 skip bs
    | 0 =>
      match leadingChar? (b :: bs) with
      | some (c, n) => c :: charsOfUtf8 (n - 1) bs
      | none => Char.ofNat 0xFFFD :: charsOfUtf8 0 bs

def ofUtf8 (bs : List UInt8) : String := String.ofList (charsOfUtf8 0 bs)

end StraightLine.Text
