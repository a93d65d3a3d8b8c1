import RecordSink.Numeral

/-!
# Tables of code points

A table gives some code points an image, which is any number of numbers. It is written in rows
between blanks, in increasing order and in hexadecimal. A row lists the images of a code point and
those after it (`C7:63.327,65.300`), or it has bounds: the images then follow each other
(`10A0-10C5>2D00`), belong to every second code point (`100-12E/101`) or are all the same
(`300-314=E6`).
-/

namespace RecordSink.Text

/-- The images of a row. -/
inductive Images where
  /-- One for each code point. -/
  | each (list : Array (List Nat))
  /-- One number for every so many code points, as far from the first image as the code point is
  from the first one. -/
  | along (step first : Nat)
  /-- The same for all. -/
  | same (image : List Nat)
  deriving DecidableEq, Repr

/-- The images of the code points between two bounds, both included. -/
structure Row where
  first : Nat
  last : Nat
  images : Images
  deriving DecidableEq, Repr

/-- The image of a code point within the bounds of a row. -/
def Row.image? (row : Row) (point : Nat) : Option (List Nat) :=
  let place := point - row.first
  match row.images with
  | .each list => list[place]?
  | .along step first => if place % step = 0 then some [first + place] else none
  | .same image => some image

/-- A table: rows in increasing order. -/
abbrev Table := Array Row

namespace Table

/-! ## Looking up -/

/-- Bisection among the rows from `low` to `high`, the upper index excluded. -/
def search (table : Table) (point low high : Nat) : Option (List Nat) :=
  if low < high then
    let middle := (low + high) / 2
    match table[middle]? with
    | none => none
    | some row =>
        if point < row.first then table.search point low middle
        else if row.last < point then table.search point (middle + 1) high
        else row.image? point
  else none
  termination_by high - low

/-- The image of a code point. -/
def find? (table : Table) (point : Nat) : Option (List Nat) := table.search point 0 table.size

/-- The code points with an image, and that image. -/
def entries (table : Table) : List (Nat × List Nat) :=
  table.toList.flatMap fun row =>
    (List.range' row.first (row.last + 1 - row.first)).filterMap fun point =>
      (row.image? point).map (point, ·)

/-! ## Reading -/

/-- A number in hexadecimal. -/
def number (written : List Char) : Nat :=
  written.foldl (fun value char => value * 16 + (Numeral.hexValue? char).getD 0) 0

/-- The numbers of an image. -/
def image (written : List Char) : List Nat :=
  if written.isEmpty then [] else (written.splitOn '.').map number

/-- A written row. -/
def row (written : List Char) : Row :=
  let (bounds, rest) := written.span fun char => char.isAlphanum || char == '-'
  let first := number (bounds.takeWhile (· != '-'))
  let last := match bounds.dropWhile (· != '-') with
    | _ :: after => number after
    | [] => first
  match rest with
  | ':' :: list =>
      let images := (list.splitOn ',').map image
      ⟨first, first + images.length - 1, .each images.toArray⟩
  | '>' :: image => ⟨first, last, .along 1 (number image)⟩
  | '/' :: image => ⟨first, last, .along 2 (number image)⟩
  | _ => ⟨first, last, .same (image (rest.drop 1))⟩

/-- A written table. -/
def ofText (text : String) : Table :=
  (((text.toList.splitOnP Char.isWhitespace).filter (!·.isEmpty)).map row).toArray

example : ofText "C7:63.327,65 100-12E/101" =
    #[⟨0xC7, 0xC8, .each #[[0x63, 0x327], [0x65]]⟩, ⟨0x100, 0x12E, .along 2 0x101⟩] := by
  cbv

end Table

end RecordSink.Text
