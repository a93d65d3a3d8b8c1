import RecordSink.Text.Combining
import RecordSink.Text.Composition

/-!
# Normal form

The composed normal form of a text: characters are taken apart, marks on the same base are ordered
by their combining class, and what can be composed is composed again.
-/

namespace RecordSink.Text

/-- The parts of a character that is composed in at most so many steps. -/
def decomposed : Nat → Char → List Char
  | 0, char => [char]
  | steps + 1, char =>
      match parts? char with
      | some (first, second) => decomposed steps first ++ [second]
      | none => [char]

/-- A mark put among marks of increasing class, in front of those of its own class. -/
def placed (mark : Nat × Char) : List (Nat × Char) → List (Nat × Char)
  | [] => [mark]
  | next :: rest =>
      if next.1 = 0 ∨ mark.1 ≤ next.1 then mark :: next :: rest else next :: placed mark rest

/-- Characters with their classes, the marks between two others in the order of their classes. -/
def ordered (chars : List Char) : List (Nat × Char) :=
  (chars.map fun char => (combiningClass char, char)).foldr
    (fun next rest => if next.1 = 0 then next :: rest else placed next rest) []

theorem placed_perm (mark : Nat × Char) (chars : List (Nat × Char)) :
    (placed mark chars).Perm (mark :: chars) := by
  induction chars with
  | nil => exact List.Perm.refl _
  | cons next rest ih =>
      rw [placed]
      split
      · exact List.Perm.refl _
      · exact (ih.cons next).trans (List.Perm.swap mark next rest)

/-- Ordering keeps the characters of a text. -/
theorem ordered_perm (chars : List Char) : ((ordered chars).map Prod.snd).Perm chars := by
  induction chars with
  | nil => exact List.Perm.refl _
  | cons char rest ih =>
      have step : ordered (char :: rest) =
          if combiningClass char = 0 then (combiningClass char, char) :: ordered rest
          else placed (combiningClass char, char) (ordered rest) := rfl
      rw [step]
      split
      · exact ih.cons char
      · exact ((placed_perm _ _).map Prod.snd).trans (ih.cons char)

/-- A base with the marks that stay behind it, and what follows. A character reaches the base
unless one of its class or of a higher one stands between. -/
def composedFrom (base : Char) (marks : List (Nat × Char)) : List (Nat × Char) → List Char
  | [] => base :: marks.map Prod.snd
  | next :: rest =>
      let reaches := match marks.getLast? with
        | some last => decide (last.1 < next.1)
        | none => true
      match if reaches then composite? base next.2 else none with
      | some composite => composedFrom composite marks rest
      | none =>
          if next.1 = 0 then base :: marks.map Prod.snd ++ composedFrom next.2 [] rest
          else composedFrom base (marks ++ [next]) rest

/-- The normal form of a text. No character is composed in more than three steps. -/
def composed (text : List Char) : List Char :=
  let chars := ordered (text.flatMap (decomposed 3))
  let leading := (chars.takeWhile (·.1 != 0)).map Prod.snd
  match chars.dropWhile (·.1 != 0) with
  | [] => leading
  | first :: rest => leading ++ composedFrom first.2 [] rest

end RecordSink.Text
