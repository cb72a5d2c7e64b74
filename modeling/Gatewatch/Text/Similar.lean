/-
How similar two texts are, as Jaro measures it: the share of characters that both have in
about the same places, less for those that come in another order. The measure is a fraction.
-/

namespace Gatewatch.Text

/-- A measure of similarity: `part` of `whole`. -/
structure Similarity where
  part : Nat
  whole : Nat
deriving DecidableEq, Repr

/-- Whether one measure is greater than another. -/
def Similarity.exceeds (s t : Similarity) : Bool := t.part * s.whole < s.part * t.whole

/-- The first place in a text, from a place and before an end, that holds a character and is
not taken. -/
def freePlace? (c : Char) (taken : List Nat) (first last : Nat) : Nat → List Char → Option Nat
  | _, [] => none
  | i, d :: rest =>
    if last ≤ i then none
    else if first ≤ i && c == d && !taken.contains i then some i
    else freePlace? c taken first last (i + 1) rest

/-- The characters of a text from place `i` that the other text has in about the same place,
and the places there, the latest first. -/
def common (b : List Char) (range : Nat) : Nat → List Char → List Nat → List Char × List Nat
  | _, [], taken => ([], taken)
  | i, c :: rest, taken =>
    match freePlace? c taken (i - range) (i + range + 1) 0 b with
    | some j =>
      let (shared, taken) := common b range (i + 1) rest (j :: taken)
      (c :: shared, taken)
    | none => common b range (i + 1) rest taken

/-- The similarity of two texts. -/
def similarity (s t : String) : Similarity :=
  let a := s.toList
  let b := t.toList
  let (shared, taken) := common b (max a.length b.length / 2 - 1) 0 a []
  let others := (b.zipIdx.filter fun (_, j) => taken.contains j).map (·.1)
  let swapped := ((shared.zip others).filter fun (c, d) => c != d).length / 2
  let m := shared.length
  if a.isEmpty && b.isEmpty then ⟨1, 1⟩
  else if m = 0 then ⟨0, 1⟩
  else ⟨m * m * b.length + m * m * a.length + (m - swapped) * a.length * b.length,
    3 * a.length * b.length * m⟩

/-- The similarity that texts need to be taken for one another. -/
def likeness : Similarity := ⟨7, 10⟩

/-- Puts a text behind all that are no more similar. -/
def insertSimilar (s : Similarity) (text : String) :
    List (Similarity × String) → List (Similarity × String)
  | [] => [(s, text)]
  | (r, other) :: rest =>
    if r.exceeds s then (s, text) :: (r, other) :: rest
    else (r, other) :: insertSimilar s text rest

/-- The texts that are similar to a text, the most similar last. -/
def similarTo (text : String) (texts : List String) : List String :=
  (texts.foldl (fun found other =>
    let s := similarity text other
    if s.exceeds likeness then insertSimilar s other found else found) []).map (·.2)

end Gatewatch.Text
