/-
What a pattern means. A `Node` is a pattern without its spelling; `Node.run` maps a place
in a text to the places where a match that starts there may end, the preferred one first.
The order is that of a matcher that tries the first alternative first and follows a
repetition as far as it goes (or, for a reluctant one, leaves it as early as it can), and a
place that was already reached inside the same repetition is not followed again, which is
why repetitions of an empty body end.

`Node.run` is structural in the node, and a repetition runs on fuel that is the number of
characters left, one more than the rounds that can consume one.
-/
import Gatewatch.Unicode.Classes

namespace Gatewatch.Pattern

-- ===================================================== places in a text

/-- A set of characters. `weight` is the number of states that the set takes in a machine
that reads bytes; it counts towards the limit on the size of a pattern alone. -/
structure CharSet where
  has : Char → Bool
  weight : Nat

/-- A place in a text: the character before it, the characters after it, and the number of
bytes before it. -/
structure Cursor where
  before : Option Char
  rest : List Char
  offset : Nat

/-- The place before the first character. -/
def Cursor.start (text : List Char) : Cursor := ⟨none, text, 0⟩

/-- The place behind the next character. -/
def Cursor.step (c : Cursor) (ch : Char) (rest : List Char) : Cursor :=
  ⟨some ch, rest, c.offset + ch.utf8Size⟩

/-- A part of a text, in bytes. -/
structure Span where
  start : Nat
  stop : Nat
deriving DecidableEq, Repr

/-- A place that a match has reached, with the groups it went through, the latest first. -/
structure Thread where
  cursor : Cursor
  groups : List (Nat × Span)

/-- The place behind the next character, if that is one of `set`. -/
def Cursor.accept? (set : CharSet) (c : Cursor) : Option Cursor :=
  match c.rest with
  | ch :: rest => if set.has ch then some (c.step ch rest) else none
  | [] => none

/-- The places behind 0, 1, 2, … characters of `set`, at most `n`. -/
def Cursor.reach (set : CharSet) : Nat → Cursor → List Cursor
  | 0, c => [c]
  | n + 1, c => match c.accept? set with
    | some next => c :: reach set n next
    | none => [c]

-- ========================================================= assertions

/-- A condition on a place. The flag `ascii` of the word conditions restricts words to
ASCII characters. -/
inductive Look where
  | textStart
  | textEnd
  | lineStart
  | lineEnd
  | lineStartCarriage
  | lineEndCarriage
  | boundary (ascii : Bool)
  | notBoundary (ascii : Bool)
  | wordStart (ascii : Bool)
  | wordEnd (ascii : Bool)
  | wordStartHalf (ascii : Bool)
  | wordEndHalf (ascii : Bool)
deriving DecidableEq, Repr

/-- A character of a word, by the ASCII rule or by that of all scripts. -/
def wordChar (ascii : Bool) (c : Char) : Bool :=
  if ascii then c.isAlphanum || c == '_' else Unicode.isWord c

/-- Whether a condition holds at a place. -/
def Look.holds (l : Look) (c : Cursor) : Bool :=
  let wordBefore ascii := c.before.any (wordChar ascii)
  let wordAfter ascii := c.rest.head?.any (wordChar ascii)
  match l with
  | textStart => c.before.isNone
  | textEnd => c.rest.isEmpty
  | lineStart => c.before.isNone || c.before == some '\n'
  | lineEnd => c.rest.isEmpty || c.rest.head? == some '\n'
  | lineStartCarriage =>
    c.before.isNone || c.before == some '\n'
      || (c.before == some '\r' && c.rest.head? != some '\n')
  | lineEndCarriage =>
    c.rest.isEmpty || c.rest.head? == some '\r'
      || (c.rest.head? == some '\n' && c.before != some '\r')
  | boundary ascii => wordBefore ascii != wordAfter ascii
  | notBoundary ascii => wordBefore ascii == wordAfter ascii
  | wordStart ascii => !wordBefore ascii && wordAfter ascii
  | wordEnd ascii => wordBefore ascii && !wordAfter ascii
  | wordStartHalf ascii => !wordBefore ascii
  | wordEndHalf ascii => !wordAfter ascii

-- ============================================================== nodes

/-- A pattern without its spelling. -/
inductive Node where
  /-- Matches the empty text. -/
  | empty
  /-- Matches one character. -/
  | set (s : CharSet)
  /-- Matches the empty text where the condition holds. -/
  | look (l : Look)
  | seq (a b : Node)
  /-- Prefers the first alternative. -/
  | alt (a b : Node)
  /-- At least `low` and at most `high` characters of one set. -/
  | run (s : CharSet) (low : Nat) (high : Option Nat) (greedy : Bool)
  /-- One or more rounds. -/
  | many (a : Node) (greedy : Bool)
  /-- Exactly `n` rounds. -/
  | times (n : Nat) (a : Node)
  /-- At most `n` rounds. -/
  | atMost (n : Nat) (a : Node) (greedy : Bool)
  /-- Records what `a` matches, under a number and perhaps a name. -/
  | group (index : Nat) (name : Option String) (a : Node)

namespace Node

/-- Matches the nodes one after the other. The nodes before the last make up one node, so that
the places behind them are told apart before the last node goes on from there. -/
def concat : List Node → Node
  | [] => empty
  | a :: rest => rest.foldl seq a

/-- Matches one of the nodes, earlier ones preferred. -/
def choice : List Node → Node
  | [] => empty
  | [a] => a
  | a :: rest => alt a (choice rest)

/-- Matches `a` or nothing. -/
def optional (a : Node) (greedy : Bool) : Node :=
  if greedy then alt a empty else alt empty a

/-- Matches one character, and no other. -/
def char (c : Char) : Node := set ⟨(· == c), c.utf8Size⟩

-- ========================================================= repetition

/-- A set of places in a text: the bits of a number. -/
structure Places where
  bits : Nat := 0

namespace Places

/-- Whether a place is in the set. -/
def has (ps : Places) (place : Nat) : Bool := ps.bits.testBit place

/-- The set with one more place. -/
def insert (ps : Places) (place : Nat) : Places := ⟨ps.bits ||| (1 <<< place)⟩

end Places

/-- Threads at different places, the latest first, with their places. -/
structure Gathered where
  seen : Places := {}
  kept : List Thread := []

/-- Keeps a thread, unless one that came before has reached its place. -/
def Gathered.add (g : Gathered) (t : Thread) : Gathered :=
  if g.seen.has t.cursor.offset then g
  else ⟨g.seen.insert t.cursor.offset, t :: g.kept⟩

/-- The threads that follow those of a list, in order. Where two reach the same place, the later
one is dropped: all that follows it would follow the earlier one too. -/
def follow (next : Thread → List Thread) : List Thread → List Thread
  | [] => []
  | [t] => next t
  | ts => (ts.foldl (fun g t => (next t).foldl Gathered.add g) {}).kept.reverse

/-- The state of a walk through a repetition: the places where a round has ended, and the
threads that have left the repetition, the latest first. -/
structure Walk where
  ended : Places := {}
  left : List Thread := []

/-- Walks through one round of `body` from `t` and, where a round ends at a new place
further on, through the rounds after it. -/
def walkRounds (body : Thread → List Thread) (greedy : Bool) : Nat → Thread → Walk → Walk
  | 0, _, w => w
  | fuel + 1, t, w =>
    (body t).foldl (fun w r =>
      if w.ended.has r.cursor.offset then w
      else
        let w := { w with ended := w.ended.insert r.cursor.offset }
        if t.cursor.offset < r.cursor.offset then
          if greedy then
            let w := walkRounds body greedy fuel r w
            { w with left := r :: w.left }
          else walkRounds body greedy fuel r { w with left := r :: w.left }
        else { w with left := r :: w.left }) w

/-- The state of a walk through a bounded repetition: the places where a round began, with
the rounds that were left there, and the threads that have left, the latest first. -/
structure BoundedWalk where
  begun : List (Nat × Nat)
  left : List Thread

/-- Walks through at most `n` rounds of `body` from `t`. -/
def walkAtMost (body : Thread → List Thread) (greedy : Bool) :
    Nat → Thread → BoundedWalk → BoundedWalk
  | 0, t, w => { w with left := t :: w.left }
  | n + 1, t, w =>
    if w.begun.contains (n + 1, t.cursor.offset) then w
    else
      let w := { w with begun := (n + 1, t.cursor.offset) :: w.begun }
      if greedy then
        let w := (body t).foldl (fun w r => walkAtMost body greedy n r w) w
        { w with left := t :: w.left }
      else
        (body t).foldl (fun w r => walkAtMost body greedy n r w) { w with left := t :: w.left }

/-- The threads after exactly `n` rounds. -/
def afterRounds (body : Thread → List Thread) : Nat → List Thread → List Thread
  | 0, ts => ts
  | n + 1, ts => afterRounds body n (follow body ts)

-- ============================================================ meaning

/-- The threads with which a match of the node from `t` may end, the preferred one first. -/
def threads : Node → Thread → List Thread
  | empty, t => [t]
  | set s, t => match t.cursor.accept? s with
    | some next => [{ t with cursor := next }]
    | none => []
  | look l, t => if l.holds t.cursor then [t] else []
  | seq a b, t => follow b.threads (a.threads t)
  | alt a b, t => a.threads t ++ b.threads t
  | run s low high greedy, t =>
    let ends := (t.cursor.reach s (high.getD t.cursor.rest.length)).drop low
    (if greedy then ends.reverse else ends).map fun c => { t with cursor := c }
  | many a greedy, t =>
    (walkRounds a.threads greedy (t.cursor.rest.length + 1) t {}).left.reverse
  | times n a, t => afterRounds a.threads n [t]
  | atMost n a greedy, t => (walkAtMost a.threads greedy n t ⟨[], []⟩).left.reverse
  | group index _ a, t =>
    (a.threads t).map fun r =>
      { r with groups := (index, ⟨t.cursor.offset, r.cursor.offset⟩) :: r.groups }

/-- The names of the groups, with their numbers, in the order of the pattern. -/
def groupNames : Node → List (String × Nat)
  | group index name a => (name.toList.map (·, index)) ++ a.groupNames
  | seq a b | alt a b => a.groupNames ++ b.groupNames
  | many a _ | times _ a | atMost _ a _ => a.groupNames
  | _ => []

/-- The number of states that the node takes in a machine that reads bytes. -/
def weight : Node → Nat
  | empty => 1
  | look _ => 1
  | set s => s.weight
  | seq a b => a.weight + b.weight
  | alt a b => a.weight + b.weight + 1
  | run s low high _ => match high with
    | some n => low * s.weight + (n - low) * (s.weight + 1) + 1
    | none => max low 1 * s.weight + 1
  | many a _ => a.weight + 2
  | times n a => n * a.weight + 1
  | atMost n a _ => n * (a.weight + 1) + 1
  | group _ _ a => a.weight + 2

end Node

end Gatewatch.Pattern
