/-
How patterns are written. `Node.read?` reads a whole pattern; each step takes the reader's
state, in which `rest` holds the characters not read yet, and fails on text that is no
pattern. Alternatives, groups and bracketed classes nest, so their readers run on fuel: the
number of characters left bounds the nesting, since each level opens with a character.

Flags set by `(?i)` and the like hold up to the end of the group they stand in, alternatives
included. In verbose mode blanks and comments are skipped between the signs of a pattern, though
not behind a backslash, and not before the question mark of `*?` and the like.
-/
import Gatewatch.Pattern.Class
import Gatewatch.Word

namespace Gatewatch.Pattern

/-- The switches that a pattern may set for a part of itself. -/
structure Flags where
  caseless : Bool := false
  multiLine : Bool := false
  dotAll : Bool := false
  swapGreed : Bool := false
  unicode : Bool := true
  carriage : Bool := false
  verbose : Bool := false

/-- The state of a reader: what is left, the flags in force, how many groups were opened,
and the names in use. -/
structure Reader where
  rest : List Char
  flags : Flags
  groups : Nat
  names : List String

namespace Reader

/-- In verbose mode, drops blanks and comments; `fuel` counts characters. -/
def dropBlanks : Nat → List Char → List Char
  | 0, cs => cs
  | _, [] => []
  | fuel + 1, c :: cs =>
    if Unicode.isBlank c then dropBlanks fuel cs
    else if c == '#' then dropBlanks fuel ((cs.dropWhile (· != '\n')).drop 1)
    else c :: cs

/-- Skips what verbose mode ignores. -/
def skip (s : Reader) : Reader :=
  if s.flags.verbose then { s with rest := dropBlanks s.rest.length s.rest } else s

/-- Drops one character, then what verbose mode ignores. -/
def advance (s : Reader) : Reader :=
  { s with rest := s.rest.drop 1 }.skip

/-- Takes characters as long as a condition holds, `fuel` of them at most, each with what
verbose mode ignores behind it. -/
def collect (cond : Char → Bool) : Nat → Reader → List Char × Reader
  | 0, s => ([], s)
  | fuel + 1, s =>
    match s.rest with
    | c :: _ =>
      if cond c then
        let (cs, s) := collect cond fuel s.advance
        (c :: cs, s)
      else ([], s)
    | [] => ([], s)

/-- Takes what stands in braces, from the opening brace on, up to and including the closing
one. -/
def braced (s : Reader) : Option (List Char × Reader) :=
  let s := s.advance
  let (cs, s) := s.collect (· != '\x7d') s.rest.length
  match s.rest with
  | _ :: rest => some (cs, { s with rest })
  | [] => none

/-- The character that the reader of a class takes for the next one. It looks into comments. -/
def peek? (s : Reader) : Option Char :=
  if s.flags.verbose then
    match s.rest.dropWhile Unicode.isBlank with
    | '#' :: comment => (comment.dropWhile Unicode.isBlank).head? <|> s.rest.head?
    | c :: _ => some c
    | [] => s.rest.head?
  else s.rest.head?

/-- Drops a given text, if it comes next. -/
def take? (text : String) (s : Reader) : Option Reader :=
  if text.toList.isPrefixOf s.rest then some { s with rest := s.rest.drop text.length }
  else none

end Reader

open Reader

-- ============================================================== escapes

/-- What a backslash and its successors stand for. -/
inductive Escape where
  /-- A character; `byte` marks one written as two hexadecimal digits. -/
  | char (c : Char) (byte : Bool)
  | charSet (s : CharSet)
  | look (l : Look)

/-- The value of a hexadecimal digit. -/
def hexValue? (c : Char) : Option Nat :=
  if '0' ≤ c && c ≤ '9' then some (c.toNat - 48)
  else if 'a' ≤ c && c ≤ 'f' then some (c.toNat - 87)
  else if 'A' ≤ c && c ≤ 'F' then some (c.toNat - 55)
  else none

/-- The character with a number, unless the number is no character's. -/
def charOf? (n : Nat) : Option Char :=
  if n < 0xD800 || (0xDFFF < n && n < 0x110000) then some (Char.ofNat n) else none

/-- The number written by a list of hexadecimal digits. -/
def hexNumber? (cs : List Char) : Option Nat :=
  cs.foldlM (fun n c => (hexValue? c).map (16 * n + ·)) 0

/-- The characters that a backslash may stand before without changing their meaning: all of
ASCII but letters, digits and angle brackets. -/
def isQuotable (c : Char) : Bool :=
  c.toNat < 128 && !c.isAlphanum && c != '<' && c != '>'

/-- Reads `\x`, `\u` and `\U` after their letter: `count` digits, or digits in braces. -/
def readHex (count : Nat) (s : Reader) : Option (Escape × Reader) := do
  let s := s.skip
  match s.rest with
  | '\x7b' :: _ =>
    let (digits, s) ← s.braced
    guard (!digits.isEmpty)
    return (.char (← charOf? (← hexNumber? digits)) false, s)
  | _ =>
    let (digits, s) := s.collect (fun _ => true) count
    guard (digits.length == count)
    return (.char (← charOf? (← hexNumber? digits)) (count == 2), s)

/-- Reads the name of a property class after `\p` or `\P`. -/
def readProperty (negated : Bool) (s : Reader) : Option (Escape × Reader) := do
  let s := s.skip
  guard s.flags.unicode
  let finish (has : Nat → Bool) (negated : Bool) (after : Reader) : Escape × Reader :=
    let set : CharSet := ⟨fun c => has c.toNat, 400⟩
    let set := if s.flags.caseless then set.bothCases true else set
    (.charSet (if negated then set.compl else set), after)
  match s.rest with
  | '\x7b' :: _ =>
    let (name, after) ← s.braced
    let kind := name.takeWhile fun c => c != '=' && c != ':' && c != '!'
    match name.drop kind.length with
    | '!' :: '=' :: value => return finish (← Unicode.valuedProperty? kind value) (!negated) after
    | '=' :: value | ':' :: value =>
      return finish (← Unicode.valuedProperty? kind value) negated after
    | [] => return finish (← Unicode.property? name) negated after
    | _ => none
  | c :: _ => return finish (← Unicode.property? [c]) negated s.advance
  | [] => none

/-- Reads the kind of word boundary in braces after `\b`, if there is one. -/
def readBoundary (s : Reader) : Option (Look × Reader) :=
  let ascii := !s.flags.unicode
  let plain := some (Look.boundary ascii, s)
  match s.rest with
  | '\x7b' :: _ =>
    let inner := s.advance
    match inner.rest with
    | [] => none
    | c :: _ =>
      let inName (c : Char) : Bool := c.isAlpha || c == '-'
      if inName c then
        let (name, behind) := inner.collect inName inner.rest.length
        match behind.rest with
        | '\x7d' :: rest =>
          let after := { s with rest }
          match String.ofList name with
          | "start" => some (.wordStart ascii, after)
          | "end" => some (.wordEnd ascii, after)
          | "start-half" => some (.wordStartHalf ascii, after)
          | "end-half" => some (.wordEndHalf ascii, after)
          | _ => none
        | _ => none
      else plain
  | _ => plain

/-- Reads what follows a backslash. -/
def readEscape (s : Reader) : Option (Escape × Reader) := do
  let flags := s.flags
  let shorthand (positive : Bool) (set : CharSet) (rest : List Char) : Option (Escape × Reader) := do
    guard (positive || flags.unicode)
    return (.charSet (if positive then set else set.compl), { s with rest })
  match s.rest with
  | [] => none
  | c :: rest =>
    let after := { s with rest }
    match c with
    | 'x' => readHex 2 after
    | 'u' => readHex 4 after
    | 'U' => readHex 8 after
    | 'p' => readProperty false after
    | 'P' => readProperty true after
    | 'd' => shorthand true (.digit flags.unicode) rest
    | 'D' => shorthand false (.digit flags.unicode) rest
    | 's' => shorthand true (.blank flags.unicode) rest
    | 'S' => shorthand false (.blank flags.unicode) rest
    | 'w' => shorthand true (.word flags.unicode) rest
    | 'W' => shorthand false (.word flags.unicode) rest
    | 'a' => return (.char '\x07' false, after)
    | 'f' => return (.char '\x0c' false, after)
    | 't' => return (.char '\t' false, after)
    | 'n' => return (.char '\n' false, after)
    | 'r' => return (.char '\r' false, after)
    | 'v' => return (.char '\x0b' false, after)
    | 'A' => return (.look .textStart, after)
    | 'z' => return (.look .textEnd, after)
    | 'b' => return (← readBoundary after).map Escape.look id
    | 'B' => return (.look (.notBoundary (!flags.unicode)), after)
    | '<' => return (.look (.wordStart (!flags.unicode)), after)
    | '>' => return (.look (.wordEnd (!flags.unicode)), after)
    | _ =>
      guard (isQuotable c)
      return (.char c false, after)

-- ==================================================== bracketed classes

/-- A member of a bracketed class: a character, or a class of its own. -/
inductive Member where
  | char (c : Char)
  | charSet (s : CharSet)

/-- The set that holds just the member. -/
def Member.toSet : Member → CharSet
  | char c => .single c
  | charSet s => s

/-- Whether a character may stand in a pattern that reads bytes: such a pattern admits ASCII
alone, however the character is written. -/
def admits (flags : Flags) (c : Char) : Bool := flags.unicode || c.toNat < 128

/-- Reads one character or escape inside brackets. -/
def readMember (s : Reader) : Option (Member × Reader) := do
  match s.rest with
  | [] => none
  | '\\' :: rest =>
    let (e, s) ← readEscape { s with rest }
    match e with
    | .char c _ =>
      guard (admits s.flags c)
      return (.char c, s.skip)
    | .charSet set => return (.charSet set, s.skip)
    | .look _ => none
  | c :: rest =>
    guard (admits s.flags c)
    return (.char c, { s with rest }.skip)

/-- Reads a member or, after a hyphen that is not the last one, a range of them. -/
def readRange (s : Reader) : Option (CharSet × Reader) := do
  let (first, s) ← readMember s
  match s.rest with
  | [] => none
  | '-' :: rest =>
    let after := { s with rest }
    if after.peek? == some ']' || after.peek? == some '-' then return (first.toSet, s)
    let (last, s) ← readMember after.skip
    match first, last with
    | .char a, .char b =>
      guard (a ≤ b)
      return (.range a b, s)
    | _, _ => none
  | _ => return (first.toSet, s)

/-- Reads `[:name:]`, with `^` before the name for the complement; the bracket is next. -/
def readAsciiClass (s : Reader) : Option (Bool × CharSet × Reader) := do
  let s ← s.take? "[:"
  let (negated, s) := match s.rest with
    | '^' :: rest => (true, { s with rest })
    | _ => (false, s)
  let name := s.rest.takeWhile (· != ':')
  let s ← Reader.take? ":]" { s with rest := s.rest.drop name.length }
  let set ← CharSet.asciiClass? name
  return (negated, if negated then set.compl else set, s)

/-- How deep the text of several parts nests that stand side by side. -/
def joint : List Nat → Nat
  | [] => 0
  | [height] => height
  | heights => heights.foldr max 0 + 1

/-- A part of a bracketed class: its set, and how deep its text nests. -/
structure Part where
  set : CharSet
  height : Nat := 0

/-- The part that some hold together, the latest first. -/
def Part.union (parts : List Part) : Part :=
  ⟨parts.foldr (fun p set => set.union p.set) .none, joint (parts.map Part.height)⟩

/-- How the parts of a bracketed class combine. -/
inductive SetOp where
  | inter
  | diff
  | symmDiff

/-- Both cases of a set, where letters count in both. -/
def foldSet (flags : Flags) (s : CharSet) : CharSet :=
  if flags.caseless then s.bothCases flags.unicode else s

/-- Applies a pending operation to its two sides. -/
def applyOp (flags : Flags) (pending : Option (SetOp × Part)) (right : Part) : Part :=
  match pending with
  | none => right
  | some (op, left) =>
    let height := max left.height right.height + 1
    let left := foldSet flags left.set
    let right := foldSet flags right.set
    match op with
    | .inter => ⟨left.inter right, height⟩
    | .diff => ⟨left.diff right, height⟩
    | .symmDiff => ⟨left.symmDiff right, height⟩

/-- Reads hyphens at the start of a class, each a member. -/
def readHyphens (parts : List Part) : Nat → Reader → List Part × Reader
  | 0, s => (parts, s)
  | fuel + 1, s => match s.rest with
    | '-' :: rest => readHyphens (⟨.single '-', 0⟩ :: parts) fuel { s with rest }.skip
    | _ => (parts, s)

mutual

/-- Reads a bracketed class after its opening bracket. -/
def readClass : Nat → Reader → Option (Part × Reader)
  | 0, _ => none
  | fuel + 1, s => do
    let s := s.skip
    let (negated, s) := match s.rest with
      | '^' :: rest => (true, { s with rest }.skip)
      | _ => (false, s)
    guard (!s.rest.isEmpty)
    let (parts, s) := readHyphens [] s.rest.length s
    let (parts, s) := match s.rest with
      | ']' :: rest =>
        if parts.isEmpty then ([⟨.single ']', 0⟩], { s with rest }.skip) else (parts, s)
      | _ => (parts, s)
    let (part, s) ← readItems fuel none parts s
    let set := foldSet s.flags part.set
    guard (!negated || s.flags.unicode)
    return (⟨if negated then set.compl else set, part.height + 1⟩, s)

/-- Reads the items of a class up to its closing bracket. `pending` is an operation whose
right side `parts` collects. -/
def readItems : Nat → Option (SetOp × Part) → List Part → Reader → Option (Part × Reader)
  | 0, _, _, _ => none
  | fuel + 1, pending, parts, s => do
    let s := s.skip
    let whole := applyOp s.flags pending (.union parts)
    let next (op : SetOp) (rest : List Char) :=
      readItems fuel (some (op, whole)) [] { s with rest }
    match s.rest with
    | [] => none
    | ']' :: rest => return (whole, { s with rest })
    | '&' :: '&' :: rest => next .inter rest
    | '-' :: '-' :: rest => next .diff rest
    | '~' :: '~' :: rest => next .symmDiff rest
    | '[' :: rest =>
      match readAsciiClass s with
      | some (negated, set, s) =>
        guard (!negated || s.flags.unicode)
        readItems fuel pending (⟨set, 0⟩ :: parts) s
      | none =>
        let (inner, s) ← readClass fuel { s with rest }
        readItems fuel pending (inner :: parts) s
    | _ =>
      let (set, s) ← readRange s
      readItems fuel pending (⟨set, 0⟩ :: parts) s

end

-- ========================================================= repetitions

/-- Skips blanks, in any mode. -/
def skipBlanks (s : Reader) : Reader := { s with rest := s.rest.dropWhile Unicode.isBlank }

/-- Reads a decimal number that fits 32 bits, with blanks around it. -/
def readCount (s : Reader) : Option (Nat × Reader) := do
  let s := skipBlanks s
  let (digits, s) := s.collect Char.isDigit s.rest.length
  guard !digits.isEmpty
  let n : Nat := digits.foldl (fun n c => 10 * n + (c.toNat - 48)) 0
  guard (n < Word.size 32)
  return (n, skipBlanks s)

/-- Reads a counted repetition after its opening brace: the least and the greatest count. -/
def readCounts (s : Reader) : Option ((Nat × Option Nat) × Reader) := do
  let (low, s) ← readCount s
  match s.rest with
  | '\x7d' :: rest => return ((low, some low), { s with rest })
  | ',' :: rest =>
    let s := { s with rest }.skip
    match s.rest with
    | '\x7d' :: rest => return ((low, none), { s with rest })
    | _ =>
      let (high, s) ← readCount s
      match s.rest with
      | '\x7d' :: rest =>
        guard (low ≤ high)
        return ((low, some high), { s with rest })
      | _ => none
  | _ => none

/-- At least `low` and at most `high` rounds of a node. -/
def Node.repeated (a : Node) (low : Nat) (high : Option Nat) (greedy : Bool) : Node :=
  match a, low, high with
  | _, 0, some 0 => .empty
  | a, 1, some 1 => a
  | .set s, low, high => .run s low high greedy
  | a, 0, some 1 => a.optional greedy
  | a, 0, none => (Node.many a greedy).optional greedy
  | a, 1, none => .many a greedy
  | a, low + 1, none => .seq (.times low a) (.many a greedy)
  | a, low, some high =>
    if low = high then .times low a
    else if low = 0 then .atMost high a greedy
    else .seq (.times low a) (.atMost (high - low) a greedy)

/-- Reads the question mark that makes a repetition reluctant. -/
def readGreed (s : Reader) : Bool × Reader :=
  match s.rest with
  | '?' :: rest => (s.flags.swapGreed, { s with rest })
  | _ => (!s.flags.swapGreed, s)

-- ============================================================== groups

/-- Reads the name of a group up to its closing bracket. A name starts with a letter or an
underscore and is used once. -/
def readName (s : Reader) : Option (String × Reader) := do
  let name := s.rest.takeWhile (· != '>')
  guard (name.length < s.rest.length)
  match name with
  | [] => none
  | first :: others =>
    guard (first == '_' || Unicode.isAlphabetic first)
    guard (others.all fun c =>
      c == '_' || c == '.' || c == '[' || c == ']' || Unicode.isAlphanumeric c)
    let text := String.ofList name
    guard (!s.names.contains text)
    return (text, { s with rest := s.rest.drop (name.length + 1), names := text :: s.names })

/-- Sets one flag by its letter. -/
def Flags.set? (flags : Flags) (letter : Char) (value : Bool) : Option Flags :=
  match letter with
  | 'i' => some { flags with caseless := value }
  | 'm' => some { flags with multiLine := value }
  | 's' => some { flags with dotAll := value }
  | 'U' => some { flags with swapGreed := value }
  | 'u' => some { flags with unicode := value }
  | 'R' => some { flags with carriage := value }
  | 'x' => some { flags with verbose := value }
  | _ => none

/-- Reads flag letters up to a colon or a closing parenthesis, which stays. `seen` holds the
letters so far and `negated` tells that a hyphen came before. The result is the flags and
whether there was any letter. -/
def readFlags : Flags → List Char → Bool → List Char → Option (Flags × Bool × List Char)
  | _, _, _, [] => none
  | flags, seen, negated, c :: rest =>
    if c == ':' || c == ')' then
      if negated && seen.head? == some '-' then none
      else some (flags, !seen.isEmpty, c :: rest)
    else if c == '-' then
      if negated then none else readFlags flags ('-' :: seen) true rest
    else if seen.contains c then none
    else match flags.set? c (!negated) with
      | some flags => readFlags flags (c :: seen) negated rest
      | none => none

/-- The greatest depth to which the parts of a pattern nest. -/
def maxHeight : Nat := 250

/-- What was read of a pattern: its node, and how deep its text nests. Groups, repetitions and
classes lie one deeper than what is in them, and so do sequences and alternatives of two or
more. -/
structure Phrase where
  node : Node
  height : Nat := 0

namespace Phrase

/-- A sequence. What sets flags has no node, and counts as a part of the text. -/
def concat (items : List (Option Phrase)) : Phrase :=
  ⟨.concat (items.filterMap fun item => item.map node),
    joint (items.map fun item => item.elim 0 height)⟩

/-- Alternatives. -/
def choice (branches : List Phrase) : Phrase :=
  ⟨.choice (branches.map node), joint (branches.map height)⟩

/-- A repetition. -/
def repeated (a : Phrase) (low : Nat) (high : Option Nat) (greedy : Bool) : Phrase :=
  ⟨a.node.repeated low high greedy, a.height + 1⟩

/-- A group that is recorded. -/
def group (index : Nat) (name : Option String) (a : Phrase) : Phrase :=
  ⟨.group index name a.node, a.height + 1⟩

/-- A group that is not. -/
def inner (a : Phrase) : Phrase := { a with height := a.height + 1 }

end Phrase

/-- The node of a plain character under the flags in force. -/
def charNode (flags : Flags) (c : Char) : Node :=
  .set (foldSet { flags with unicode := flags.unicode || c.toNat ≥ 128 } (.single c))

/-- The node of an escape. A byte beyond ASCII is no character. -/
def escapeNode (flags : Flags) : Escape → Option Node
  | .char c byte =>
    if byte && !flags.unicode && c.toNat ≥ 128 then none else some (charNode flags c)
  | .charSet s => some (.set s)
  | .look l => some (.look l)

/-- The node of a dot, which needs whole characters. -/
def dotNode (flags : Flags) : Option Node :=
  if !flags.unicode then none
  else if flags.dotAll then some (.set ⟨fun _ => true, 12⟩)
  else if flags.carriage then some (.set ⟨fun c => c != '\n' && c != '\r', 12⟩)
  else some (.set .notNewline)

/-- The node of `^`. -/
def startNode (flags : Flags) : Node :=
  .look (if !flags.multiLine then .textStart
    else if flags.carriage then .lineStartCarriage else .lineStart)

/-- The node of `$`. -/
def endNode (flags : Flags) : Node :=
  .look (if !flags.multiLine then .textEnd
    else if flags.carriage then .lineEndCarriage else .lineEnd)

mutual

/-- Reads alternatives up to a closing parenthesis, which stays, or the end. -/
def readChoice : Nat → List Phrase → List (Option Phrase) → Reader → Option (Phrase × Reader)
  | 0, _, _, _ => none
  | fuel + 1, branches, items, s => do
    let s := s.skip
    let branch := Phrase.concat items.reverse
    let finish := (Phrase.choice (branch :: branches).reverse, s)
    let push (a : Phrase) (s : Reader) := readChoice fuel branches (some a :: items) s
    let leaf (node : Node) (s : Reader) := push ⟨node, 0⟩ s
    let again (low : Nat) (high : Option Nat) (s : Reader) : Option (Phrase × Reader) := do
      let (greedy, s) := readGreed s
      match items with
      | some last :: others =>
        readChoice fuel branches (some (last.repeated low high greedy) :: others) s
      | _ => none
    match s.rest with
    | [] => return finish
    | ')' :: _ => return finish
    | '|' :: rest => readChoice fuel (branch :: branches) [] { s with rest }
    | '(' :: rest =>
      let (a, s) ← readGroup fuel { s with rest }.skip
      readChoice fuel branches (a :: items) s
    | '[' :: rest =>
      let (part, s) ← readClass fuel { s with rest }
      push ⟨.set part.set, part.height⟩ s
    | '?' :: rest => again 0 (some 1) { s with rest }
    | '*' :: rest => again 0 none { s with rest }
    | '+' :: rest => again 1 none { s with rest }
    | '\x7b' :: rest =>
      guard (items.head?.any Option.isSome)
      let ((low, high), s) ← readCounts { s with rest }.skip
      again low high s.skip
    | '\\' :: rest =>
      let (e, s) ← readEscape { s with rest }
      leaf (← escapeNode s.flags e) s
    | '.' :: rest => leaf (← dotNode s.flags) { s with rest }
    | '^' :: rest => leaf (startNode s.flags) { s with rest }
    | '$' :: rest => leaf (endNode s.flags) { s with rest }
    | c :: rest => leaf (charNode s.flags c) { s with rest }

/-- Reads a group after its opening parenthesis, up to and including the closing one; a
setting of flags has no node. -/
def readGroup : Nat → Reader → Option (Option Phrase × Reader)
  | 0, _ => none
  | fuel + 1, s => do
    let body (s : Reader) : Option (Phrase × Reader) := do
      let (a, s) ← readChoice fuel [] [] s
      match s.rest with
      | ')' :: rest => return (a, { s with rest })
      | _ => none
    let outer := s.flags
    let named (s : Reader) : Option (Option Phrase × Reader) := do
      let index := s.groups + 1
      let (name, s) ← readName { s with groups := index }
      let (a, s) ← body s
      return (some (a.group index (some name)), { s with flags := outer })
    match s.rest with
    | '?' :: 'P' :: '<' :: rest => named { s with rest }
    | '?' :: '<' :: '=' :: _ | '?' :: '<' :: '!' :: _ => none
    | '?' :: '<' :: rest => named { s with rest }
    | '?' :: rest =>
      let (flags, any, rest) ← readFlags s.flags [] false rest
      match rest with
      | ')' :: rest =>
        guard any
        return (none, { s with rest, flags })
      | _ :: rest =>
        let (a, s) ← body { s with rest, flags }
        return (some a.inner, { s with flags := outer })
      | [] => none
    | _ =>
      let index := s.groups + 1
      let (a, s) ← body { s with groups := index }
      return (some (a.group index none), { s with flags := outer })

end

/-- Reads a pattern; a parenthesis that closes nothing spoils it. -/
def Node.read? (flags : Flags) (text : String) : Option Node := do
  let cs := text.toList
  let (a, s) ← readChoice (2 * cs.length + 2) [] [] ⟨cs, flags, 0, []⟩
  guard (s.rest.isEmpty && a.height ≤ maxHeight)
  return a.node

end Gatewatch.Pattern
