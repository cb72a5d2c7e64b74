/-
Tokens of YAML documents. Indentation becomes tokens of its own: a deeper line opens a block
sequence or a block mapping, and a shallower one closes blocks. A key is known for one only
when its colon is met, so the place of a possible key is kept, and the tokens that open the
key are put in there later.
-/
import Gatewatch.Text.Split

namespace Gatewatch.Yaml

/-- How a scalar is written. -/
inductive Style where
  | plain
  | quoted
  | literal
  | folded
deriving DecidableEq, Repr

/-- A token. -/
inductive Token where
  | directive
  | documentStart
  | documentEnd
  | blockSeq
  | blockMap
  | blockEnd
  | flowSeq
  | flowSeqEnd
  | flowMap
  | flowMapEnd
  | blockEntry
  | flowEntry
  | key
  | value
  | alias (name : String)
  | anchor (name : String)
  | tag (handle suffix : String)
  | scalar (text : String) (style : Style)
deriving DecidableEq, Repr

-- ========================================================== characters

/-- A space or a tab. -/
def isBlank (c : Char) : Bool := c == ' ' || c == '\t'

/-- A character that ends a line. -/
def isBreak (c : Char) : Bool :=
  c == '\n' || c == '\r' || c == '\x85' || c == '\u2028' || c == '\u2029'

/-- Whether the text ends, or a blank or a line end comes. -/
def blankAhead : List Char → Bool
  | [] => true
  | c :: _ => isBlank c || isBreak c

/-- A character that may stand in a document. -/
def isAllowed (c : Char) : Bool :=
  let n := c.toNat
  c == '\t' || c == '\n' || c == '\r' || (0x20 ≤ n && n ≤ 0x7e) || n == 0x85
    || (0xa0 ≤ n && n ≤ 0xfffd) || 0x10000 ≤ n

/-- A character of the names of anchors and handles. -/
def isNameChar (c : Char) : Bool :=
  ('a' ≤ c && c ≤ 'z') || ('A' ≤ c && c ≤ 'Z') || c.isDigit || c == '-' || c == '_'

/-- A character that structures collections in brackets. -/
def isFlowMark (c : Char) : Bool :=
  c == ',' || c == '[' || c == ']' || c == '\x7b' || c == '\x7d'

-- =============================================================== places

/-- A place in the text: the characters ahead, how many are behind, and the line and the column. -/
structure Place where
  ahead : List Char
  index : Nat := 0
  line : Nat := 0
  column : Nat := 0

namespace Place

/-- The place behind a character that is no line end. -/
def step (p : Place) : Place :=
  { p with ahead := p.ahead.drop 1, index := p.index + 1, column := p.column + 1 }

/-- The place some characters further on. -/
def steps (n : Nat) (p : Place) : Place :=
  { p with ahead := p.ahead.drop n, index := p.index + n, column := p.column + n }

/-- Passes a line end: the text that it stands for, and the place behind it. -/
def newLine (p : Place) : List Char × Place :=
  let behind (count : Nat) : Place :=
    { ahead := p.ahead.drop count, index := p.index + count, line := p.line + 1, column := 0 }
  match p.ahead with
  | '\r' :: '\n' :: _ => (['\n'], behind 2)
  | c :: _ => (if c == '\u2028' || c == '\u2029' then [c] else ['\n'], behind 1)
  | [] => ([], p)

/-- Whether a mark of three characters stands alone at the start of a line here. -/
def isMarker (p : Place) (mark : List Char) : Bool :=
  p.column == 0 && mark.isPrefixOf p.ahead && blankAhead (p.ahead.drop 3)

/-- Whether the start or the end of a document is marked here. -/
def isDocumentMark (p : Place) : Bool :=
  p.isMarker ['-', '-', '-'] || p.isMarker ['.', '.', '.']

/-- Passes characters as long as they satisfy a condition. -/
def skipWhile (p : Place) (cond : Char → Bool) : Place :=
  p.steps (p.ahead.takeWhile cond).length

/-- Passes the rest of the line. -/
def skipLine (p : Place) : Place := p.skipWhile fun c => !isBreak c

end Place

-- ============================================================== scanning

/-- A place where a key may have started: how many tokens were before it. A key that is
required cannot be given up. -/
structure Pending where
  required : Bool
  tokens : Nat
  index : Nat
  line : Nat
  column : Nat

/-- The state of scanning: `tokens` holds those so far, the latest first, `indents` the
columns of the blocks that are open, `pending` the possible key of each level of brackets. -/
structure Scan where
  place : Place
  tokens : List Token := []
  count : Nat := 0
  indent : Int := -1
  indents : List Int := []
  keyAllowed : Bool := true
  pending : List (Option Pending) := [none]

namespace Scan

/-- Whether the place is inside brackets. -/
def inFlow (s : Scan) : Bool := 1 < s.pending.length

/-- Puts a token behind the others. -/
def push (s : Scan) (t : Token) : Scan :=
  { s with tokens := t :: s.tokens, count := s.count + 1 }

/-- Puts tokens in before those from a position on. -/
def insert (s : Scan) (position : Nat) (ts : List Token) : Scan :=
  let behind := s.count - position
  { s with
    tokens := s.tokens.take behind ++ ts.reverse ++ s.tokens.drop behind
    count := s.count + ts.length }

/-- Gives the possible key of the current level up; one that is required is an error. -/
def dropKey (s : Scan) : Option Scan :=
  match s.pending with
  | some k :: rest => if k.required then none else some { s with pending := none :: rest }
  | _ => some s

/-- Notes that a key may start here. -/
def saveKey (s : Scan) : Option Scan :=
  if s.keyAllowed then do
    let s ← s.dropKey
    let k : Pending := {
      required := !s.inFlow && s.indent == (s.place.column : Int)
      tokens := s.count, index := s.place.index, line := s.place.line
      column := s.place.column }
    return { s with pending := some k :: s.pending.drop 1 }
  else some s

/-- Gives possible keys up that lie on an earlier line or too far behind. -/
def dropStale (s : Scan) : Option Scan := do
  let pending ← s.pending.mapM fun k? => match k? with
    | none => some none
    | some k =>
      if k.line < s.place.line || k.index + 1024 < s.place.index then
        if k.required then none else some none
      else some (some k)
  return { s with pending }

/-- Opens a block at a column that is deeper than the current one; `position` is where its
token goes. -/
def roll (s : Scan) (column : Nat) (position : Nat) (t : Token) : Scan :=
  if !s.inFlow && s.indent < (column : Int) then
    { s.insert position [t] with indents := s.indent :: s.indents, indent := (column : Int) }
  else s

/-- Closes the blocks that are deeper than a column. -/
def unrollFrom (column : Int) : List Int → Scan → Scan
  | [], s => s
  | outer :: rest, s =>
    if column < s.indent then
      unrollFrom column rest { s.push .blockEnd with indent := outer, indents := rest }
    else s

/-- Closes the blocks that are deeper than a column. -/
def unroll (s : Scan) (column : Int) : Scan :=
  if s.inFlow then s else unrollFrom column s.indents s

/-- Passes blanks, comments and line ends up to the next token. -/
def skipBlanks : Nat → Scan → Scan
  | 0, s => s
  | fuel + 1, s =>
    let tabs := s.inFlow || !s.keyAllowed
    let start := match s.place.column, s.place.ahead with
      | 0, '\ufeff' :: _ => s.place.step
      | _, _ => s.place
    let p := start.skipWhile fun c => c == ' ' || (tabs && c == '\t')
    let p := if p.ahead.head? == some '#' then p.skipLine else p
    match p.ahead with
    | c :: _ =>
      if isBreak c then
        skipBlanks fuel { s with place := p.newLine.2, keyAllowed := s.keyAllowed || !s.inFlow }
      else { s with place := p }
    | [] => { s with place := p }

end Scan

-- =============================================================== scalars

/-- What a line break inside a scalar of several lines comes to: a single one is a space, and
of several the first does not count. -/
def foldBreaks (first : List Char) (more : List Char) : List Char :=
  if first == ['\n'] then (if more.isEmpty then [' '] else more) else first ++ more

/-- Blanks and line ends between the words of a scalar: the blanks of the first line, whether
there was a line end, the first line end and the others. -/
structure Gap where
  blanks : List Char := []
  broken : Bool := false
  first : List Char := []
  more : List Char := []

/-- The text of a gap. -/
def Gap.text (g : Gap) : List Char :=
  if g.broken then foldBreaks g.first g.more else g.blanks

/-- Reads a gap. A tab that comes before column `indent` of a line is an error. -/
def readGap (indent : Int) : Nat → Gap → Place → Option (Gap × Place)
  | 0, g, p => some (g, p)
  | fuel + 1, g, p =>
    match p.ahead with
    | [] => some (g, p)
    | c :: _ =>
      if isBlank c then
        if g.broken && (p.column : Int) < indent && c == '\t' then none
        else readGap indent fuel (if g.broken then g else { g with blanks := g.blanks ++ [c] })
          p.step
      else if isBreak c then
        let (text, p) := p.newLine
        let g := if g.broken then { g with more := g.more ++ text }
          else { g with broken := true, blanks := [], first := text }
        readGap indent fuel g p
      else some (g, p)

/-- Reads a number of hexadecimal digits. -/
def readHex : Nat → Nat → List Char → Option Nat
  | 0, n, _ => some n
  | _ + 1, _, [] => none
  | count + 1, n, c :: rest =>
    let digit := if c.isDigit then some (c.toNat - 48)
      else if 'a' ≤ c && c ≤ 'f' then some (c.toNat - 87)
      else if 'A' ≤ c && c ≤ 'F' then some (c.toNat - 55)
      else none
    match digit with
    | some d => readHex count (n * 16 + d) rest
    | none => none

/-- The character that a backslash and a letter stand for, and how many characters they take
with the digits behind them. -/
def readEscape (cs : List Char) : Option (Char × Nat) :=
  let hex (count : Nat) (digits : List Char) : Option (Char × Nat) := do
    let n ← readHex count 0 digits
    if (0xD800 ≤ n && n ≤ 0xDFFF) || 0x10FFFF < n then none
    else return (Char.ofNat n, count + 2)
  match cs with
  | '\\' :: c :: rest => match c with
    | '0' => some ('\x00', 2)
    | 'a' => some ('\x07', 2)
    | 'b' => some ('\x08', 2)
    | 't' | '\t' => some ('\t', 2)
    | 'n' => some ('\n', 2)
    | 'v' => some ('\x0b', 2)
    | 'f' => some ('\x0c', 2)
    | 'r' => some ('\r', 2)
    | 'e' => some ('\x1b', 2)
    | ' ' => some (' ', 2)
    | '"' => some ('"', 2)
    | '/' => some ('/', 2)
    | '\\' => some ('\\', 2)
    | 'N' => some ('\x85', 2)
    | '_' => some ('\xa0', 2)
    | 'L' => some ('\u2028', 2)
    | 'P' => some ('\u2029', 2)
    | 'x' => hex 2 rest
    | 'u' => hex 4 rest
    | 'U' => hex 8 rest
    | _ => none
  | _ => none

/-- Reads a quoted scalar behind its opening quote; `done` holds what was read. -/
def readQuoted (single : Bool) : Nat → List Char → Place → Option (List Char × Place)
  | 0, _, _ => none
  | fuel + 1, done, p =>
    if p.isDocumentMark then none
    else match p.ahead with
      | [] => none
      | '\x27' :: '\x27' :: _ =>
        if single then readQuoted single fuel (done ++ ['\x27']) (p.steps 2)
        else readQuoted single fuel (done ++ ['\x27']) p.step
      | c :: rest =>
        if c == (if single then '\x27' else '"') then some (done, p.step)
        else if isBlank c || isBreak c then do
          let (g, p) ← readGap (-1) p.ahead.length {} p
          readQuoted single fuel (done ++ g.text) p
        else if !single && c == '\\' then
          match rest with
          | b :: _ =>
            if isBreak b then do
              let (_, p) := p.step.newLine
              let (g, p) ← readGap (-1) p.ahead.length { broken := true } p
              readQuoted single fuel (done ++ g.more) p
            else match readEscape p.ahead with
              | some (e, count) => readQuoted single fuel (done ++ [e]) (p.steps count)
              | none => none
          | [] => none
        else readQuoted single fuel (done ++ [c]) p.step

/-- Whether a plain scalar ends here. -/
def endsPlain (flow : Bool) (cs : List Char) : Bool :=
  match cs with
  | [] => true
  | ':' :: rest => blankAhead rest
  | c :: _ => flow && isFlowMark c

/-- Reads the characters of a plain scalar up to a blank. A colon right before a bracket or a
comma is an error inside brackets. -/
def readWord (flow : Bool) : Nat → List Char → Place → Option (List Char × Place)
  | 0, done, p => some (done, p)
  | fuel + 1, done, p =>
    match p.ahead with
    | [] => some (done, p)
    | c :: rest =>
      if isBlank c || isBreak c then some (done, p)
      else if flow && c == ':' && (match rest with
          | d :: _ => isFlowMark d || d == '?'
          | [] => false) then none
      else if endsPlain flow p.ahead then some (done, p)
      else readWord flow fuel (done ++ [c]) p.step

/-- Reads a plain scalar; `gap` is the text between what was read and the place. The flag
tells that a line ended before the place. -/
def readPlain (flow : Bool) (indent : Int) :
    Nat → List Char → Gap → Place → Option (List Char × Bool × Place)
  | 0, _, _, _ => none
  | fuel + 1, done, gap, p =>
    let finished := some (done, gap.broken, p)
    if p.isDocumentMark || p.ahead.head? == some '#' then finished
    else match readWord flow p.ahead.length [] p with
      | none => none
      | some (word, q) =>
        let done := if word.isEmpty then done else done ++ gap.text ++ word
        let gap := if word.isEmpty then gap else {}
        if blankAhead q.ahead && !q.ahead.isEmpty then
          match readGap indent q.ahead.length gap q with
          | none => none
          | some (gap, r) =>
            if !flow && (r.column : Int) < indent then some (done, gap.broken, r)
            else readPlain flow indent fuel done gap r
        else some (done, gap.broken, q)

/-- Reads the indentation and the empty lines before a line of a block scalar. Without an
indentation that is known, the deepest of the lines counts, but never less than `least`. -/
def readIndents (known : Option Nat) (least : Nat) :
    Nat → Nat → List Char → Place → Option (Nat × List Char × Place)
  | 0, _, _, _ => none
  | fuel + 1, deepest, breaks, p =>
    let room : Nat := match known with
      | some n => n - p.column
      | none => p.ahead.length
    let p := p.steps (min room (p.ahead.takeWhile (· == ' ')).length)
    let deepest := max deepest p.column
    let shallow := match known with
      | some n => p.column < n
      | none => true
    match p.ahead with
    | c :: _ =>
      if shallow && c == '\t' then none
      else if isBreak c then
        let (text, p) := p.newLine
        readIndents known least fuel deepest (breaks ++ text) p
      else some (known.getD (max deepest least), breaks, p)
    | [] => some (known.getD (max deepest least), breaks, p)

/-- The lines of a block scalar: what was read, the last line end, and the empty lines after. -/
structure BlockText where
  done : List Char := []
  ending : List Char := []
  empty : List Char := []
  blankBefore : Bool := false

/-- Reads the lines of a block scalar. -/
def readBlockLines (literal : Bool) (indent : Nat) :
    Nat → BlockText → Place → Option (BlockText × Place)
  | 0, _, _ => none
  | fuel + 1, t, p =>
    if p.column == indent && !p.ahead.isEmpty then
      let blank := match p.ahead with
        | c :: _ => isBlank c
        | [] => false
      let joint := if !literal && t.ending == ['\n'] && !t.blankBefore && !blank then
          (if t.empty.isEmpty then [' '] else [])
        else t.ending
      let line := p.ahead.takeWhile fun c => !isBreak c
      let p := p.steps line.length
      let (ending, p) := if p.ahead.isEmpty then ([], p) else p.newLine
      match readIndents (some indent) 0 (p.ahead.length + 1) 0 [] p with
      | none => none
      | some (_, empty, p) =>
        readBlockLines literal indent fuel
          { done := t.done ++ joint ++ t.empty ++ line, ending, empty, blankBefore := blank } p
    else some (t, p)

/-- What happens to the line ends at the end of a block scalar. -/
inductive Chomp where
  | clip
  | strip
  | keep
deriving DecidableEq, Repr

/-- Reads the signs behind the mark of a block scalar: at most one of each kind. -/
def readHeader (p : Place) : Option (Chomp × Option Nat × Place) :=
  let chomp? (p : Place) : Option (Chomp × Place) := match p.ahead with
    | '+' :: _ => some (.keep, p.step)
    | '-' :: _ => some (.strip, p.step)
    | _ => none
  let digit? (p : Place) : Option (Option (Nat × Place)) := match p.ahead with
    | c :: _ =>
      if c == '0' then none
      else if c.isDigit then some (some (c.toNat - 48, p.step))
      else some none
    | [] => some none
  match chomp? p with
  | some (chomp, p) => match digit? p with
    | none => none
    | some (some (n, p)) => some (chomp, some n, p)
    | some none => some (chomp, none, p)
  | none => match digit? p with
    | none => none
    | some (some (n, p)) => match chomp? p with
      | some (chomp, p) => some (chomp, some n, p)
      | none => some (.clip, some n, p)
    | some none => some (.clip, none, p)

/-- Reads a block scalar behind its mark. -/
def readBlock (literal : Bool) (indent : Int) (p : Place) : Option (List Char × Place) := do
  let (chomp, given, p) ← readHeader p
  let p := p.skipWhile isBlank
  let p := if p.ahead.head? == some '#' then p.skipLine else p
  guard (p.ahead.head?.all isBreak)
  let p := p.newLine.2
  let least := max (indent + 1).toNat 1
  let known := given.map fun n => if 0 ≤ indent then indent.toNat + n else n
  let (column, empty, p) ← readIndents known least (p.ahead.length + 1) 0 [] p
  let (t, p) ← readBlockLines literal column (p.ahead.length + 1) { empty } p
  let tail := match chomp with
    | .strip => []
    | .clip => t.ending
    | .keep => t.ending ++ t.empty
  return (t.done ++ tail, p)

/-- Reads the name of an anchor or an alias. -/
def readAnchor (p : Place) : Option (String × Place) :=
  let name := p.ahead.takeWhile isNameChar
  let p := p.steps name.length
  let closed := blankAhead p.ahead || (match p.ahead with
    | c :: _ => "?:,]\x7d%@".toList.contains c || c == '\x60'
    | [] => true)
  if name.isEmpty || !closed then none else some (String.ofList name, p)

/-- A character of a tag behind its handle. -/
def isTagChar (c : Char) : Bool := isNameChar c || ";/?:@&=+$.%!~*\x27()".toList.contains c

/-- Reads a tag. -/
def readTag (flow : Bool) (p : Place) : Option (Token × Place) := do
  let (t, p) ← match p.ahead with
    | '!' :: '<' :: rest =>
      let uri := rest.takeWhile fun c => isTagChar c || c == ',' || c == '[' || c == ']'
      let q := p.steps (2 + uri.length)
      guard (!uri.isEmpty && q.ahead.head? == some '>')
      some (Token.tag "" (String.ofList uri), q.step)
    | _ =>
      let name := (p.ahead.drop 1).takeWhile isNameChar
      let q := p.steps (1 + name.length)
      if q.ahead.head? == some '!' then
        let suffix := (q.ahead.drop 1).takeWhile isTagChar
        guard (!suffix.isEmpty)
        some (.tag ("!" ++ String.ofList name ++ "!") (String.ofList suffix),
          q.steps (1 + suffix.length))
      else
        let suffix := (p.ahead.drop 1).takeWhile isTagChar
        some (.tag "!" (String.ofList suffix), p.steps (1 + suffix.length))
  guard (blankAhead p.ahead || (flow && p.ahead.head? == some ','))
  return (t, p)

/-- Reads a directive: a version, of which only the first is known, or the declaration of a
tag. -/
def readDirective (p : Place) : Option Place := do
  let words := (Text.splitFrom ' ' [] (p.ahead.takeWhile fun c => !isBreak c)).filter (· != "")
  match words with
  | "%YAML" :: version :: rest =>
    guard ((version == "1.1" || version == "1.2") && (rest.head?.all (·.startsWith "#")))
  | "%TAG" :: _ :: _ :: rest => guard (rest.head?.all (·.startsWith "#"))
  | _ => none
  return p.skipLine

-- ================================================================ tokens

namespace Scan

/-- Puts a scalar or another node behind the tokens; a key may have started with it. -/
def node (s : Scan) (read : Place → Option (Token × Place)) : Option Scan := do
  let s ← s.saveKey
  let (t, place) ← read s.place
  return { s.push t with place, keyAllowed := false }

/-- Opens brackets. -/
def openFlow (s : Scan) (t : Token) : Option Scan := do
  let s ← s.saveKey
  return { s.push t with
    place := s.place.step, pending := none :: s.pending, keyAllowed := true }

/-- Closes brackets. -/
def closeFlow (s : Scan) (t : Token) : Option Scan := do
  let s ← s.dropKey
  return { s.push t with
    place := s.place.step
    pending := if s.inFlow then s.pending.drop 1 else s.pending
    keyAllowed := false }

/-- An entry of a block sequence. -/
def entry (s : Scan) : Option Scan := do
  guard (s.inFlow || s.keyAllowed)
  let s := s.roll s.place.column s.count .blockSeq
  let s ← s.dropKey
  return { s.push .blockEntry with place := s.place.step, keyAllowed := true }

/-- A key that is marked as one. -/
def markedKey (s : Scan) : Option Scan := do
  guard (s.inFlow || s.keyAllowed)
  let s := s.roll s.place.column s.count .blockMap
  let s ← s.dropKey
  return { s.push .key with place := s.place.step, keyAllowed := !s.inFlow }

/-- The colon before a value. -/
def colon (s : Scan) : Option Scan :=
  match s.pending with
  | some k :: rest =>
    let s := s.insert k.tokens [.key]
    let s := s.roll k.column k.tokens .blockMap
    some { s.push .value with
      place := s.place.step, pending := none :: rest, keyAllowed := false }
  | _ => do
    guard (s.inFlow || s.keyAllowed)
    let s := s.roll s.place.column s.count .blockMap
    return { s.push .value with place := s.place.step, keyAllowed := !s.inFlow }

/-- The mark of a document's start or end. -/
def marker (s : Scan) (t : Token) : Option Scan := do
  let s ← (s.unroll (-1)).dropKey
  return { s.push t with place := s.place.steps 3, keyAllowed := false }

/-- A plain scalar. -/
def plain (s : Scan) : Option Scan := do
  let s ← s.saveKey
  let fuel := s.place.ahead.length + 1
  let (text, broken, place) ← readPlain s.inFlow (s.indent + 1) fuel [] {} s.place
  return { s.push (.scalar (String.ofList text) .plain) with place, keyAllowed := broken }

/-- A block scalar. -/
def block (s : Scan) (literal : Bool) : Option Scan := do
  let s ← s.dropKey
  let (text, place) ← readBlock literal s.indent s.place.step
  return { s.push (.scalar (String.ofList text) (if literal then .literal else .folded)) with
    place, keyAllowed := true }

/-- Scans the token that starts with a character. -/
def token (s : Scan) (c : Char) (rest : List Char) : Option Scan :=
  let p := s.place
  let alone := blankAhead rest
  if p.column == 0 && c == '%' then do
    let s ← (s.unroll (-1)).dropKey
    let place ← readDirective p
    return { s.push .directive with place, keyAllowed := false }
  else if p.isMarker ['-', '-', '-'] then s.marker .documentStart
  else if p.isMarker ['.', '.', '.'] then s.marker .documentEnd
  else if c == '[' then s.openFlow .flowSeq
  else if c == '\x7b' then s.openFlow .flowMap
  else if c == ']' then s.closeFlow .flowSeqEnd
  else if c == '\x7d' then s.closeFlow .flowMapEnd
  else if c == ',' then do
    let s ← s.dropKey
    return { s.push .flowEntry with place := p.step, keyAllowed := true }
  else if c == '-' && alone then s.entry
  else if c == '?' && (s.inFlow || alone) then s.markedKey
  else if c == ':' && (s.inFlow || alone) then s.colon
  else if c == '*' then s.node fun p => (readAnchor p.step).map fun (n, p) => (.alias n, p)
  else if c == '&' then s.node fun p => (readAnchor p.step).map fun (n, p) => (.anchor n, p)
  else if c == '!' then s.node (readTag s.inFlow)
  else if c == '|' && !s.inFlow then s.block true
  else if c == '>' && !s.inFlow then s.block false
  else if c == '\x27' || c == '"' then
    s.node fun p => (readQuoted (c == '\x27') (p.ahead.length + 1) [] p.step).map
      fun (text, p) => (.scalar (String.ofList text) .quoted, p)
  else
    let special := "-?:,[]\x7b\x7d#&*!|>\x27\"%@".toList.contains c || c == '\x60' || isBlank c
    let blank := match rest with
      | d :: _ => isBlank d
      | [] => false
    if !special || (c == '-' && !blank) || (!s.inFlow && (c == '?' || c == ':') && !alone) then
      s.plain
    else none

/-- Scans to the end of the text. -/
def run : Nat → Scan → Option (List Token)
  | 0, _ => none
  | fuel + 1, s => do
    let s := s.skipBlanks (s.place.ahead.length + 1)
    let s ← s.dropStale
    match s.place.ahead with
    | [] =>
      let s ← (s.unroll (-1)).dropKey
      return s.tokens.reverse
    | c :: rest =>
      let s := s.unroll (s.place.column : Int)
      run fuel (← s.token c rest)

end Scan

/-- The tokens of a text. -/
def tokens? (text : String) : Option (List Token) :=
  let cs := text.toList
  if cs.all isAllowed then Scan.run (cs.length + 1) { place := { ahead := cs } } else none

end Gatewatch.Yaml
