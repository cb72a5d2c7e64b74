/-
Formatted output of a shell: characters written by escapes, and templates with fields for
arguments. A template is used again while arguments are left.
-/
import Gatewatch.Shell.Octets
import Gatewatch.Text.Numeral

namespace Gatewatch.Shell.Format

/-- The value of octal digits, up to a number of them, and what is left. -/
def octal : Nat → Nat → Octets → Nat × Octets
  | n + 1, value, c :: rest =>
    if '0' ≤ c && c ≤ '7' then octal n (8 * value + (c.toNat - 48)) rest else (value, c :: rest)
  | _, value, cs => (value, cs)

/-- The character that a letter behind a backslash stands for. -/
def letter? : Char → Option Char
  | 'a' => some '\x07'
  | 'b' => some '\x08'
  | 'f' => some '\x0c'
  | 'n' => some '\n'
  | 'r' => some '\r'
  | 't' => some '\t'
  | 'v' => some '\x0b'
  | '\\' => some '\\'
  | _ => none

/-- The character with a number, of which the low byte counts. -/
def byte (n : Nat) : Char := Char.ofNat (n % 256)

/-- A text with its escapes replaced; `true` when an escape ended it. In texts to print, octal
numbers start with a zero that does not count. -/
def escapes : Nat → Octets → Octets × Bool
  | 0, cs => (cs, false)
  | _, [] => ([], false)
  | fuel + 1, '\\' :: c :: rest =>
    if c = 'c' then ([], true)
    else if c = '0' then
      let (value, rest) := octal 3 0 rest
      let (more, ended) := escapes fuel rest
      (byte value :: more, ended)
    else
      let (more, ended) := escapes fuel rest
      match letter? c with
      | some x => (x :: more, ended)
      | none => ('\\' :: c :: more, ended)
  | fuel + 1, c :: rest =>
    let (more, ended) := escapes fuel rest
    (c :: more, ended)

/-- What words are printed as, with an end of line unless that is not wanted. -/
def echo (words : List Octets) : Octets :=
  let (words, newline) := match words with
    | ['-', 'n'] :: rest => (rest, false)
    | words => (words, true)
  let joined := [' '].intercalate words
  let (text, ended) := escapes joined.length joined
  text ++ (if newline && !ended then ['\n'] else [])

/-- How a field is written: at the left side, with zeros, with a sign, with a width, and with
a precision. -/
structure Field where
  left : Bool := false
  zeros : Bool := false
  plus : Bool := false
  width : Nat := 0
  precision : Option Nat := none

/-- A text in a field. -/
def Field.pad (f : Field) (filler : Char) (cs : Octets) : Octets :=
  let gap := List.replicate (f.width - cs.length) filler
  if f.left then cs ++ List.replicate (f.width - cs.length) ' ' else gap ++ cs

/-- A number in a field, from its sign and its digits. -/
def Field.number (f : Field) (negative : Bool) (digits : Octets) : Octets :=
  let sign : Octets := if negative then ['-'] else if f.plus then ['+'] else []
  let digits := List.replicate (f.precision.getD 0 - digits.length) '0' ++ digits
  if f.zeros && !f.left && f.precision.isNone then
    sign ++ ({ f with width := f.width - sign.length }).pad '0' digits
  else f.pad ' ' (sign ++ digits)

/-- Reads the flags of a field. -/
def flags : Nat → Field → Octets → Field × Octets
  | fuel + 1, f, '-' :: rest => flags fuel { f with left := true } rest
  | fuel + 1, f, '0' :: rest => flags fuel { f with zeros := true } rest
  | fuel + 1, f, '+' :: rest => flags fuel { f with plus := true } rest
  | _, f, cs => (f, cs)

/-- Reads the digits of a number. -/
def digits (cs : Octets) : Nat × Octets :=
  let ds := cs.takeWhile Char.isDigit
  ((Text.digits? ds).getD 0, cs.drop ds.length)

/-- Reads a field behind its percent sign. -/
def field (cs : Octets) : Field × Octets :=
  let (f, cs) := flags cs.length {} cs
  let (width, cs) := digits cs
  match cs with
  | '.' :: cs =>
    let (precision, cs) := digits cs
    ({ f with width, precision := some precision }, cs)
  | cs => ({ f with width }, cs)

/-- The number that an argument writes: decimal, octal, hexadecimal, or a character behind a
quote. -/
def numberOf (cs : Octets) : Option Int :=
  let unsigned (cs : Octets) : Option Nat := match cs with
    | '0' :: 'x' :: ds =>
      if ds.isEmpty || !ds.all fun d => d.isDigit || ('a' ≤ d && d ≤ 'f') then none
      else some (ds.foldl (fun n d =>
        16 * n + (if d.isDigit then d.toNat - 48 else d.toNat - 87)) 0)
    | '0' :: ds =>
      if ds.all fun d => '0' ≤ d && d ≤ '7' then
        some (ds.foldl (fun n d => 8 * n + (d.toNat - 48)) 0)
      else none
    | ds => Text.digits? ds
  match cs with
  | [] => some 0
  | '"' :: c :: _ | '\x27' :: c :: _ => some c.toNat
  | '-' :: ds => (unsigned ds).map fun n => -(n : Int)
  | '+' :: ds | ds => (unsigned ds).map fun n => (n : Int)

/-- What a template printed so far: the text, the arguments that are left, the arguments that
are no numbers, and whether it ended early. -/
structure Printed where
  text : Octets := []
  arguments : List Octets
  bad : List Octets := []
  ended : Bool := false

/-- Puts text behind what was printed. -/
def Printed.put (p : Printed) (cs : Octets) : Printed := { p with text := p.text ++ cs }

/-- Takes the next argument. -/
def Printed.take (p : Printed) : Octets × Printed :=
  match p.arguments with
  | [] => ([], p)
  | a :: rest => (a, { p with arguments := rest })

/-- Writes an argument into a field of a kind. -/
def Printed.fill (p : Printed) (f : Field) (kind : Char) : Printed :=
  let (a, p) := p.take
  let cut (cs : Octets) : Octets := match f.precision with
    | some n => cs.take n
    | none => cs
  let numeric (digits : Nat → Octets) : Printed :=
    match numberOf a with
    | some n => p.put (f.number (n < 0) (digits n.natAbs))
    | none => { p.put (f.number false ['0']) with bad := p.bad ++ [a] }
  match kind with
  | 's' => p.put (f.pad ' ' (cut a))
  | 'c' => p.put (f.pad ' ' (a.take 1))
  | 'b' =>
    let (text, ended) := escapes a.length a
    { p.put (f.pad ' ' (cut text)) with ended }
  | 'o' => numeric fun n => Nat.toDigits 8 n
  | 'x' => numeric fun n => Nat.toDigits 16 n
  | 'X' => numeric fun n => (Nat.toDigits 16 n).map Char.toUpper
  | _ => numeric fun n => Octets.ofNat n

/-- Prints a template once. -/
def once : Nat → Octets → Printed → Printed
  | 0, _, p => p
  | _, [], p => p
  | fuel + 1, '\\' :: c :: rest, p =>
    if '0' ≤ c && c ≤ '7' then
      let (value, rest) := octal 3 0 (c :: rest)
      once fuel rest (p.put [byte value])
    else if c = 'c' then { p with ended := true }
    else match letter? c with
      | some x => once fuel rest (p.put [x])
      | none => if c = '"' then once fuel rest (p.put ['"']) else once fuel rest (p.put ['\\', c])
  | fuel + 1, '%' :: '%' :: rest, p => once fuel rest (p.put ['%'])
  | fuel + 1, '%' :: rest, p =>
    let (f, rest) := field rest
    match rest with
    | [] => p.put ['%']
    | kind :: rest =>
      let p := p.fill f kind
      if p.ended then p else once fuel rest p
  | fuel + 1, c :: rest, p => once fuel rest (p.put [c])

/-- Prints a template until no argument is left. -/
def again (template : Octets) : Nat → Printed → Printed
  | 0, p => p
  | fuel + 1, p =>
    let q := once template.length template p
    if q.ended || q.arguments.isEmpty || q.arguments.length = p.arguments.length then q
    else again template fuel q

/-- Prints a template with arguments. -/
def printf (template : Octets) (arguments : List Octets) : Printed :=
  again template (arguments.length + 1) { arguments }

end Gatewatch.Shell.Format
