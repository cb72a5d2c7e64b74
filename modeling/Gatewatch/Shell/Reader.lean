/-
Reading commands. A line is read as a whole before any of it is run; what stands between
brackets or between the words of a compound command may go over several lines. A line that
cannot be read is refused at the first token that has no place.
-/
import Gatewatch.Shell.Command

namespace Gatewatch.Shell

/-- Where reading is: what is left, and the number of the line. -/
structure Cursor where
  rest : Octets
  line : Nat := 1

/-- Reading, which may be refused with a message. -/
abbrev Read := StateT Cursor (Except String)

namespace Read

/-- What is left. -/
def rest : Read Octets := do return (← get).rest

/-- Goes on with what is left, which is behind what was there. -/
def goTo (cs : Octets) : Read Unit :=
  modify fun c =>
    let gone := c.rest.take (c.rest.length - cs.length)
    { rest := cs, line := c.line + gone.count '\n' }

/-- Refuses. -/
def refuse {α : Type} (message : String) : Read α := throw ("Syntax error: " ++ message)

/-- Whether a character ends a word. -/
def endsWord (c : Char) : Bool := " \t\n;&|<>()".toList.contains c

/-- Whether a character may stand in a name. -/
def isNameChar (c : Char) : Bool := c.isAlphanum || c = '_'

/-- Whether a text is a name. -/
def isName : Octets → Bool
  | [] => false
  | c :: cs => isNameChar c && !c.isDigit && cs.all isNameChar

/-- What is left behind blanks and comments. -/
def blanks : Octets → Octets
  | '\\' :: '\n' :: rest => blanks rest
  | ' ' :: rest => blanks rest
  | '\t' :: rest => blanks rest
  | '#' :: rest => rest.dropWhile (· != '\n')
  | cs => cs

/-- What is left behind blanks, comments and the ends of lines, up to a number of them. -/
def lines : Nat → Octets → Octets
  | 0, cs => cs
  | n + 1, cs => match blanks cs with
    | '\n' :: rest => lines n rest
    | cs => cs

/-- Goes behind blanks. -/
def skipBlanks : Read Unit := do goTo (blanks (← rest))

/-- Goes behind the ends of lines. -/
def skipLines : Read Unit := do
  let cs ← rest
  goTo (lines cs.length cs)

-- =============================================================== words

/-- The message about a quote that does not end. -/
def unterminated : String := "Unterminated quoted string"

/-- What stands before the bracket that closes an open one, with the quotes as they are. -/
def enclosed (depth : Nat) (quote : Option Char) (done : Octets) : Octets →
    Option (Octets × Octets)
  | [] => none
  | '\\' :: c :: rest =>
    if quote = some '\x27' then enclosed depth quote ('\\' :: done) (c :: rest)
    else enclosed depth quote (c :: '\\' :: done) rest
  | c :: rest =>
    match quote with
    | some q => enclosed depth (if c = q then none else quote) (c :: done) rest
    | none =>
      if c = '\x27' || c = '"' then enclosed depth (some c) (c :: done) rest
      else if c = '(' then enclosed (depth + 1) none (c :: done) rest
      else if c = ')' then
        if depth = 0 then some (done.reverse, rest) else enclosed (depth - 1) none (c :: done) rest
      else enclosed depth none (c :: done) rest
termination_by cs => cs.length

/-- What stands before the next backward quote. -/
def backquoted (done : Octets) : Octets → Option (Octets × Octets)
  | [] => none
  | '\\' :: c :: rest =>
    if c = '\\' || c = '\x60' || c = '$' then backquoted (c :: done) rest
    else backquoted (c :: '\\' :: done) rest
  | c :: rest => if c = '\x60' then some (done.reverse, rest) else backquoted (c :: done) rest

/-- The parameters whose names are no names. -/
def isSpecial (c : Char) : Bool := "?$!#@*-".toList.contains c || c.isDigit

/-- Whether an expression stands between two pairs of round brackets. -/
def expression? (cs : Octets) : Option (Octets × Octets) := do
  let (inside, rest) ← enclosed 0 none [] cs
  match rest with
  | ')' :: rest => some (inside, rest)
  | _ => none

/-- Where the parts of a word end. -/
inductive Ending where
  | word
  | quote
  | brace
  | all
deriving DecidableEq

/-- Puts a part before others; texts of one kind become one. -/
def joined : Part → List Part → List Part
  | .text q cs, .text r ds :: rest =>
    if q == r then .text q (cs ++ ds) :: rest else .text q cs :: .text r ds :: rest
  | p, rest => p :: rest

/-- How a parameter in braces goes on behind its name. -/
def expansionOf : Octets → Option (Expansion × Octets)
  | '}' :: rest => some (.value, '}' :: rest)
  | ':' :: '-' :: rest => some (.otherwise true, rest)
  | ':' :: '=' :: rest => some (.assign true, rest)
  | ':' :: '+' :: rest => some (.instead true, rest)
  | '-' :: rest => some (.otherwise false, rest)
  | '=' :: rest => some (.assign false, rest)
  | '+' :: rest => some (.instead false, rest)
  | _ => none

mutual

/-- Reads the parts of a word, or of what is quoted in one. -/
def parts (quoted : Bool) (ending : Ending) : Nat → Read (List Part)
  | 0 => return []
  | fuel + 1 => do
    let put (p : Part) : Read (List Part) := do return joined p (← parts quoted ending fuel)
    match ← rest with
    | [] =>
      match ending with
      | .word | .all => return []
      | .quote => refuse unterminated
      | .brace => refuse "Missing '\x7d'"
    | '\\' :: '\n' :: cs =>
      goTo cs
      parts quoted ending fuel
    | '\\' :: c :: cs =>
      goTo cs
      if quoted && !"$\\\"\x60".toList.contains c then put (.text true ['\\', c])
      else put (.text true [c])
    | '$' :: cs => match ← dollar quoted fuel cs with
      | some p => put p
      | none =>
        goTo cs
        put (.text quoted ['$'])
    | c :: cs =>
      if ending = .word && endsWord c then return []
      else if ending = .quote && c = '"' then
        goTo cs
        return []
      else if ending = .brace && c = '\x7d' then
        goTo cs
        return []
      else
        goTo cs
        if c = '\x60' then match backquoted [] cs with
          | some (source, cs) =>
            goTo cs
            put (.output quoted source)
          | none => refuse "EOF in backquote substitution"
        else if quoted then put (.text true [c])
        else if c = '"' then
          let inside ← parts true .quote fuel
          let more ← parts quoted ending fuel
          return .text true [] :: inside ++ more
        else if c = '\x27' then
          let inside := cs.takeWhile (· != '\x27')
          match cs.drop inside.length with
          | [] => refuse unterminated
          | _ :: cs =>
            goTo cs
            put (.text true inside)
        else put (.text false [c])

/-- Reads what is behind a dollar sign, if that makes it more than a character. -/
def dollar (quoted : Bool) : Nat → Octets → Read (Option Part)
  | 0, _ => return none
  | fuel + 1, cs =>
    match cs with
    | '\x7b' :: cs => do
      let (long, cs) := match cs with
        | '#' :: c :: rest => if c != '\x7d' then (true, c :: rest) else (false, cs)
        | _ => (false, cs)
      let name := match cs with
        | c :: _ => if isSpecial c then [c] else cs.takeWhile isNameChar
        | [] => []
      match if name.isEmpty then none else expansionOf (cs.drop name.length) with
      | none => throw "Bad substitution"
      | some (expansion, cs) =>
        goTo cs
        let word ← parts quoted .brace fuel
        return some (.parameter quoted name (if long then .length else expansion) word)
    | '(' :: '(' :: inside =>
      match expression? inside with
      | some (expression, cs) => do
        goTo expression
        let word ← parts true .all fuel
        goTo cs
        return some (.sum quoted word)
      | none => command quoted ('(' :: inside)
    | '(' :: inside => command quoted inside
    | c :: rest => do
      if isSpecial c then
        goTo rest
        return some (.parameter quoted [c] .value [])
      else if isNameChar c then
        let name := cs.takeWhile isNameChar
        goTo (cs.drop name.length)
        return some (.parameter quoted name .value [])
      else return none
    | [] => return none
where
  /-- Reads a command whose output stands in its place. -/
  command (quoted : Bool) (inside : Octets) : Read (Option Part) :=
    match enclosed 0 none [] inside with
    | some (source, cs) => do
      goTo cs
      return some (.output quoted source)
    | none => refuse "end of file unexpected (expecting \")\")"

end

/-- Reads a word, if there is one. -/
def word? : Read (Option Word) := do
  skipBlanks
  match ← rest with
  | [] => return none
  | c :: cs =>
    if endsWord c then return none
    return some (← parts false .word (cs.length + 2))

-- ============================================================ commands

/-- The words with a meaning of their own where a command may start. -/
def reserved : List String :=
  ["if", "then", "else", "elif", "fi", "while", "until", "for", "do", "done", "case", "esac",
    "\x7b", "\x7d", "!"]

/-- The operators, the longer before the shorter. -/
def operators : List String := ["&&", "||", ";;", ";", "&", "|", "(", ")"]

/-- The next token in words. -/
def token : Read String := do
  skipBlanks
  match ← rest with
  | [] => return "end of file"
  | '\n' :: _ => return "newline"
  | '<' :: _ | '>' :: _ => return "redirection"
  | cs =>
    match operators.find? fun o => o.toList.isPrefixOf cs with
    | some o => return "\"" ++ o ++ "\""
    | none =>
      let word := String.ofList (cs.takeWhile fun c => !endsWord c)
      return if reserved.contains word then "\"" ++ word ++ "\"" else "word"

/-- Refuses the next token. -/
def unexpected {α : Type} (expecting : Option String) : Read α := do
  let t ← token
  refuse (t ++ " unexpected" ++ (match expecting with
    | some e => " (expecting \"" ++ e ++ "\")"
    | none => ""))

/-- Takes an operator if it comes next. -/
def takes (operator : String) : Read Bool := do
  skipBlanks
  let cs ← rest
  if operator.toList.isPrefixOf cs then
    goTo (cs.drop operator.length)
    return true
  return false

/-- Takes a reserved word if it comes next. -/
def takesWord (word : String) : Read Bool := do
  skipBlanks
  let cs ← rest
  let w := word.toList
  if w.isPrefixOf cs && (match cs.drop w.length with
    | [] => true
    | c :: _ => endsWord c) then
    goTo (cs.drop w.length)
    return true
  return false

/-- Takes a reserved word, which has to come next. -/
def needs (word : String) : Read Unit := do
  if !(← takesWord word) then unexpected (some word)

/-- Reads a redirection, if there is one. -/
def redirection? : Read (Option Redirection) := do
  skipBlanks
  let cs ← rest
  let (stream, cs) := match cs with
    | c :: '<' :: rest => if c.isDigit then (some (c.toNat - 48), '<' :: rest) else (none, cs)
    | c :: '>' :: rest => if c.isDigit then (some (c.toNat - 48), '>' :: rest) else (none, cs)
    | _ => (none, cs)
  let found : Option (Nat × Direction × Octets) := match cs with
    | '>' :: '>' :: rest => some (1, .behind, rest)
    | '>' :: '&' :: rest => some (1, .duplicate, rest)
    | '>' :: '|' :: rest => some (1, .into, rest)
    | '>' :: rest => some (1, .into, rest)
    | '<' :: '&' :: rest => some (0, .duplicate, rest)
    | '<' :: rest => some (0, .fromFile, rest)
    | _ => none
  match found with
  | none => return none
  | some (usual, direction, cs) =>
    goTo cs
    match ← word? with
    | some target => return some { stream := stream.getD usual, direction, target }
    | none => unexpected none

/-- Reads redirections. -/
def redirections : Nat → Read (List Redirection)
  | 0 => return []
  | fuel + 1 => do
    match ← redirection? with
    | some r => return r :: (← redirections fuel)
    | none => return []

/-- Whether a word starts with a name and an equals sign. -/
def assignment? : Word → Option (Octets × Word)
  | .text false cs :: more =>
    let name := cs.takeWhile (· != '=')
    match cs.drop name.length with
    | '=' :: value =>
      if isName name then
        some (name, if value.isEmpty then more else .text false value :: more)
      else none
    | _ => none
  | _ => none

/-- Reads the assignments, words and redirections of a simple command. -/
def simpleFrom (line : Nat) : Nat → List (Octets × Word) → List Word → List Redirection →
    Read Command
  | 0, as, ws, rs => return .simple line as ws rs
  | fuel + 1, as, ws, rs => do
    match ← redirection? with
    | some r => simpleFrom line fuel as ws (rs ++ [r])
    | none =>
      match ← word? with
      | none => return .simple line as ws rs
      | some w =>
        match if ws.isEmpty then assignment? w else none with
        | some a => simpleFrom line fuel (as ++ [a]) ws rs
        | none => simpleFrom line fuel as (ws ++ [w]) rs

/-- Reads words up to the end of a line or a semicolon. -/
def wordsFrom : Nat → Read (List Word)
  | 0 => return []
  | fuel + 1 => do
    match ← word? with
    | some w => return w :: (← wordsFrom fuel)
    | none => return []

/-- Reads the patterns of an arm, up to the bracket behind them. -/
def patterns : Nat → Read (List Word)
  | 0 => return []
  | fuel + 1 => do
    match ← word? with
    | none => unexpected (if (← token) = "end of file" then some ")" else none)
    | some w =>
      if ← takes ")" then return [w]
      else if ← takes "|" then return w :: (← patterns fuel)
      else unexpected (some ")")

mutual

/-- Reads a command. -/
def command : Nat → Read Command
  | 0 => refuse "too deep"
  | fuel + 1 => do
    skipBlanks
    let line := (← get).line
    if ← takes "(" then
      let body ← list fuel
      if !(← takes ")") then unexpected (some ")")
      return .subshell body (← redirections fuel)
    if ← takesWord "\x7b" then
      let body ← list fuel
      needs "\x7d"
      return .group body (← redirections fuel)
    if ← takesWord "if" then
      let c ← conditional fuel
      return .group c (← redirections fuel)
    if ← takesWord "while" then return .group (← loopFrom true fuel) (← redirections fuel)
    if ← takesWord "until" then return .group (← loopFrom false fuel) (← redirections fuel)
    if ← takesWord "for" then
      let some name := (← word?).bind literal? | refuse "Bad for loop variable"
      skipLines
      let words ← if ← takesWord "in" then wordsFrom fuel
        else pure [[.parameter true ['@'] .value []]]
      if (← token) = "end of file" then unexpected none
      let _ ← takes ";"
      skipLines
      needs "do"
      let body ← list fuel
      needs "done"
      return .group (.each name words body) (← redirections fuel)
    if ← takesWord "case" then
      let some w ← word? | unexpected none
      skipLines
      needs "in"
      return .choice w (← arms fuel)
    let t ← token
    let cs ← rest
    if t != "word" && t != "redirection" then unexpected none
    let name := cs.takeWhile isNameChar
    match blanks (cs.drop name.length) with
    | '(' :: more =>
      if !isName name then unexpected none
      match blanks more with
      | ')' :: more =>
        goTo more
        skipLines
        return .definition name (← command fuel)
      | _ => unexpected none
    | _ => simpleFrom line (cs.length + 1) [] [] []

/-- Reads a conditional behind its first word. -/
def conditional : Nat → Read Command
  | 0 => refuse "too deep"
  | fuel + 1 => do
    let condition ← list fuel
    needs "then"
    let yes ← list fuel
    if ← takesWord "elif" then return .branch condition yes (← conditional fuel)
    let no ← if ← takesWord "else" then list fuel else pure .nothing
    needs "fi"
    return .branch condition yes no

/-- Reads a loop behind its first word. -/
def loopFrom (while' : Bool) : Nat → Read Command
  | 0 => refuse "too deep"
  | fuel + 1 => do
    let condition ← list fuel
    needs "do"
    let body ← list fuel
    needs "done"
    return .loop while' condition body

/-- Reads the arms of a choice. -/
def arms : Nat → Read (List (List Word × Command))
  | 0 => refuse "too deep"
  | fuel + 1 => do
    skipLines
    if ← takesWord "esac" then return []
    let _ ← takes "("
    let ps ← patterns fuel
    skipLines
    let body ← if (← token) = "\";;\"" || (← token) = "\"esac\"" then pure .nothing else list fuel
    skipLines
    if ← takes ";;" then return (ps, body) :: (← arms fuel)
    needs "esac"
    return [(ps, body)]

/-- Reads commands with pipes between them. -/
def pipeline : Nat → Read Command
  | 0 => refuse "too deep"
  | fuel + 1 => do
    if ← takesWord "!" then return .negation (← pipeline fuel)
    let c ← command fuel
    skipBlanks
    match ← rest with
    | '|' :: '|' :: _ => return c
    | '|' :: cs =>
      goTo cs
      skipLines
      return .pipe c (← pipeline fuel)
    | _ => return c

/-- Reads pipelines that depend on those before; `left` holds these. -/
def chain : Nat → (Command → Command) → Read Command
  | 0, _ => refuse "too deep"
  | fuel + 1, left => do
    let c := left (← pipeline fuel)
    if ← takes "&&" then
      skipLines
      chain fuel (.conjunction c)
    else if ← takes "||" then
      skipLines
      chain fuel (.disjunction c)
    else return c

/-- Reads the commands of a compound command, up to a token that ends it. -/
def list : Nat → Read Command
  | 0 => refuse "too deep"
  | fuel + 1 => do
    skipLines
    if (← token) = "end of file" then return .nothing
    let c ← chain fuel id
    skipBlanks
    let (c, more) ← match ← rest with
      | ';' :: ';' :: _ => pure (c, false)
      | ';' :: cs => do
        goTo cs
        pure (c, true)
      | '&' :: cs => do
        goTo cs
        pure (.background c, true)
      | '\n' :: _ => pure (c, true)
      | _ => pure (c, false)
    skipLines
    let t ← token
    let ends := ["\")\"", "\";;\"", "\"then\"", "\"else\"", "\"elif\"", "\"fi\"", "\"do\"",
      "\"done\"", "\"esac\"", "\"\x7d\"", "end of file"]
    if more && !ends.contains t then return .sequence c (← list fuel) else return c

end

/-- Reads the commands of a line. -/
def lineFrom : Nat → Read Command
  | 0 => refuse "too deep"
  | fuel + 1 => do
    let c ← chain fuel id
    skipBlanks
    let c ← match ← rest with
      | ';' :: ';' :: _ => unexpected none
      | ';' :: cs => do
        goTo cs
        pure c
      | '&' :: cs => do
        goTo cs
        pure (.background c)
      | [] | '\n' :: _ => pure c
      | _ => unexpected none
    skipBlanks
    match ← rest with
    | [] | '\n' :: _ => return c
    | _ => return .sequence c (← lineFrom fuel)

/-- Reads the next line that holds commands, if there is one. -/
def nextLine? : Read (Option Command) := do
  skipLines
  let cs ← rest
  if cs.isEmpty then return none
  return some (← lineFrom (2 * cs.length + 8))

end Read

end Gatewatch.Shell
