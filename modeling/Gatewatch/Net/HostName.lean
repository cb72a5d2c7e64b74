/-
Host names. A name is resolved by the system. The names that can be resolved without asking
anyone are the loose spellings of IPv4 addresses: one to four numbers, decimal, octal after a
zero or hexadecimal after `0x`, of which the last fills the bytes that the others leave.
-/
import Gatewatch.Error
import Gatewatch.Net.Search
import Gatewatch.Note
import Gatewatch.Unicode.Case
import Gatewatch.Word

namespace Gatewatch.Net

/-- What becomes of a host name where an address is wanted. -/
inductive UseDns where
  /-- Names are dropped. -/
  | no
  /-- Names are resolved, and each use is reported. -/
  | warn
  /-- Names are resolved. -/
  | yes
deriving DecidableEq, Repr

/-- The word of a mode. -/
def UseDns.text : UseDns → String
  | no => "no"
  | warn => "warn"
  | yes => "yes"

/-- Reads a mode; letter case does not count. -/
def UseDns.read (text : String) : Outcome UseDns :=
  let word := Unicode.lower text
  if ["no", "off", "false", "0"].contains word then .ok no
  else if word = "warn" then .ok warn
  else if ["yes", "on", "true", "1"].contains word then .ok yes
  else .error (.badUseDns word)

/-- The number at the front of a loose spelling, in the base that its first characters
tell. -/
def readLoose (cs : List Char) : Option (Nat × List Char) :=
  let read (base : Nat) (cs : List Char) : Nat × List Char :=
    let digits := leadingDigits base cs
    (ofDigits base digits, cs.drop digits.length)
  match cs with
  | '0' :: x :: rest =>
    if (x = 'x' || x = 'X') && !(leadingDigits 16 rest).isEmpty then some (read 16 rest)
    else some (read 8 cs)
  | c :: _ => if c.isDigit then some (read 10 cs) else none
  | [] => none

/-- The number whose last part is `value` behind the parts before it, if that part has room in
the bytes that are left. -/
def looseEnd (room lead value : Nat) : Option Nat :=
  if value < Word.size (8 * (room + 1)) then some (lead * Word.size (8 * (room + 1)) + value)
  else none

/-- The address that a loose spelling gives: `room` numbers may follow, and `lead` holds the
bytes read so far. -/
def looseAddress : (room : Nat) → (lead : Nat) → List Char → Option Nat
  | 0, lead, cs =>
    match readLoose cs with
    | some (value, []) => looseEnd 0 lead value
    | _ => none
  | room + 1, lead, cs =>
    match readLoose cs with
    | some (value, []) => looseEnd (room + 1) lead value
    | some (value, '.' :: rest) =>
      if value < 256 then looseAddress room (lead * 256 + value) rest else none
    | _ => none

/-- The IPv4 address that a name spells loosely. -/
def numericHost? (name : String) : Option Nat := looseAddress 3 0 name.toList

/-- What resolves host names: the addresses that the system has for a name, some of them perhaps
more than once, or why it has none. -/
abbrev Resolver := String → Except String (List (Family × Nat))

/-- Resolves the names that spell an address loosely, and no others. -/
def numericHosts : Resolver := fun name =>
  match numericHost? name with
  | some value => .ok [(.v4, value)]
  | none => .error "failed to lookup address information: Name or service not known"

/-- What a lookup yields: the addresses of a name, each once, or why there are none. -/
inductive Lookup where
  /-- Nothing was looked up. -/
  | skipped
  | found (addresses : List Address)
  | unknown (reason : String)
deriving DecidableEq

/-- Looks a name up, unless it is empty or the mode says not to. -/
def lookUp (name : String) (mode : UseDns) (names : Resolver := numericHosts) : Lookup :=
  if mode = .no || name.isEmpty then .skipped
  else match names name with
    | .ok found => .found (found.map fun (family, value) => .ofHost family value).eraseDups
    | .error reason => .unknown reason

/-- The addresses that a lookup found. -/
def Lookup.addresses : Lookup → List Address
  | found addresses => addresses
  | skipped | unknown _ => []

/-- Reports what a lookup came to: a failure always, and what was found where each use is
reported. -/
def Lookup.report (l : Lookup) (name : String) (mode : UseDns) : Noted Unit :=
  match l with
  | skipped => return ()
  | found addresses =>
    if mode = .warn && !addresses.isEmpty then
      note .warn ("Determined IP using DNS lookup: " ++ name ++ " = ["
        ++ ", ".intercalate (addresses.map Address.text) ++ "]")
    else return ()
  | unknown reason =>
    note .warn ("Unable to find a corresponding IP address for " ++ name ++ ": " ++ reason)

/-- What a host token stands for: an address literal, else one inside it, else a name to look
up. -/
inductive Token where
  | literal (a : Address)
  | name (l : Lookup)

/-- Reads a host token. -/
def Token.read (text : String) (mode : UseDns) (names : Resolver := numericHosts) : Token :=
  let a := Address.parse text
  if a.isValid then .literal a
  else match search text with
    | some found => .literal found
    | none => .name (lookUp text mode names)

/-- The addresses of a host token. -/
def Token.addresses : Token → List Address
  | literal a => [a]
  | name l => l.addresses

/-- Reports the lookup of a host token, if there was one. -/
def Token.report (t : Token) (text : String) (mode : UseDns) : Noted Unit :=
  match t with
  | literal _ => return ()
  | name l => l.report text mode

/-- The addresses of a host token. -/
def textToAddresses (text : String) (mode : UseDns) (names : Resolver := numericHosts) :
    Noted (List Address) := do
  let token := Token.read text mode names
  token.report text mode
  return token.addresses

end Gatewatch.Net
