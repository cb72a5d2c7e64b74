/-
Reading configurations from documents. Both kinds of documents, YAML and JSON, have texts,
numbers, lists and named fields, and differ in what counts as one; a `Source` tells how. Fields
that are not there keep their usual values, fields that no one knows are passed over, and one
that is given twice is an error.
-/
import Gatewatch.Config.Basic
import Gatewatch.Json.Value
import Gatewatch.Text.Numeral
import Gatewatch.Yaml.Node
import Gatewatch.Word

namespace Gatewatch.Config

/-- How the values of a kind of document are read. `missing?` tells whether a value stands for
none, and fails for one that only claims to; `fields?` gets the names of the fields that
are known, in order, for documents in which the place can stand for the name. -/
structure Source (α : Type) where
  text? : α → Option String
  unsigned? : Nat → α → Option Nat
  signed? : α → Option Int
  bool? : α → Option Bool
  missing? : α → Option Bool
  items? : α → Option (List α)
  fields? : List String → α → Option (List (String × α))
  tags? : α → Option Action.TagMap

namespace Source

variable {α : Type}

/-- The fields of a value that are known, each at most once. -/
def known? (s : Source α) (names : List String) (a : α) : Option (List (String × α)) := do
  let fields := (← s.fields? names a).filter fun f => names.contains f.1
  guard ((fields.map (·.1)).eraseDups.length == fields.length)
  return fields

/-- Reads a field, or takes its usual value. -/
def field {β : Type} (fields : List (String × α)) (name : String) (usual : β)
    (read : α → Option β) : Option β :=
  match fields.find? (·.1 == name) with
  | some (_, a) => read a
  | none => some usual

/-- Reads a value that may be missing. -/
def option {β : Type} (s : Source α) (read : α → Option β) (a : α) : Option (Option β) := do
  if ← s.missing? a then return none
  (read a).map some

/-- Reads a list. -/
def list {β : Type} (s : Source α) (read : α → Option β) (a : α) : Option (List β) := do
  (← s.items? a).mapM read

/-- The names of the fields of an action. -/
def actionFields : List String := ["name", "cinfo", "start", "stop", "check", "ban", "unban"]

/-- Reads an action. -/
def action? (s : Source α) (a : α) : Option ActionSpec := do
  let fs ← s.known? actionFields a
  let text (name : String) : Option String := field fs name "" s.text?
  return {
    name := ← text "name"
    tags := ← field fs "cinfo" [] s.tags?
    start := ← text "start"
    stop := ← text "stop"
    check := ← text "check"
    ban := ← text "ban"
    unban := ← text "unban" }

/-- The names of the fields of a jail. -/
def jailFields : List String :=
  ["name", "backend", "enabled", "logpath", "tail", "failregex", "ignoreregex", "ignoreip",
   "findtime", "maxretry", "bantime", "usedns", "maxlines", "logencoding", "datepattern",
   "ignorecommand", "actions"]

/-- Reads a jail. -/
def jail? (s : Source α) (a : α) : Option JailSpec := do
  let fs ← s.known? jailFields a
  let texts (name : String) : Option (List String) := field fs name [] (s.list s.text?)
  let text? (name : String) : Option (Option String) := field fs name none (s.option s.text?)
  return {
    name := ← field fs "name" "" s.text?
    backend := ← field fs "backend" "auto" s.text?
    enabled := ← field fs "enabled" true s.bool?
    paths := ← texts "logpath"
    tail := ← field fs "tail" false s.bool?
    fail := ← texts "failregex"
    ignore := ← texts "ignoreregex"
    ignored := ← texts "ignoreip"
    findTime := ← field fs "findtime" none (s.option s.signed?)
    maxRetry := ← field fs "maxretry" none (s.option (s.unsigned? (Word.size 32)))
    banTime := ← field fs "bantime" none (s.option s.signed?)
    useDns := ← text? "usedns"
    maxLines := ← field fs "maxlines" none (s.option (s.unsigned? (Word.size 64)))
    charset := ← text? "logencoding"
    datePattern := ← text? "datepattern"
    ignoreCommand := ← text? "ignorecommand"
    actions := ← field fs "actions" [] (s.list s.action?) }

/-- The names of the fields of a configuration. -/
def configFields : List String :=
  ["socket", "pidfile", "loglevel", "logtarget", "command_timeout_secs", "poll_interval_ms",
   "queue_capacity", "jails"]

/-- Reads a configuration. -/
def config? (s : Source α) (a : α) : Option Config := do
  let fs ← s.known? configFields a
  let usual : Config := {}
  return {
    socket := ← field fs "socket" usual.socket s.text?
    pidFile := ← field fs "pidfile" usual.pidFile s.text?
    logLevel := ← field fs "loglevel" usual.logLevel (s.unsigned? 256)
    logTarget := ← field fs "logtarget" usual.logTarget s.text?
    timeoutSecs := ← field fs "command_timeout_secs" usual.timeoutSecs (s.unsigned? (Word.size 64))
    pollMillis := ← field fs "poll_interval_ms" usual.pollMillis (s.unsigned? (Word.size 64))
    queueCapacity := ← field fs "queue_capacity" usual.queueCapacity (s.unsigned? (Word.size 64))
    jails := ← field fs "jails" [] (s.list s.jail?) }

end Source

-- ================================================================ YAML

/-- The number that digits of a base write. -/
def basedNumber? (base : Nat) (cs : List Char) : Option Nat :=
  let digit (c : Char) : Nat :=
    if c.isDigit then c.toNat - 48
    else if 'a' ≤ c && c ≤ 'f' then c.toNat - 87
    else if 'A' ≤ c && c ≤ 'F' then c.toNat - 55
    else base
  if cs.isEmpty || cs.any (fun c => base ≤ digit c) then none
  else some (cs.foldl (fun n c => n * base + digit c) 0)

/-- The number that a scalar without a sign writes: in base ten, or another one that its first
two characters tell. Digits behind a zero are no number. -/
def magnitude? (cs : List Char) : Option Nat :=
  match cs with
  | '0' :: 'x' :: rest => basedNumber? 16 rest
  | '0' :: 'o' :: rest => basedNumber? 8 rest
  | '0' :: 'b' :: rest => basedNumber? 2 rest
  | '0' :: _ :: _ => none
  | _ => basedNumber? 10 cs

/-- The tag of whole numbers. -/
def intTag : String := "tag:yaml.org,2002:int"

/-- The tag of missing values. -/
def nullTag : String := "tag:yaml.org,2002:null"

/-- The tag of truth values. -/
def boolTag : String := "tag:yaml.org,2002:bool"

/-- The text of a scalar that is plain, or literal with a tag. -/
def literalText? (tag : String) : Yaml.Node → Option String
  | .scalar text .plain _ => some text
  | .scalar text .literal (some given) => if given = tag then some text else none
  | _ => none

/-- The text of a scalar that may be a number. -/
def numberText? (n : Yaml.Node) : Option (List Char) := (literalText? intTag n).map String.toList

/-- Whether a text stands for a missing value. -/
def isNullText (text : String) : Bool := ["null", "Null", "NULL", "~"].contains text

/-- Whether a node is an empty plain scalar, which also stands for empty collections. -/
def isVoid : Yaml.Node → Bool
  | .scalar "" .plain _ => true
  | _ => false

/-- The text of a scalar. -/
def scalarText? : Yaml.Node → Option String
  | .scalar text _ _ => some text
  | _ => none

/-- How YAML is read: any scalar is a text, and plain ones may be numbers. -/
def yaml : Source Yaml.Node where
  text? := scalarText?
  unsigned? bound n := do
    let cs ← numberText? n
    let digits := match cs with
      | '+' :: rest => rest
      | _ => cs
    (magnitude? digits).filter (· < bound)
  signed? n := do
    let cs ← numberText? n
    match cs with
    | '-' :: rest => do
      let m ← magnitude? rest
      if m ≤ Word.size 63 then some (-(m : Int)) else none
    | _ =>
      let digits := match cs with
        | '+' :: rest => rest
        | _ => cs
      (magnitude? digits).bind fun m => if m < Word.size 63 then some (m : Int) else none
  bool? n := do
    let text ← literalText? boolTag n
    if ["true", "True", "TRUE"].contains text then some true
    else if ["false", "False", "FALSE"].contains text then some false
    else none
  missing? n := match n with
    | .scalar text .plain none => some (text == "" || isNullText text)
    | .scalar text .plain (some tag) =>
      if tag = nullTag then (if isNullText text then some true else none) else some false
    | _ => some false
  items? n := match n with
    | .seq items => some items
    | n => if isVoid n then some [] else none
  fields? _ n := match n with
    | .map entries => entries.mapM fun (k, v) => do return (← scalarText? k, v)
    | n => if isVoid n then some [] else none
  tags? n := match n with
    | .map entries => do
      let tags ← entries.mapM fun (k, v) => do return (← scalarText? k, ← scalarText? v)
      return .ofList tags
    | n => if isVoid n then some [] else none

/-- Reads a configuration in YAML. A text without a document is the usual configuration. -/
def ofYaml? (text : String) : Option Config := do
  match ← Yaml.Document.read? text with
  | .none => return {}
  | .one root => yaml.config? root

-- ================================================================ JSON

open Json (Value) in
/-- How JSON is read: fields may be given by their places. -/
def json : Source Value where
  text? v := match v with
    | .str s => some s
    | _ => none
  unsigned? bound v := match v with
    | .num (.int n) => if 0 ≤ n && n < (bound : Int) then some n.toNat else none
    | _ => none
  signed? v := match v with
    | .num (.int n) => if -(Word.size 63) ≤ n && n < Word.size 63 then some n else none
    | _ => none
  bool? v := match v with
    | .bool b => some b
    | _ => none
  missing? v := match v with
    | .null => some true
    | _ => some false
  items? v := match v with
    | .arr items => some items
    | _ => none
  fields? names v := match v with
    | .obj members => some members
    | .arr items => if items.length ≤ names.length then some (names.zip items) else none
    | _ => none
  tags? v := match v with
    | .obj members => do
      let tags ← members.mapM fun (k, v) => match v with
        | .str s => some (k, s)
        | _ => none
      return .ofList tags
    | _ => none

/-- Reads a configuration in JSON. -/
def ofJson? (v : Json.Value) : Option Config := json.config? v

end Gatewatch.Config
