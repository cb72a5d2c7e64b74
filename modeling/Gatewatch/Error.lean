/-
What can go wrong, by cause. Every cause belongs to one kind, and its message is the kind's
heading followed by the cause in words.
-/
import Gatewatch.Disk.Fault
import Gatewatch.Text.Quoted

namespace Gatewatch

/-- The kinds of errors. -/
inductive ErrorKind where
  | config
  | unknownJail
  | duplicateJail
  | regex
  | invalidAddress
  | unknownAction
  | protocol
  | command
  | backend
  | fileSystem
  | notBanned
deriving DecidableEq, Repr

/-- What went wrong. -/
inductive Error where
  -- settings
  | badUseDns (word : String)
  | endsWithPercent (pattern : String)
  | unsupportedField (field : Char) (pattern : String)
  | badTemplate (name : String)
  | cyclicTag (key : String)
  | unknownTemplateKind (word : String)
  | duplicateAction (name jail : String)
  | patternIndex (index count : Nat)
  | duplicatePath (path : String)
  | foreignPath (path : String)
  | notIgnored (entry : String)
  | unknownEncoding (label : String)
  | wideEncoding (name : String)
  | noLines
  | emptyJailName
  | noQueue
  | alreadyRunning (jail : String)
  | reservedName (name : String)
  | badValue (what text : String)
  | badDuration (text : String)
  | badIdleWord (word : String)
  | badPositionWord (word : String)
  | badFindTime
  | badMaxRetry
  | noTag (key action : String)
  | batchStopped (command : List String) (reason : String)
  | badLogLevel (level : Nat)
  | emptyLogTarget
  | noSyslog (reason : String)
  | badConfigFile (reason : String)
  -- names
  | unknownJail (name : String)
  | duplicateJail (name : String)
  | unknownAction (name : String)
  -- patterns
  | emptyPattern
  | badPattern (pattern : String)
  | noHostGroup (pattern : String)
  -- addresses
  | invalidAddress (text : String)
  | notBanned (address : String)
  -- requests and replies
  | missingArgument (args : List String)
  | unknownCommand (word : String)
  | unknownSetting (word : String)
  | unknownQuery (word : String)
  | requestNotArray
  | emptyRequest
  | unsupportedArgument (value : String)
  | badReplyCode
  | malformedReply (value : String)
  -- watching and files
  | unknownBackend (word : String)
  | noNotifier (reason : String)
  | unwatchable (directory : String) (reason : String)
  | noFileName (path : String)
  | unresolvable (path : String) (reason : Disk.Fault)
  | unopenable (path : String) (reason : Disk.Fault)
  | unreadable (path : String) (reason : Disk.Fault)
  | unopenableLog (path : String) (reason : Disk.Fault)
deriving DecidableEq, Repr

namespace Error

/-- The kind of an error. -/
def kind : Error → ErrorKind
  | unknownJail _ => .unknownJail
  | duplicateJail _ => .duplicateJail
  | unknownAction _ => .unknownAction
  | emptyPattern | badPattern _ | noHostGroup _ => .regex
  | invalidAddress _ => .invalidAddress
  | notBanned _ => .notBanned
  | missingArgument _ | unknownCommand _ | unknownSetting _ | unknownQuery _ | requestNotArray
  | emptyRequest | unsupportedArgument _ | badReplyCode | malformedReply _ => .protocol
  | unknownBackend _ | noNotifier _ | unwatchable _ _ => .backend
  | noFileName _ | unresolvable _ _ | unopenable _ _ | unreadable _ _
  | unopenableLog _ _ => .fileSystem
  | _ => .config

/-- The cause in words. -/
def detail : Error → String
  | badUseDns word => "usedns must be one of yes, warn, no (got '" ++ word ++ "')"
  | endsWithPercent pattern => "date pattern '" ++ pattern ++ "' ends with '%'"
  | unsupportedField field pattern =>
    "unsupported field '%" ++ field.toString ++ "' in date pattern '" ++ pattern ++ "'"
  | badTemplate name => "bad date template '" ++ name ++ "'"
  | cyclicTag key => "recursive definition of tag <" ++ key ++ ">"
  | unknownTemplateKind word => "unknown action command: " ++ word
  | duplicateAction name jail => "action " ++ name ++ " already exists in jail " ++ jail
  | patternIndex index count =>
    "regex index " ++ toString index ++ " out of range (have " ++ toString count ++ ")"
  | duplicatePath path => path ++ " already exists"
  | foreignPath path => path ++ " is not a log path of this jail"
  | notIgnored entry => entry ++ " is not in the ignore list"
  | unknownEncoding label => "unknown encoding '" ++ label ++ "'"
  | wideEncoding name => "encoding '" ++ name ++ "' is not ASCII compatible"
  | noLines => "maxlines must be at least 1"
  | emptyJailName => "jail name must not be empty"
  | noQueue => "queue capacity must be positive"
  | alreadyRunning jail => "jail " ++ jail ++ " is already running"
  | reservedName name => "'" ++ name ++ "' is reserved and cannot name a jail"
  | badValue what text => "invalid " ++ what ++ ": " ++ Text.quoted text
  | badDuration text => "invalid duration: " ++ text
  | badIdleWord word => "idle expects on or off, got " ++ word
  | badPositionWord word => "addlogpath expects head or tail, got " ++ word
  | badFindTime => "findtime must be positive"
  | badMaxRetry => "maxretry must be positive"
  | noTag key action => "no cinfo key " ++ key ++ " in " ++ action
  | batchStopped command reason => Text.quotedList command ++ " failed: " ++ reason
  | badLogLevel level => "log level " ++ toString level ++ " out of range (0..4)"
  | emptyLogTarget => "empty log target"
  | noSyslog reason => "unable to connect to syslog: " ++ reason
  | badConfigFile reason => reason
  | unknownJail name | duplicateJail name | unknownAction name => name
  | emptyPattern => "empty pattern"
  | badPattern pattern => "unable to compile '" ++ pattern ++ "'"
  | noHostGroup pattern => "no 'host' group in '" ++ pattern ++ "'"
  | invalidAddress text => text
  | notBanned address => address
  | missingArgument args => "missing argument in " ++ Text.quotedList args
  | unknownCommand word => "invalid command: " ++ word
  | unknownSetting word => "invalid set command: " ++ word
  | unknownQuery word => "invalid get command: " ++ word
  | requestNotArray => "request must be a JSON array"
  | emptyRequest => "empty request"
  | unsupportedArgument value => "unsupported argument: " ++ value
  | badReplyCode => "reply code is not an integer"
  | malformedReply value => "malformed reply: " ++ value
  | unknownBackend word =>
    "unknown backend '" ++ word ++ "' (expected auto, polling or notify)"
  | noNotifier reason => "notify: " ++ reason
  | unwatchable directory reason => "unable to watch " ++ directory ++ ": " ++ reason
  | noFileName path => path ++ " is not a file path"
  | unresolvable path reason => "unable to resolve " ++ path ++ ": " ++ reason.text
  | unopenable path reason => "unable to open " ++ path ++ ": " ++ reason.text
  | unreadable path reason => "unable to read " ++ path ++ ": " ++ reason.text
  | unopenableLog path reason => "unable to open log file " ++ path ++ ": " ++ reason.text

/-- The message of an error. -/
def message (e : Error) : String :=
  match e.kind with
  | .config => "Configuration error: " ++ e.detail
  | .unknownJail => "Unknown jail: " ++ e.detail
  | .duplicateJail => "Jail already exists: " ++ e.detail
  | .regex => "Invalid regular expression: " ++ e.detail
  | .invalidAddress => "Invalid IP address: " ++ e.detail
  | .unknownAction => "Unknown action: " ++ e.detail
  | .protocol => "Protocol error: " ++ e.detail
  | .command => "Command failed: " ++ e.detail
  | .backend => "Backend not available: " ++ e.detail
  | .fileSystem => "File system error: " ++ e.detail
  | .notBanned => e.detail ++ " is not banned"

end Error

/-- A result or what went wrong. -/
abbrev Outcome (α : Type) := Except Error α

end Gatewatch
