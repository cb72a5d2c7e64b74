/-
The records of the program as JSON objects: one member per field, under the name by which
readers know it.
-/
import Gatewatch.Ban.Roll
import Gatewatch.Cli.Reading
import Gatewatch.Config.Basic
import Gatewatch.Filter.Patterns
import Gatewatch.Host
import Gatewatch.Json.Access
import Gatewatch.Net.Literal
import Gatewatch.Offence.Table

namespace Gatewatch

open Json (Value)

/-- The word of a family. -/
def Net.Family.text : Net.Family → String
  | v4 => "v4"
  | v6 => "v6"

/-- The word of a kind of errors. -/
def ErrorKind.word : ErrorKind → String
  | .config => "Config"
  | .unknownJail => "UnknownJail"
  | .duplicateJail => "DuplicateJail"
  | .regex => "Regex"
  | .invalidAddress => "InvalidAddress"
  | .unknownAction => "UnknownAction"
  | .protocol => "Protocol"
  | .command => "Command"
  | .backend => "Backend"
  | .fileSystem => "FileSystem"
  | .notBanned => "NotBanned"

/-- The word of what a ban did. -/
def Ban.Effect.word : Ban.Effect → String
  | .banned => "Banned"
  | .prolonged => "Prolonged"
  | .alreadyBanned => "AlreadyBanned"

/-- An address with its parts; `raw` is the text that it was read from. -/
def Net.Address.toJson (a : Net.Address) (raw : String) : Value :=
  let part (f : Net.Block → Value) : Value := .ofOption f a.block?
  .object [("valid", .bool a.isValid), ("family", part fun b => .str b.family.text),
    ("int", part fun b => .str (toString b.base)), ("prefix", part fun b => .ofNat b.length),
    ("host", .bool (a.block?.any Net.Block.isHost)),
    ("ip", part fun b => .str (Net.literalText b.family b.base)),
    ("net", part fun b => .str b.cidrText), ("raw", .str raw), ("text", .str a.text)]

/-- An offence. -/
def Offence.toJson (o : Offence) : Value :=
  .object [("ip", .str o.source.text), ("time", .ofInt o.time),
    ("attempts", .ofNat o.attempts), ("matches", .strings o.lines)]

/-- A ban. -/
def Ban.toJson (b : Ban) : Value :=
  .object [("ip", .str b.source.text), ("start", .ofInt b.start),
    ("duration", .ofInt b.duration), ("end", .ofOption .ofInt b.finish?),
    ("permanent", .bool b.isPermanent), ("attempts", .ofNat b.attempts),
    ("matches", .strings b.lines)]

/-- Static tags. -/
def Action.TagMap.toJson (m : Action.TagMap) : Value :=
  .object (m.map fun (k, v) => (k, .str v))

/-- Reads static tags. -/
def Action.TagMap.ofJson (v : Value) : Action.TagMap :=
  .ofList (v.members.map fun (k, x) => (k, x.asText))

/-- Reads an event, unless it is null. -/
def Ban.Event.ofJson (v : Value) : Option Ban.Event :=
  v.ifGiven fun v =>
    { ip := (v.field "ip").asText, time := (v.field "time").asInt
      failures := (v.field "failures").asNat, lines := (v.field "matches").asText }

/-- A failure that was found in a line. -/
def Filter.Failure.toJson (f : Filter.Failure) : Value :=
  .object [("index", .ofNat f.index), ("host", .str f.host), ("start", .ofNat f.span.start),
    ("end", .ofNat f.span.stop)]

/-- The entry of an address in a table, with the sums of the table. -/
def Offence.Table.entryJson (t : Offence.Table) (a : Net.Address) : Value :=
  let e := t.get? a
  .object [("attempts", .ofOption (fun e => .ofNat e.attempts) e),
    ("first_seen", .ofOption (fun e => .ofInt e.firstSeen) e),
    ("size", .ofNat t.size), ("total", .ofNat t.total)]

/-- The word of a kind of targets. -/
def Log.Target.word : Log.Target → String
  | stdout => "Stdout"
  | stderr => "Stderr"
  | syslog => "Syslog"
  | file _ => "File"

namespace Config

/-- A declared action. -/
def ActionSpec.toJson (a : ActionSpec) : Value :=
  .object [("name", .str a.name), ("cinfo", a.tags.toJson), ("start", .str a.start),
    ("stop", .str a.stop), ("check", .str a.check), ("ban", .str a.ban),
    ("unban", .str a.unban)]

/-- A declared jail. -/
def JailSpec.toJson (j : JailSpec) : Value :=
  .object [("name", .str j.name), ("backend", .str j.backend), ("enabled", .bool j.enabled),
    ("logpath", .strings j.paths), ("tail", .bool j.tail), ("failregex", .strings j.fail),
    ("ignoreregex", .strings j.ignore), ("ignoreip", .strings j.ignored),
    ("findtime", .ofOption .ofInt j.findTime), ("maxretry", .ofOption .ofNat j.maxRetry),
    ("bantime", .ofOption .ofInt j.banTime), ("usedns", .ofOption .str j.useDns),
    ("maxlines", .ofOption .ofNat j.maxLines), ("logencoding", .ofOption .str j.charset),
    ("datepattern", .ofOption .str j.datePattern),
    ("ignorecommand", .ofOption .str j.ignoreCommand),
    ("actions", .arr (j.actions.map ActionSpec.toJson))]

/-- A configuration. -/
def toJson (c : Config) : Value :=
  .object [("socket", .str c.socket), ("pidfile", .str c.pidFile),
    ("loglevel", .ofNat c.logLevel), ("logtarget", .str c.logTarget),
    ("command_timeout_secs", .ofNat c.timeoutSecs), ("poll_interval_ms", .ofNat c.pollMillis),
    ("queue_capacity", .ofNat c.queueCapacity), ("jails", .arr (c.jails.map JailSpec.toJson))]

/-- Reads options. -/
def Options.ofJson (v : Value) : Options :=
  let text? (key : String) : Option String := (v.field key).ifGiven Value.asText
  { socket := text? "socket", pidFile := text? "pidfile"
    logLevel := (v.field "loglevel").ifGiven Value.asNat, logTarget := text? "logtarget"
    verbose := (v.field "verbose").asBool, quiet := (v.field "quiet").asBool }

end Config

/-- What to do. -/
def Cli.Task.toJson : Cli.Task → Value
  | .version => .str "version"
  | .server socket pidFile force level target => .object [("server", .object [
      ("socket", .ofOption .str socket), ("pidfile", .ofOption .str pidFile),
      ("force", .bool force), ("loglevel", .ofOption .ofNat level),
      ("logtarget", .ofOption .str target)])]
  | .client socket words => .object [("client", .object [
      ("socket", .ofOption .str socket), ("args", .strings words)])]

/-- A command line that was read. -/
def Cli.Invocation.toJson (inv : Cli.Invocation) : Value :=
  .object [("command", inv.task.toJson), ("config", .ofOption .str inv.config),
    ("quiet", .bool inv.quiet), ("verbose", .bool inv.verbose)]

/-- How a command ended. -/
def Finish.toJson (finish : Finish) : Value :=
  match finish with
  | .unspawned reason => .object [("reason", .str reason)]
  | .ended code stdout stderr overtime =>
    .object [("stdout", .str stdout), ("stderr", .str stderr),
      ("success", .bool finish.isSuccess), ("code", .ofOption .ofInt code),
      ("timed_out", .bool overtime.isSome)]

end Gatewatch
