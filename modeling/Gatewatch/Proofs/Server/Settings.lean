/-
Settings read back as they were set, and leave each other alone.

# Topics

A request to get something asks for the level or the target of the log,
or puts a question to a jail. That is its topic (`Topic.asked?`); a
request that cannot be read has none. Most requests to set something set
what some topic asks for, and answer with it (`Setting.topic?`).

# Two answers

A request to set something that succeeds is followed by requests to get
something. Those with its topic answer with the very value that it
answered with. Those with another topic, or none, answer as they did
before: the log has its level and its target side by side, the other
jails are not touched, and in the jail that was asked the change left
what the other questions ask for (`settings_read_back_as_set`). So the
answer to a request that names no jail, or cannot be read, is the same
error as before.
-/
import Gatewatch.Proofs.Jail.Answers
import Gatewatch.Proofs.Server.Addressing

namespace Gatewatch

open Json (Value)

-- ============================================================== topics

/-- The words that put a question. -/
def Jail.Query.words : Query → List String
  | idle => ["idle"]
  | paths => ["logpath"]
  | ignored => ["ignoreip"]
  | fail => ["failregex"]
  | ignore => ["ignoreregex"]
  | findTime => ["findtime"]
  | maxRetry => ["maxretry"]
  | banTime => ["bantime"]
  | useDns => ["usedns"]
  | maxLines => ["maxlines"]
  | ignoreCommand => ["ignorecommand"]
  | charset => ["logencoding"]
  | datePattern => ["datepattern"]
  | banned => ["banned"]
  | lastAction => ["addaction"]
  | tag action key => ["cinfo", action, key]
  | command role action => ["action" ++ role.text, action]

/-- The words of a question are read as this question. -/
theorem Jail.Query.read_words (name : String) (q : Query) :
    read ("get" :: name :: q.words) = .ok q := by
  cases q with
  | command role action => cases role <;> rfl
  | _ => rfl

namespace Server

/-- What can be asked for: the level and the target of the log, and what
the questions to a jail ask for. -/
inductive Topic where
  | level
  | target
  | jail (name : String) (q : Jail.Query)
deriving DecidableEq

/-- What is set: the level or the target of the log, or a jail is to be
changed. -/
inductive Setting where
  | level
  | target
  | jail (name : String) (c : Jail.Change)

/-- Reads what the words behind the name of a jail say, or else the name
is one of the two that stand for the log. -/
def readNamed? {α β : Type} (level target : α) (jail : String → β → α)
    (read : List String → Outcome β) (args : List String) : Option α :=
  match Jail.word args 1 with
  | .error _ => none
  | .ok name =>
    if name = "loglevel" then some level
    else if name = "logtarget" then some target
    else (read args).toOption.map (jail name)

/-- The topic of a request to get something, if it can be read. -/
def Topic.asked? (args : List String) : Option Topic :=
  readNamed? .level .target .jail Jail.Query.read args

/-- What a request to set something sets, if it can be read. -/
def Setting.read? (args : List String) : Option Setting :=
  readNamed? .level .target .jail Jail.Change.read args

/-- The topic that asks for what is set, if there is one. -/
def Setting.topic? : Setting → Option Topic
  | .level => some .level
  | .target => some .target
  | .jail name c => c.query?.map (.jail name)

/-- A setting has nothing to do with a topic: in its own jail, the change
has nothing to do with the question. -/
def Setting.Spares : Setting → Topic → Prop
  | .jail name c, .jail other q => other = name → c.Spares q
  | x, topic => x.topic? ≠ some topic

/-- The request that asks for a topic. -/
def Topic.request : Topic → List String
  | .level => ["get", "loglevel"]
  | .target => ["get", "logtarget"]
  | .jail name q => "get" :: name :: q.words

section Named

variable {α β : Type} {level target : α} {jail : String → β → α}
  {read : List String → Outcome β} {args : List String}

/-- What is read of a request is about the log or a jail of another
name. -/
theorem readNamed?_eq_some {a : α}
    (h : readNamed? level target jail read args = some a) :
    ∃ name, Jail.word args 1 = .ok name
      ∧ ((name = "loglevel" ∧ a = level)
        ∨ (name = "logtarget" ∧ a = target)
        ∨ name ≠ "loglevel" ∧ name ≠ "logtarget"
          ∧ ∃ b, read args = .ok b ∧ a = jail name b) := by
  unfold readNamed? at h
  cases hname : Jail.word args 1 with
  | error e => rw [hname] at h; cases h
  | ok name =>
      refine ⟨name, rfl, ?_⟩
      rw [hname] at h
      dsimp only at h
      by_cases hlevel : name = "loglevel"
      · rw [if_pos hlevel] at h
        exact .inl ⟨hlevel, (Option.some.inj h).symm⟩
      · rw [if_neg hlevel] at h
        by_cases htarget : name = "logtarget"
        · rw [if_pos htarget] at h
          exact .inr (.inl ⟨htarget, (Option.some.inj h).symm⟩)
        · rw [if_neg htarget] at h
          obtain ⟨b, hb, ha⟩ := Option.map_eq_some_iff.1 h
          refine .inr (.inr ⟨hlevel, htarget, b, ?_, ha.symm⟩)
          exact Outcome.eq_ok_of_toOption hb

end Named

/-- The request for a topic that is set has this topic. -/
theorem asked?_request {args : List String} {x : Setting} {topic : Topic}
    (hread : Setting.read? args = some x)
    (htopic : x.topic? = some topic) :
    Topic.asked? topic.request = some topic := by
  obtain ⟨name, -, h | h | h⟩ := readNamed?_eq_some hread
  · obtain ⟨-, rfl⟩ := h
    cases htopic
    rfl
  · obtain ⟨-, rfl⟩ := h
    cases htopic
    rfl
  · obtain ⟨hlevel, htarget, c, -, rfl⟩ := h
    obtain ⟨q, -, rfl⟩ := Option.map_eq_some_iff.1 htopic
    unfold Topic.asked? Topic.request readNamed?
    rw [show Jail.word ("get" :: name :: q.words) 1 = .ok name from rfl]
    dsimp only
    rw [if_neg hlevel, if_neg htarget, Jail.Query.read_words]
    rfl

-- ============================================================= answers

/-- A request to get something is about the log or about a jail. -/
theorem answerGet_eq (s : Server) (log : Log.Control)
    (args : List String) :
    s.answerGet log args =
      match Jail.word args 1 with
      | .error e => .error e
      | .ok name =>
        if name = "loglevel" then .ok (.ofNat log.level)
        else if name = "logtarget" then .ok (.str log.target.text)
        else match s.jail name with
          | .error e => .error e
          | .ok j => j.told args := by
  unfold answerGet
  cases hname : Jail.word args 1 with
  | error e => rfl
  | ok name =>
      rw [ok_bind]
      split
      case h_1 => rfl
      case h_2 => rfl
      case h_3 hlevel htarget =>
        dsimp only
        rw [if_neg hlevel, if_neg htarget]
        cases s.jail name <;> rfl

/-- Only a value is replied as one. -/
theorem replyOf_eq_ok {x : Outcome Value} {v : Value}
    (h : replyOf x = .ok v) : x = .ok v := by
  cases x with
  | error e => cases h
  | ok w =>
      injection h with _ h
      rw [h]

variable {σ : Type}

/-- A level that was set is the level of the log, and the target
stays. -/
theorem log_setLevel {args : List String} {h : Host σ} {v : Value}
    (hset : (setLevel args).result h = .ok v) :
    v = .ofNat ((setLevel args).after h).log.level
      ∧ ((setLevel args).after h).log.target = h.log.target := by
  unfold setLevel at hset ⊢
  cases hn : Jail.number args 2 "log level" readLevel with
  | error e => rw [hn] at hset; cases hset
  | ok n =>
      rw [hn] at hset
      dsimp only at hset ⊢
      rw [Work.result_get] at hset
      rw [Work.after_get]
      cases hlog : (h.log.setLevel n).value with
      | error e => rw [hlog] at hset; cases hset
      | ok log =>
          rw [hlog] at hset
          injection hset with hset
          dsimp only
          rw [Work.log_after_set]
          refine ⟨hset.symm, ?_⟩
          unfold Log.Control.setLevel at hlog
          split at hlog
          case h_1 => cases hlog
          case h_2 => injection hlog with hlog; rw [← hlog]

/-- A target that was set is the target of the log, and the level
stays. -/
theorem log_setTarget {args : List String} {h : Host σ} {v : Value}
    (hset : (setTarget args).result h = .ok v) :
    v = .str ((setTarget args).after h).log.target.text
      ∧ ((setTarget args).after h).log.level = h.log.level := by
  unfold setTarget at hset ⊢
  cases hwords : Jail.words args 2 with
  | error e => rw [hwords] at hset; cases hset
  | ok text =>
      rw [hwords] at hset
      dsimp only at hset ⊢
      rw [Work.result_get] at hset
      rw [Work.after_get]
      cases hlog : (h.log.setTarget h.files text h.syslog).value with
      | error e => rw [hlog] at hset; cases hset
      | ok opened =>
          obtain ⟨log, files⟩ := opened
          rw [hlog] at hset
          injection hset with hset
          dsimp only
          rw [Work.log_after_set]
          refine ⟨hset.symm, ?_⟩
          unfold Log.Control.setTarget at hlog
          split at hlog
          case h_1 => cases hlog
          case h_2 target htarget =>
            split at hlog
            case isTrue =>
              injection hlog with hlog
              injection hlog with hlog
              rw [← hlog]
            case isFalse =>
              split at hlog
              case h_1 => cases hlog
              case h_2 =>
                injection hlog with hlog
                injection hlog with hlog
                rw [← hlog]

variable [Shell σ]

/-- What is answered to a request to get something hangs on the server
and the log. -/
theorem reply_get (s : Server) (args : List String) (h : Host σ) :
    ((s.proceed ("get" :: args)).result h).1
      = some (replyOf (s.answerGet h.log ("get" :: args))) := by
  rw [result_proceed_get]
  rfl

/-- The log after a request to set something is the one that setting it
left. -/
theorem log_proceed_set (s : Server) (args : List String) (h : Host σ) :
    ((s.proceed ("set" :: args)).after h).log
      = ((s.carrySet ("set" :: args)).after
          (asked ("set" :: args) h)).log := by
  rw [proceed_eq_once (by simp)]
  unfold proceedOnce
  rw [Work.after_bind]
  exact keeps_replyTo Host.steady_log _ _ _

-- ========================================================== one request

section Set

variable {s t : Server} {args : List String} {h : Host σ} {x : Setting}
  {v : Value}

/-- A request that sets something of the log leaves the server as it is,
and the log as its work leaves it. -/
theorem of_carrySet_map {work : Work σ (Outcome Value)}
    (hcarry : s.carrySet args = (fun v => (v, s)) <$> work)
    (hset : (s.carrySet args).result h = (.ok v, t)) :
    work.result h = .ok v ∧ t = s
      ∧ ((s.carrySet args).after h).log = (work.after h).log := by
  rw [hcarry, Work.result_map] at hset
  injection hset with hdone hserver
  refine ⟨hdone, hserver.symm, ?_⟩
  rw [hcarry]
  rfl

/-- A request to set something that succeeds has set the level of the log,
or its target, or has changed a jail. -/
theorem carrySet_cases (hread : Setting.read? args = some x)
    (hset : (s.carrySet args).result h = (.ok v, t)) :
    let log := ((s.carrySet args).after h).log
    (x = .level ∧ t = s ∧ v = .ofNat log.level
        ∧ log.target = h.log.target)
      ∨ (x = .target ∧ t = s ∧ v = .str log.target.text
        ∧ log.level = h.log.level)
      ∨ ∃ name c j j', name ≠ "loglevel" ∧ name ≠ "logtarget"
        ∧ x = .jail name c ∧ s.jail name = .ok j
        ∧ (j.change c).result h = (.ok (), j') ∧ v = c.reply j'
        ∧ t = s.replace j' ∧ log = h.log := by
  intro log
  obtain ⟨name, hname, hx⟩ := readNamed?_eq_some hread
  have hcarry := carrySet_eq (σ := σ) s args
  rw [hname] at hcarry
  dsimp only at hcarry
  rcases hx with ⟨rfl, rfl⟩ | ⟨rfl, rfl⟩ | ⟨hlevel, htarget, c, hc, rfl⟩
  · left
    rw [if_pos rfl] at hcarry
    obtain ⟨hdone, hserver, hlog⟩ := of_carrySet_map hcarry hset
    obtain ⟨hvalue, hother⟩ := log_setLevel hdone
    rw [← hlog] at hvalue hother
    exact ⟨rfl, hserver, hvalue, hother⟩
  · right; left
    rw [if_neg (by decide), if_pos rfl] at hcarry
    obtain ⟨hdone, hserver, hlog⟩ := of_carrySet_map hcarry hset
    obtain ⟨hvalue, hother⟩ := log_setTarget hdone
    rw [← hlog] at hvalue hother
    exact ⟨rfl, hserver, hvalue, hother⟩
  · right; right
    rw [if_neg hlevel, if_neg htarget] at hcarry
    cases hj : s.jail name with
    | error e =>
        rw [hcarry, hj] at hset
        cases hset
    | ok j =>
        rw [hj] at hcarry
        dsimp only at hcarry
        have hlog : log = h.log := by
          show ((s.carrySet args).after h).log = _
          rw [hcarry]
          exact keeps_setOf Host.steady_log s j args h
        rw [hcarry] at hset
        unfold setOf at hset
        rw [hc] at hset
        dsimp only at hset
        rw [Work.result_bind] at hset
        injection hset with hset hserver
        obtain ⟨u, hdone, hvalue⟩ := Outcome.map_eq_ok.1 hset
        exact ⟨name, c, j, _, hlevel, htarget, rfl, hj, Prod.ext hdone rfl,
          hvalue.symm, hserver.symm, hlog⟩

/-- The jail that is found under a name has it. -/
theorem name_of_jail {name : String} {j : Jail}
    (hj : s.jail name = .ok j) : s.jail? name = some j ∧ j.name = name := by
  unfold jail at hj
  cases hfound : s.jail? name with
  | none => rw [hfound] at hj; cases hj
  | some k =>
      rw [hfound] at hj
      injection hj with hj
      have hname : k.name = name := by simpa using List.find?_some hfound
      exact ⟨congrArg some hj, hj ▸ hname⟩

/-- Where a jail was changed, the changed one is found under its name, and
the others under theirs. -/
theorem jail_replace {name : String} {j j' : Jail} {c : Jail.Change}
    (hj : s.jail name = .ok j) (hdone : (j.change c).result h = (.ok (), j')) :
    (s.replace j').jail name = .ok j'
      ∧ ∀ other, other ≠ name →
        (s.replace j').jail other = s.jail other := by
  obtain ⟨hfound, hname⟩ := name_of_jail hj
  have hkept : j'.name = name := by
    rw [← hname]
    exact Jail.Change.name_of_effect (Jail.effect_settings hdone)
  unfold jail
  constructor
  · rw [← hkept] at hfound ⊢
    rw [jail?_replace_self hfound]
  · intro other hother
    rw [← hkept] at hother
    rw [jail?_replace_of_ne hother]

/-- Words that ask a jail for what a change has nothing to do with are
answered as before. -/
theorem told_of_changed {j j' : Jail} {c : Jail.Change}
    (hdone : (j.change c).result h = (.ok (), j')) (hc : c.query?.isSome)
    (hspares : ∀ q, Jail.Query.read args = .ok q → c.Spares q) :
    j'.told args = j.told args := by
  unfold Jail.told
  cases hread : Jail.Query.read args with
  | error e => rfl
  | ok q =>
      have hq := hspares q hread
      rw [ok_bind, ok_bind, Jail.answer_eq_settings j' hq.bans,
        Jail.answer_eq_settings j hq.bans]
      exact Jail.answer_of_effect (Jail.effect_settings hdone) hc hq

/-- What was set is what is answered. -/
theorem answerGet_set (hread : Setting.read? args = some x)
    (hset : (s.carrySet args).result h = (.ok v, t)) {topic : Topic}
    (htopic : x.topic? = some topic) {asked : List String}
    (hasked : Topic.asked? asked = some topic) :
    t.answerGet ((s.carrySet args).after h).log asked = .ok v := by
  obtain ⟨name, hname, hwords⟩ := readNamed?_eq_some hasked
  rw [answerGet_eq, hname]
  dsimp only
  rcases carrySet_cases hread hset with ⟨rfl, rfl, rfl, -⟩
    | ⟨rfl, rfl, rfl, -⟩
    | ⟨of, c, j, j', -, -, rfl, hj, hdone, rfl, rfl, -⟩
  · cases htopic
    rcases hwords with ⟨rfl, -⟩ | ⟨-, h⟩ | ⟨-, -, q, -, h⟩
    · rw [if_pos rfl]
    · cases h
    · cases h
  · cases htopic
    rcases hwords with ⟨-, h⟩ | ⟨rfl, -⟩ | ⟨-, -, q, -, h⟩
    · cases h
    · rw [if_neg (by decide), if_pos rfl]
    · cases h
  · obtain ⟨q, hq, rfl⟩ := Option.map_eq_some_iff.1 htopic
    rcases hwords with ⟨-, h⟩ | ⟨-, h⟩ | ⟨hlevel, htarget, q', hq', h⟩
    · cases h
    · cases h
    · injection h with hof hsame
      rw [if_neg hlevel, if_neg htarget, ← hof,
        (jail_replace hj hdone).1]
      dsimp only
      unfold Jail.told
      rw [hq', ok_bind, ← hsame]
      exact Jail.answer_of_changed hdone hq

/-- What has nothing to do with what was set is answered as before. -/
theorem answerGet_spared (hread : Setting.read? args = some x)
    (hset : (s.carrySet args).result h = (.ok v, t)) {topic : Topic}
    (htopic : x.topic? = some topic) {asked : List String}
    (hspares : ∀ other, Topic.asked? asked = some other → x.Spares other) :
    t.answerGet ((s.carrySet args).after h).log asked
      = s.answerGet h.log asked := by
  rw [answerGet_eq, answerGet_eq]
  unfold Topic.asked? readNamed? at hspares
  cases hname : Jail.word asked 1 with
  | error e => rfl
  | ok name =>
      rw [hname] at hspares
      dsimp only at hspares ⊢
      rcases carrySet_cases hread hset with ⟨rfl, rfl, -, hlog⟩
        | ⟨rfl, rfl, -, hlog⟩
        | ⟨of, c, j, j', -, -, rfl, hj, hdone, -, rfl, hlog⟩
      · by_cases hlevel : name = "loglevel"
        · rw [if_pos hlevel] at hspares
          exact absurd rfl (hspares .level rfl)
        · rw [if_neg hlevel, if_neg hlevel, hlog]
      · by_cases hlevel : name = "loglevel"
        · rw [if_pos hlevel, if_pos hlevel, hlog]
        · rw [if_neg hlevel, if_neg hlevel]
          by_cases htarget : name = "logtarget"
          · rw [if_neg hlevel, if_pos htarget] at hspares
            exact absurd rfl (hspares .target rfl)
          · rw [if_neg htarget, if_neg htarget]
      · rw [hlog]
        by_cases hlevel : name = "loglevel"
        · rw [if_pos hlevel, if_pos hlevel]
        · rw [if_neg hlevel, if_neg hlevel]
          rw [if_neg hlevel] at hspares
          by_cases htarget : name = "logtarget"
          · rw [if_pos htarget, if_pos htarget]
          · -- of the jails, only the changed one could answer otherwise
            rw [if_neg htarget, if_neg htarget]
            rw [if_neg htarget] at hspares
            by_cases hsame : name = of
            · obtain ⟨q, hq, -⟩ := Option.map_eq_some_iff.1 htopic
              rw [hsame, (jail_replace hj hdone).1, hj]
              apply told_of_changed hdone (by rw [hq]; rfl)
              intro q' hq'
              exact hspares (.jail name q') (by rw [hq']; rfl) hsame
            · rw [(jail_replace hj hdone).2 name hsame]

end Set

-- =========================================================== read back

/-- A request to set something that succeeds, and sets what some topic
asks for, is read back: requests with this topic answer exactly with the
value that it answered with, and there is one. All other requests to get
something answer as they did before, except those for the bans of the
jail that was changed and those about an action that was just added. -/
theorem settings_read_back_as_set (s : Server) (more : List String)
    (h : Host σ) {x : Setting} {topic : Topic} {v : Value} {t : Server}
    (hread : Setting.read? ("set" :: more) = some x)
    (htopic : x.topic? = some topic)
    (hset : (s.proceed ("set" :: more)).result h = (some (.ok v), t)) :
    let h' := (s.proceed ("set" :: more)).after h
    ((t.proceed topic.request).result h').1 = some (.ok v)
      ∧ (∀ asked, Topic.asked? ("get" :: asked) = some topic →
          ((t.proceed ("get" :: asked)).result h').1 = some (.ok v))
      ∧ ∀ asked, (∀ other, Topic.asked? ("get" :: asked) = some other →
            x.Spares other) →
          ((t.proceed ("get" :: asked)).result h').1
            = ((s.proceed ("get" :: asked)).result h).1 := by
  intro h'
  have hlog : h'.log = ((s.carrySet ("set" :: more)).after
      (Server.asked ("set" :: more) h)).log := log_proceed_set s more h
  rw [result_proceed_set] at hset
  injection hset with hreply hserver
  injection hreply with hreply
  have hcarry : (s.carrySet ("set" :: more)).result
      (Server.asked ("set" :: more) h) = (.ok v, t) :=
    Prod.ext (replyOf_eq_ok hreply) hserver
  have hsame : ∀ asked,
      Topic.asked? ("get" :: asked) = some topic →
        ((t.proceed ("get" :: asked)).result h').1 = some (.ok v) := by
    intro asked hasked
    rw [reply_get, hlog, answerGet_set hread hcarry htopic hasked]
    rfl
  refine ⟨?_, hsame, ?_⟩
  · have hrequest : ∃ words, topic.request = "get" :: words := by
      cases topic <;> exact ⟨_, rfl⟩
    obtain ⟨words, hwords⟩ := hrequest
    have hasked := asked?_request hread htopic
    rw [hwords] at hasked ⊢
    exact hsame words hasked
  · intro asked hspares
    rw [reply_get, reply_get, hlog,
      answerGet_spared hread hcarry htopic hspares]
    rfl

/-- A request to set something answers with a value, a request to get it
answers with the same then, and another one answers as before. -/
def ReadsBack (s : Server) (h : Host Script) (args asked other : List String)
    (v : Value) : Prop :=
  let t := ((s.proceed ("set" :: args)).result h).2
  let h' := (s.proceed ("set" :: args)).after h
  ((s.proceed ("set" :: args)).result h).1 = some (.ok v)
    ∧ ((t.proceed ("get" :: asked)).result h').1 = some (.ok v)
    ∧ ((t.proceed ("get" :: other)).result h').1
      = ((s.proceed ("get" :: other)).result h).1

/-- The jail has an action. -/
def oneAction : Server :=
  ((oneJail.proceed ["set", "ssh", "addaction", "fw"]).result noRetries).2

/-- A network to ignore is read back with its mask applied, and the
failure patterns are what they were. So are a ban time, a log, a level of
the log, and a tag and a command of an action. -/
theorem ignored_network_reads_back :
    ReadsBack oneJail noRetries ["ssh", "addignoreip", "10.1.2.3/8"]
        ["ssh", "ignoreip"] ["ssh", "failregex"] (.strings ["10.0.0.0/8"])
      ∧ ReadsBack oneJail noRetries ["ssh", "bantime", "-1"]
        ["ssh", "bantime"] ["ssh", "findtime"] (.ofInt (-1))
      ∧ ReadsBack oneJail noRetries ["ssh", "addlogpath", "jails.yaml"]
        ["ssh", "logpath"] ["loglevel"] (.strings ["jails.yaml"])
      ∧ ReadsBack oneJail noRetries ["loglevel", "4"]
        ["loglevel"] ["logtarget"] (.ofInt 4)
      ∧ ReadsBack oneAction noRetries ["ssh", "setcinfo", "fw", "port", "22"]
        ["ssh", "cinfo", "fw", "port"] ["ssh", "usedns"] (.str "22")
      ∧ ReadsBack oneAction noRetries
        ["ssh", "actionban", "fw", "block <ip> <port>"]
        ["ssh", "actionban", "fw"] ["ssh", "actionunban", "fw"]
        (.str "block <ip> <port>") := by
  have hback : ∀ {s : Server} {h : Host Script} {args : List String}
      {asked other : List String} {x : Setting} {topic spared : Topic}
      {v : Value}, Setting.read? ("set" :: args) = some x →
      x.topic? = some topic →
      ((s.proceed ("set" :: args)).result h).1 = some (.ok v) →
      Topic.asked? ("get" :: asked) = some topic →
      Topic.asked? ("get" :: other) = some spared → x.Spares spared →
      ReadsBack s h args asked other v := by
    intro s h args asked other x topic spared v hread htopic hset hasked
      hother hspares
    obtain ⟨-, hread_back, hspared⟩ :=
      settings_read_back_as_set s args h hread htopic (Prod.ext hset rfl)
    refine ⟨hset, hread_back asked hasked, hspared other ?_⟩
    rw [hother]
    rintro _ ⟨⟩
    exact hspares
  refine ⟨?_, ?_, ?_, ?_, ?_, ?_⟩
  · exact hback rfl rfl (by rfl) rfl rfl
      fun _ => ⟨by decide, by decide, nofun⟩
  · exact hback rfl rfl (by rfl) rfl rfl
      fun _ => ⟨by decide, by decide, nofun⟩
  · exact hback rfl rfl (by rfl) rfl rfl fun h => nomatch h
  · exact hback rfl rfl (by rfl) rfl rfl fun h => nomatch h
  · exact hback rfl rfl (by rfl) rfl rfl
      fun _ => ⟨by decide, by decide, nofun⟩
  · exact hback rfl rfl (by rfl) rfl rfl
      fun _ => ⟨by decide, by decide, nofun⟩

end Server

end Gatewatch
