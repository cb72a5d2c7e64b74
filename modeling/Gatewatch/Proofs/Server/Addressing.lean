/-
Requests that name a jail, and whether they reach it.

The second word of a request to set or to get something is the name of a
jail, or one of two words that stand for the log of the whole process.
The two words are looked for first. Adding a jail and checking a
configuration look for one reserved name only, which is neither of the
two, so a jail can be made that has one of them for its name.

A jail is addressed when requests with its name do what the jail makes of
them and touch nothing else (`Addressed`). Every jail of a server is,
unless its name is one of the two words, and then it is not
(`addressed_iff`): what is asked of it is asked of the log.
-/
import Gatewatch.Proofs.Jail.Changes
import Gatewatch.Proofs.Server.Registry
import Gatewatch.Proofs.Server.Reload

namespace Gatewatch

open Json (Value)

-- =============================================================== jails

/-- A change leaves the name. -/
theorem Jail.Change.name_of_effect {c : Change} {s t : Settings}
    (h : c.effect s = .ok t) : t.name = s.name := by
  cases c with
  | idle on | addIgnored entry | removeIgnored entry | addPath path tail
  | removePath path | findTime secs | maxRetry n | banTime secs
  | useDns mode | maxLines n | ignoreCommand command | ban source
  | unban source | removeAction name =>
      injection h with h
      rw [← h]
  | addFail pattern | removeFail index | addIgnore pattern
  | removeIgnore index | charset label | datePattern pattern
  | setTag action key value | eraseTag action key
  | setCommand role action template =>
      obtain ⟨_, -, rfl⟩ := Outcome.map_eq_ok.1 h
      rfl
  | addAction name =>
      unfold effect at h
      dsimp only at h
      split at h
      case isTrue => cases h
      case isFalse => injection h with h; rw [← h]

-- ============================================================= replies

variable {σ : Type}

namespace Server

/-- The reply that tells an outcome. -/
def replyOf : Outcome Value → Wire.Reply
  | .ok v => .ok v
  | .error e => .error e.message

/-- Outcomes are replied to with what they tell. -/
theorem result_replyTo (args : List String) (x : Outcome Value)
    (h : Host σ) :
    (replyTo args (Reaction.ofOutcome id x)).result h
      = some (replyOf x) := by
  cases x <;> rfl

/-- To reply leaves what notes do not touch. -/
theorem keeps_replyTo {γ : Type} {part : Host σ → γ}
    (hpart : Host.Steady part) (args : List String) (x : Reaction) :
    (replyTo args x : Work σ _).Keeps part := by
  cases x with
  | answer v => exact Work.Keeps.pure _
  | refusal e =>
      exact Work.Keeps.bind (Work.Keeps.note hpart _ _)
        fun _ => Work.Keeps.pure _
  | abort => exact Work.Keeps.pure _

end Server

variable {σ : Type} [Shell σ]

/-- What a jail makes of a request to set something, in some surroundings:
the answer and the jail after it. -/
def Jail.obeyed (j : Jail) (args : List String) (h : Host σ) :
    Outcome (Value × Jail) := do
  let change ← Change.read args
  let (done, j) := (j.change change).result h
  done.map fun _ => (change.reply j, j)

/-- What a jail answers to a request to get something. -/
def Jail.told (j : Jail) (args : List String) : Outcome Value := do
  j.answer (← Query.read args)

/-- A jail that obeys makes the change that was read. -/
theorem Jail.of_obeyed {j j' : Jail} {args : List String} {h : Host σ}
    {v : Value} (hdone : j.obeyed args h = .ok (v, j')) :
    ∃ c, Change.read args = .ok c
      ∧ (j.change c).result h = (.ok (), j') := by
  obtain ⟨c, hread, hdone⟩ := Outcome.bind_eq_ok.1 hdone
  obtain ⟨u, hu, hpair⟩ := Outcome.map_eq_ok.1 hdone
  injection hpair with _ hj
  exact ⟨c, hread, Prod.ext hu hj⟩

/-- A jail that obeys keeps its name. -/
theorem Jail.name_of_obeyed {j j' : Jail} {args : List String} {h : Host σ}
    {v : Value} (hdone : j.obeyed args h = .ok (v, j')) :
    j'.name = j.name := by
  obtain ⟨c, -, hchange⟩ := of_obeyed hdone
  exact Change.name_of_effect (effect_settings hchange)

namespace Server

-- ============================================================ requests

/-- A request to set something of a jail, and the server after it. -/
def setOf (s : Server) (j : Jail) (args : List String) :
    Work σ (Outcome Value × Server) := do
  match Jail.Change.read args with
  | .error e => return (.error e, s)
  | .ok change =>
    let (done, j) ← j.change change
    return (done.map fun _ => change.reply j, s.replace j)

/-- A request to set something is about the log or about a jail. -/
theorem carrySet_eq (s : Server) (args : List String) :
    (s.carrySet args : Work σ _) =
      match Jail.word args 1 with
      | .error e => pure (.error e, s)
      | .ok name =>
        if name = "loglevel" then (·, s) <$> setLevel args
        else if name = "logtarget" then (·, s) <$> setTarget args
        else match s.jail name with
          | .error e => pure (.error e, s)
          | .ok j => s.setOf j args := by
  unfold carrySet
  split
  case h_1 hname => rw [hname]
  case h_2 hname => rw [hname]; rfl
  case h_3 hname => rw [hname]; rfl
  case h_4 name hlevel htarget hname =>
    rw [hname]
    dsimp only
    rw [if_neg hlevel, if_neg htarget]
    rfl

/-- The server after a jail made something of a request. -/
def place (s : Server) : Outcome (Value × Jail) → Server
  | .ok (_, j) => s.replace j
  | .error _ => s

/-- What is set of a jail is what the jail makes of it. One that refuses
goes back to its place as it was. -/
theorem result_setOf {s : Server} {j : Jail} (hj : s.jail j.name = .ok j)
    (args : List String) (h : Host σ) :
    (s.setOf j args).result h
      = ((j.obeyed args h).map Prod.fst, s.place (j.obeyed args h)) := by
  unfold setOf Jail.obeyed
  cases Jail.Change.read args with
  | error e => rfl
  | ok c =>
      have hrefused : ∀ e, ((j.change c).result h).1 = .error e →
          s.replace ((j.change c).result h).2 = s := by
        intro e he
        rw [Jail.change_refused he]
        exact replace_self hj
      dsimp only
      rw [Work.result_bind, ok_bind]
      generalize (j.change c).result h = changed at hrefused ⊢
      obtain ⟨_ | u, k⟩ := changed
      · exact Prod.ext rfl (hrefused _ rfl)
      · rfl

/-- A request that is read is noted, carried out and replied to. -/
theorem result_proceedOnce {args : List String} {r : Request}
    (hread : Request.read args = .ok r) (s : Server) (h : Host σ) :
    (s.proceedOnce args).result h
      = ((replyTo args ((s.carryOut args r).result (asked args h)).1).result
          ((s.carryOut args r).after (asked args h)),
        ((s.carryOut args r).result (asked args h)).2) := by
  unfold proceedOnce
  rw [Work.result_bind, hread]
  rfl

/-- A request that cannot be read is refused. -/
theorem result_proceedOnce_error {args : List String} {e : Error}
    (hread : Request.read args = .error e) (s : Server) (h : Host σ) :
    (s.proceedOnce args).result h = (some (.error e.message), s) := by
  unfold proceedOnce
  rw [Work.result_bind, hread]
  rfl

/-- A request leaves of what notes do not touch what carrying it out
leaves. -/
theorem keeps_proceedOnce {γ : Type} {part : Host σ → γ}
    (hpart : Host.Steady part) {args : List String} {r : Request}
    (hread : Request.read args = .ok r) {s : Server}
    (hcarry : (s.carryOut args r : Work σ _).Keeps part) :
    (s.proceedOnce args : Work σ _).Keeps part := by
  unfold proceedOnce
  rw [hread]
  exact Work.Keeps.bind (Work.Keeps.note hpart _ _) fun _ =>
    Work.Keeps.bind hcarry fun _ =>
      Work.Keeps.bind (keeps_replyTo hpart _ _) fun _ =>
        Work.Keeps.pure _

/-- A request to set something, as it is replied to. -/
theorem result_proceed_set (s : Server) (more : List String)
    (h : Host σ) :
    (s.proceed ("set" :: more)).result h
      = (some (replyOf ((s.carrySet ("set" :: more)).result
          (asked ("set" :: more) h)).1),
        ((s.carrySet ("set" :: more)).result
          (asked ("set" :: more) h)).2) := by
  rw [proceed_eq_once (by simp), result_proceedOnce (r := .set) rfl]
  exact Prod.ext (result_replyTo _ _ _) rfl

/-- A request to get something, as it is replied to. -/
theorem result_proceed_get (s : Server) (more : List String)
    (h : Host σ) :
    (s.proceed ("get" :: more)).result h
      = (some (replyOf (s.answerGet (asked ("get" :: more) h).log
          ("get" :: more))), s) := by
  rw [proceed_eq_once (by simp), result_proceedOnce (r := .get) rfl]
  exact Prod.ext (result_replyTo _ _ _) rfl

-- ========================================================= addressing

/-- A request is served by a jail: it is replied to so, and afterwards the
jail of the name is this one. All other jails and what else the server
keeps are as before, and so are the level and the target of the log. -/
structure Served (s : Server) (name : String) (args : List String)
    (h : Host σ) (reply : Wire.Reply) (j : Jail) : Prop where
  reply : ((s.proceed args).result h).1 = some reply
  jail : ((s.proceed args).result h).2.jail? name = some j
  others : ∀ other, other ≠ name →
    ((s.proceed args).result h).2.jail? other = s.jail? other
  rest : ((s.proceed args).result h).2.cleared = s.cleared
  log : ((s.proceed args).after h).log = h.log

/-- A jail is addressed by its name: requests to set and to get something
are served by it, and a time window that was set is the one that is
answered from then on. -/
structure Addressed (s : Server) (j : Jail) (h : Host σ) : Prop where
  set : ∀ more, let args := "set" :: j.name :: more
    let x := j.obeyed args (asked args h)
    Served s j.name args h (replyOf (x.map Prod.fst))
      ((x.map Prod.snd).toOption.getD j)
  get : ∀ more, let args := "get" :: j.name :: more
    Served s j.name args h (replyOf (j.told args)) j
  findTime : ∀ text more reply t,
    (s.proceed ("set" :: j.name :: "findtime" :: text :: more)).result h
      = (some reply, t) → reply.isOk →
    ∃ secs, Jail.readSeconds text.toList = some secs
      ∧ ∀ h' : Host σ, ((t.proceed ["get", j.name, "findtime"]).result h').1
        = some (.ok (.ofInt secs))

section Reached

variable {s : Server} {j : Jail}

/-- The jail that is found under a name. -/
theorem jail_eq_ok (hj : s.jail? j.name = some j) :
    s.jail j.name = .ok j := by
  unfold jail
  rw [hj]

/-- Requests to set something reach a jail of another name than the two
of the log. -/
theorem carrySet_eq_setOf (hj : s.jail? j.name = some j)
    (hlevel : j.name ≠ "loglevel") (htarget : j.name ≠ "logtarget")
    (more : List String) :
    (s.carrySet ("set" :: j.name :: more) : Work σ _)
      = s.setOf j ("set" :: j.name :: more) := by
  have hword : Jail.word ("set" :: j.name :: more) 1 = .ok j.name := rfl
  rw [carrySet_eq, hword]
  dsimp only
  rw [if_neg hlevel, if_neg htarget, jail_eq_ok hj]

/-- Requests to get something reach such a jail too. -/
theorem answerGet_eq_told (hj : s.jail? j.name = some j)
    (hlevel : j.name ≠ "loglevel") (htarget : j.name ≠ "logtarget")
    (log : Log.Control) (more : List String) :
    s.answerGet log ("get" :: j.name :: more)
      = j.told ("get" :: j.name :: more) := by
  have hword : Jail.word ("get" :: j.name :: more) 1 = .ok j.name := rfl
  unfold answerGet
  rw [hword, ok_bind]
  split
  case h_1 heq => exact absurd heq hlevel
  case h_2 heq => exact absurd heq htarget
  case h_3 => rw [jail_eq_ok hj, ok_bind]; rfl

/-- What a jail makes of a request to set something leaves what notes and
commands do not touch. -/
theorem keeps_setOf {γ : Type} {part : Host σ → γ}
    (hpart : Host.Steady part) (s : Server) (j : Jail)
    (args : List String) : (s.setOf j args : Work σ _).Keeps part := by
  unfold setOf
  split
  case h_1 => exact Work.Keeps.pure _
  case h_2 =>
    exact Work.Keeps.bind (j.keeps_change hpart _)
      fun _ => Work.Keeps.pure _

/-- A request to set something of such a jail leaves it, too. -/
theorem keeps_proceed_set {γ : Type} {part : Host σ → γ}
    (hpart : Host.Steady part) (hj : s.jail? j.name = some j)
    (hlevel : j.name ≠ "loglevel") (htarget : j.name ≠ "logtarget")
    (more : List String) :
    (s.proceed ("set" :: j.name :: more) : Work σ _).Keeps part := by
  rw [proceed_eq_once (by simp)]
  refine keeps_proceedOnce hpart (r := .set) rfl ?_
  refine Work.Keeps.bind ?_ fun _ => Work.Keeps.pure _
  rw [carrySet_eq_setOf hj hlevel htarget]
  exact keeps_setOf hpart s j _

/-- The jail that obeyed is found under its name. -/
theorem jail?_place (hj : s.jail? j.name = some j) {args : List String}
    {h : Host σ} :
    (s.place (j.obeyed args h)).jail? j.name
      = some (((j.obeyed args h).map Prod.snd).toOption.getD j) := by
  cases hx : j.obeyed args h with
  | error e => exact hj
  | ok x =>
      have hname := Jail.name_of_obeyed hx
      rw [← hname] at hj ⊢
      exact jail?_replace_self hj

/-- The others are found as before. -/
theorem jail?_place_of_ne {args : List String} {h : Host σ}
    {other : String} (hother : other ≠ j.name) :
    (s.place (j.obeyed args h)).jail? other = s.jail? other := by
  cases hx : j.obeyed args h with
  | error e => rfl
  | ok x =>
      rw [← Jail.name_of_obeyed hx] at hother
      exact jail?_replace_of_ne hother

/-- A request to set something, as such a jail replies to it, and the
server after it. -/
theorem result_proceed_obeyed (hj : s.jail? j.name = some j)
    (hlevel : j.name ≠ "loglevel") (htarget : j.name ≠ "logtarget")
    (more : List String) (h : Host σ) :
    let args := "set" :: j.name :: more
    (s.proceed args).result h
      = (some (replyOf ((j.obeyed args (asked args h)).map Prod.fst)),
        s.place (j.obeyed args (asked args h))) := by
  intro args
  rw [result_proceed_set, carrySet_eq_setOf hj hlevel htarget,
    result_setOf (jail_eq_ok hj)]

/-- Such a jail serves requests to set something. -/
theorem served_set (hj : s.jail? j.name = some j)
    (hlevel : j.name ≠ "loglevel") (htarget : j.name ≠ "logtarget")
    (more : List String) (h : Host σ) :
    let args := "set" :: j.name :: more
    let x := j.obeyed args (asked args h)
    Served s j.name args h (replyOf (x.map Prod.fst))
      ((x.map Prod.snd).toOption.getD j) := by
  intro args x
  have hresult : (s.proceed args).result h
      = (some (replyOf (x.map Prod.fst)), s.place x) :=
    result_proceed_obeyed hj hlevel htarget more h
  have hlog : (s.proceed args : Work σ _).Keeps Host.log :=
    keeps_proceed_set Host.steady_log hj hlevel htarget more
  exact
    { reply := by rw [hresult]
      jail := by rw [hresult]; exact jail?_place hj
      others := by rw [hresult]; exact fun _ => jail?_place_of_ne
      rest := by rw [hresult]; cases x <;> rfl
      log := hlog h }

/-- A request to get something, as such a jail replies to it. -/
theorem result_proceed_told (hj : s.jail? j.name = some j)
    (hlevel : j.name ≠ "loglevel") (htarget : j.name ≠ "logtarget")
    (more : List String) (h : Host σ) :
    (s.proceed ("get" :: j.name :: more)).result h
      = (some (replyOf (j.told ("get" :: j.name :: more))), s) := by
  rw [result_proceed_get, answerGet_eq_told hj hlevel htarget]

/-- Such a jail serves requests to get something. -/
theorem served_get (hj : s.jail? j.name = some j)
    (hlevel : j.name ≠ "loglevel") (htarget : j.name ≠ "logtarget")
    (more : List String) (h : Host σ) :
    let args := "get" :: j.name :: more
    Served s j.name args h (replyOf (j.told args)) j := by
  intro args
  have hresult := result_proceed_told hj hlevel htarget more h
  have hlog : (s.proceed args : Work σ _).Keeps Host.log := by
    rw [proceed_eq_once (by simp [args])]
    exact keeps_proceedOnce Host.steady_log (r := .get) rfl fun _ => rfl
  exact
    { reply := by rw [hresult]
      jail := by rw [hresult]; exact hj
      others := by rw [hresult]; exact fun _ _ => rfl
      rest := by rw [hresult]
      log := hlog h }

/-- A time window is set to the number that was written. -/
theorem readSeconds_of_obeyed {name text : String} {more : List String}
    {h : Host σ} {v : Value} {j' : Jail}
    (hdone : j.obeyed ("set" :: name :: "findtime" :: text :: more) h
      = .ok (v, j')) :
    Jail.readSeconds text.toList = some j'.filter.table.findTime := by
  obtain ⟨c, hc, hk⟩ := Jail.of_obeyed hdone
  have hread : Jail.Change.read
      ("set" :: name :: "findtime" :: text :: more)
      = (Jail.number ("set" :: name :: "findtime" :: text :: more) 3
          "find time" Jail.readSeconds >>= fun secs =>
        if secs ≤ 0 then .error .badFindTime
        else .ok (Jail.Change.findTime secs)) := rfl
  rw [hread] at hc
  obtain ⟨secs, hsecs, hc⟩ := Outcome.bind_eq_ok.1 hc
  split at hc
  case isTrue => cases hc
  case isFalse =>
    injection hc with hc
    rw [← hc] at hk
    have heffect := Jail.effect_settings hk
    injection heffect with heffect
    have hwindow := congrArg Jail.Settings.findTime heffect
    obtain ⟨word, hword, hnumber⟩ := Jail.number_eq_ok_iff.1 hsecs
    injection hword with hword
    rw [hword, hnumber]
    exact congrArg some hwindow

/-- A jail of another name than the two of the log is addressed. -/
theorem addressed_of_name (hj : s.jail? j.name = some j)
    (hlevel : j.name ≠ "loglevel") (htarget : j.name ≠ "logtarget")
    (h : Host σ) : Addressed s j h where
  set more := served_set hj hlevel htarget more h
  get more := served_get hj hlevel htarget more h
  findTime := by
    intro text more reply t hresult hok
    have hset := served_set hj hlevel htarget ("findtime" :: text :: more) h
    dsimp only at hset
    have hreply := hset.reply
    have hjail := hset.jail
    rw [hresult] at hreply hjail
    injection hreply with hreply
    cases hx : j.obeyed ("set" :: j.name :: "findtime" :: text :: more)
        (asked ("set" :: j.name :: "findtime" :: text :: more) h) with
    | error e =>
        rw [hx] at hreply
        rw [hreply] at hok
        cases hok
    | ok x =>
        obtain ⟨v, j'⟩ := x
        rw [hx] at hjail
        have hname := Jail.name_of_obeyed hx
        refine ⟨_, readSeconds_of_obeyed hx, fun h' => ?_⟩
        rw [← hname] at hjail hlevel htarget ⊢
        rw [result_proceed_told hjail hlevel htarget]
        rfl

/-- A jail is addressed by its name exactly when its name is none of the
two words that stand for the log. -/
theorem addressed_iff (hj : s.jail? j.name = some j) (h : Host σ) :
    Addressed s j h ↔ j.name ≠ "loglevel" ∧ j.name ≠ "logtarget" := by
  constructor
  · -- the log answers whether the jail is idle with its level or target
    intro haddressed
    have hget := (haddressed.get ["idle"]).reply
    rw [result_proceed_get] at hget
    constructor
    · intro hlevel
      rw [hlevel] at hget
      injection hget with hget
      cases hget
    · intro htarget
      rw [htarget] at hget
      injection hget with hget
      cases hget
  · exact fun ⟨hlevel, htarget⟩ => addressed_of_name hj hlevel htarget h

end Reached

-- ======================================================== two instances

/-- The jail that was started is addressed. -/
theorem ssh_is_addressed :
    ∃ j, oneJail.jail? "ssh" = some j ∧ Addressed oneJail j noRetries := by
  have hfound : (oneJail.jail? "ssh").isSome := by decide +kernel
  obtain ⟨j, hj⟩ := Option.isSome_iff_exists.1 hfound
  have hname : j.name = "ssh" := by simpa using List.find?_some hj
  refine ⟨j, hj, (addressed_iff (hname ▸ hj) noRetries).2 ?_⟩
  rw [hname]
  decide

/-- A server with one jail, added by a name. -/
def named (name : String) : Server :=
  ((({} : Server).proceed ["add", name, "polling"]).result noRetries).2

/-- The two words of the log are accepted as names of jails, by a
configuration and by a server. But the time window of the one jail cannot
be set or asked for, and to set that of the other moves the log into a
file. -/
theorem words_of_log_name_jails :
    (Config.check { jails := [{ name := "loglevel" },
        { name := "logtarget" }] }).isOk
      ∧ (named "loglevel").names = ["loglevel"]
      ∧ (named "logtarget").names = ["logtarget"]
      ∧ (((named "loglevel").proceed
          ["set", "loglevel", "findtime", "1200"]).result
            noRetries).1.map Wire.Reply.code = some 1
      ∧ (((named "loglevel").proceed
          ["get", "loglevel", "findtime"]).result
            noRetries).1.map (fun r => (r.code, r.value.text))
        = some (0, "3")
      ∧ (((named "logtarget").proceed
          ["set", "logtarget", "findtime", "1200"]).after
            noRetries).log.target.text = "findtime 1200" := by
  decide +kernel

end Server

end Gatewatch
