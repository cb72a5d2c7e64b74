/-
What requests come to: whether they are answered, and what a refusal
leaves behind.

# Answers

Every request is answered with code 0 or 1 but one: to wait for longer
than can be told in 64 bits of seconds (`EndlessWait`). What else could
end a request without an answer is guarded where it is done: words are
only taken from an index within the request, a pattern is only removed
at an index within its list, and a wait that is not finite or negative
is refused before it is told in seconds (`Guarded`).

A reload carries out requests of its own, and is answered too, because
none of them waits.

# Refusals

A request that is refused has done nothing but leave notes. The server
was kept by every handler, as told before; here it is the surroundings:
no command was run, and the level and the target of the log are what
they were.
-/
import Gatewatch.Proofs.Config.Requests
import Gatewatch.Proofs.Server.Addressing

namespace Gatewatch.Server

open Json (Value)

variable {σ : Type}

-- ============================================================= replies

/-- There is no reply to what was aborted, and to nothing else. -/
theorem replyTo_none_iff {args : List String} {x : Reaction}
    {h : Host σ} :
    (replyTo args x).result h = none ↔ x = .abort := by
  cases x with
  | answer v => exact ⟨nofun, nofun⟩
  | refusal e => exact ⟨nofun, nofun⟩
  | abort => exact ⟨fun _ => rfl, fun _ => rfl⟩

/-- Replies have code 0 or 1. -/
theorem code_of_replyTo {args : List String} {x : Reaction} {h : Host σ}
    {reply : Wire.Reply} (hreply : (replyTo args x).result h = some reply) :
    reply.code = 0 ∨ reply.code = 1 := by
  cases x with
  | answer v => injection hreply with hreply; exact .inl (hreply ▸ rfl)
  | refusal e => injection hreply with hreply; exact .inr (hreply ▸ rfl)
  | abort => cases hreply

/-- A batch that comes to an end without an outcome has met a request
without a reply. -/
theorem batch_none
    {one : Server → List String → Work σ (Option Wire.Reply × Server)}
    {requests : List (List String)} {s : Server} {h : Host σ}
    (hnone : ((batch one requests s).result h).1 = none) :
    ∃ args ∈ requests, ∃ u h', ((one u args).result h').1 = none := by
  induction requests generalizing s h with
  | nil => cases hnone
  | cons args rest ih =>
      unfold batch at hnone
      rw [Work.result_bind] at hnone
      rcases hone : (one s args).result h with ⟨_ | reply, u⟩
      · exact ⟨args, List.mem_cons_self, s, h, by rw [hone]⟩
      · rw [hone] at hnone
        dsimp only at hnone
        cases hok : reply.isOk with
        | false => rw [hok] at hnone; cases hnone
        | true =>
            rw [hok] at hnone
            obtain ⟨args', hmem, hargs'⟩ := ih hnone
            exact ⟨args', List.mem_cons_of_mem args hmem, hargs'⟩

-- ============================================================ refusals

/-- A level of the log that is refused leaves only notes. -/
theorem onlyNotes_setLevel {args : List String} {h : Host σ} {e : Error}
    (he : (setLevel args).result h = .error e) :
    (setLevel args).OnlyNotes h := by
  unfold setLevel at he ⊢
  cases hlevel : Jail.number args 2 "log level" readLevel with
  | error e => exact Work.OnlyNotes.pure _ h
  | ok n =>
      rw [hlevel] at he
      dsimp only at he ⊢
      rw [Work.result_get] at he
      refine Work.OnlyNotes.get ?_
      cases hset : (h.log.setLevel n).value with
      | error e => exact Work.OnlyNotes.pure _ h
      | ok log => rw [hset] at he; cases he

/-- A target of the log that is refused leaves only notes. -/
theorem onlyNotes_setTarget {args : List String} {h : Host σ} {e : Error}
    (he : (setTarget args).result h = .error e) :
    (setTarget args).OnlyNotes h := by
  unfold setTarget at he ⊢
  cases htarget : Jail.words args 2 with
  | error e => exact Work.OnlyNotes.pure _ h
  | ok target =>
      rw [htarget] at he
      dsimp only at he ⊢
      rw [Work.result_get] at he
      refine Work.OnlyNotes.get ?_
      cases hset : (h.log.setTarget h.files target h.syslog).value with
      | error e => exact Work.OnlyNotes.pure _ h
      | ok opened => rw [hset] at he; cases he

variable [Shell σ]

/-- A request to set something of a jail leaves only notes when it
fails. -/
theorem onlyNotes_setOf {s : Server} {j : Jail} {args : List String}
    {h : Host σ} {e : Error}
    (he : ((s.setOf j args).result h).1 = .error e) :
    (s.setOf j args).OnlyNotes h := by
  unfold setOf at he ⊢
  cases hread : Jail.Change.read args with
  | error e => exact Work.OnlyNotes.pure _ h
  | ok c =>
      rw [hread] at he
      have hrefused := Outcome.map_eq_error.1 he
      exact Work.OnlyNotes.bind (Jail.onlyNotes_refused hrefused)
        (Work.OnlyNotes.pure _ _)

/-- A request to set something leaves only notes when it fails. -/
theorem onlyNotes_carrySet {s : Server} {args : List String}
    {h : Host σ} {e : Error}
    (he : ((s.carrySet args).result h).1 = .error e) :
    (s.carrySet args).OnlyNotes h := by
  rw [carrySet_eq] at he ⊢
  cases hname : Jail.word args 1 with
  | error e => exact Work.OnlyNotes.pure _ h
  | ok name =>
      rw [hname] at he
      dsimp only at he ⊢
      split
      case isTrue hlevel =>
        rw [if_pos hlevel] at he
        exact Work.OnlyNotes.bind (onlyNotes_setLevel he)
          (Work.OnlyNotes.pure _ _)
      case isFalse hlevel =>
        rw [if_neg hlevel] at he
        split
        case isTrue htarget =>
          rw [if_pos htarget] at he
          exact Work.OnlyNotes.bind (onlyNotes_setTarget he)
            (Work.OnlyNotes.pure _ _)
        case isFalse htarget =>
          rw [if_neg htarget] at he
          cases hjail : s.jail name with
          | error e => exact Work.OnlyNotes.pure _ h
          | ok j =>
              rw [hjail] at he
              exact onlyNotes_setOf he

/-- A request other than a reload leaves only notes when it is
refused. -/
theorem onlyNotes_carryOut {s : Server} {args : List String}
    {r : Request} {h : Host σ} {e : Error}
    (he : ((s.carryOut args r).result h).1 = .refusal e) :
    (s.carryOut args r).OnlyNotes h := by
  cases r with
  | add name backend =>
      exact Work.OnlyNotes.get (Work.OnlyNotes.bind
        (Work.OnlyNotes.ofNoted _ h) (Work.OnlyNotes.pure _ _))
  | start name =>
      exact Work.OnlyNotes.bind (Work.OnlyNotes.ofNoted _ h)
          (Work.OnlyNotes.pure _ _)
  | quit => cases he
  | stopAll => cases he
  | ping | reload | status | statusOf name =>
      exact Work.OnlyNotes.pure _ h
  | get => exact Work.OnlyNotes.get (Work.OnlyNotes.pure _ h)
  | stop name =>
      replace he := settle_refusal he
      refine Work.OnlyNotes.bind ?_ (Work.OnlyNotes.pure _ _)
      unfold stopJail at he ⊢
      cases hjail : s.jail name with
      | error e => exact Work.OnlyNotes.pure _ h
      | ok j => rw [hjail] at he; cases he
  | wait secs =>
      unfold carryOut at he ⊢
      dsimp only at he ⊢
      split at he
      case isTrue => cases he
      case isFalse => split at he <;> cases he
  | set =>
      change Reaction.ofOutcome id ((s.carrySet args).result h).1 = _ at he
      cases hset : ((s.carrySet args).result h).1 with
      | ok v => rw [hset] at he; cases he
      | error e' =>
          exact Work.OnlyNotes.bind (onlyNotes_carrySet hset)
            (Work.OnlyNotes.pure _ _)

/-- Outside reloads, what fails leaves only notes: the one about the
request, those of its handler, and the one about the refusal. -/
theorem onlyNotes_proceedOnce {s : Server} {args : List String}
    {h : Host σ} {reply : Wire.Reply}
    (hreply : ((s.proceedOnce args).result h).1 = some reply)
    (hfailed : reply.isOk = false) : (s.proceedOnce args).OnlyNotes h := by
  refine Work.OnlyNotes.bind (Work.OnlyNotes.note _ _ h) ?_
  cases hread : Request.read args with
  | error e =>
      exact Work.OnlyNotes.bind (Work.OnlyNotes.note _ _ _)
        (Work.OnlyNotes.pure _ _)
  | ok r =>
      rw [result_proceedOnce hread] at hreply
      obtain ⟨e, he, -⟩ := replyTo_failed hreply hfailed
      refine Work.OnlyNotes.bind (onlyNotes_carryOut he) ?_
      change ((do
        let reply ← replyTo args
          ((s.carryOut args r).result (asked args h)).1
        pure (reply, _)) : Work σ _).OnlyNotes _
      rw [he]
      exact Work.OnlyNotes.bind (Work.OnlyNotes.bind
        (Work.OnlyNotes.note _ _ _) (Work.OnlyNotes.pure _ _))
        (Work.OnlyNotes.pure _ _)

/-- A request other than a reload that is answered with code 1 has
changed nothing: the server is the same, with all of its jails, and so
are the level and the target of the log. It has left notes and nothing
else, so no command was run. -/
theorem refused_request_changes_nothing (s : Server) (args : List String)
    (h : Host σ) (hother : args.head? ≠ some "reload")
    (hcode : ((s.proceed args).result h).1.map Wire.Reply.code = some 1) :
    ((s.proceed args).result h).2 = s
      ∧ ((s.proceed args).after h).log = h.log
      ∧ (s.proceed args).OnlyNotes h := by
  rw [proceed_eq_once hother] at hcode ⊢
  obtain ⟨reply, hreply, hone⟩ := Option.map_eq_some_iff.1 hcode
  have hfailed : reply.isOk = false := by
    unfold Wire.Reply.isOk
    rw [hone]
    rfl
  have hkept : ((s.proceedOnce args).result h).2 = s :=
    (proceedOnce_failed (Prod.ext hreply rfl) hfailed).1
  have hnotes : (s.proceedOnce args).OnlyNotes h :=
    onlyNotes_proceedOnce hreply hfailed
  exact ⟨hkept, hnotes.steady Host.steady_log, hnotes⟩

/-- A pattern that cannot be read is refused, and nothing is added. -/
theorem bad_pattern_changes_nothing :
    let args := ["set", "ssh", "addfailregex", "from", "(<HOST>"]
    args.head? ≠ some "reload"
      ∧ ((oneJail.proceed args).result noRetries).1.map Wire.Reply.code
        = some 1
      ∧ ((oneJail.proceed args).result noRetries).2 = oneJail
      ∧ ((oneJail.proceed args).after noRetries).log = noRetries.log
      ∧ (oneJail.proceed args).OnlyNotes noRetries := by
  intro args
  have hother : args.head? ≠ some "reload" := by decide
  have hcode : ((oneJail.proceed args).result noRetries).1.map
      Wire.Reply.code = some 1 := by decide +kernel
  exact ⟨hother, hcode,
    refused_request_changes_nothing oneJail args noRetries hother hcode⟩

-- ============================================================= answers

/-- What came to an outcome is answered or refused. -/
theorem ofOutcome_ne_abort {α : Type} (f : α → Value) (x : Outcome α) :
    Reaction.ofOutcome f x ≠ .abort := by
  cases x <;> exact nofun

/-- Only a wait comes to an end without a reply. -/
theorem carryOut_abort_iff {s : Server} {args : List String}
    {r : Request} {h : Host σ} :
    ((s.carryOut args r).result h).1 = .abort
      ↔ ∃ secs, r = .wait secs ∧ endlessWait ≤ secs := by
  cases r with
  | wait secs =>
      unfold carryOut
      dsimp only
      split
      case isTrue hlong => exact ⟨fun _ => ⟨secs, rfl, hlong⟩, fun _ => rfl⟩
      case isFalse hlong =>
        have hnever : ¬ ∃ secs', Request.wait secs = .wait secs'
            ∧ endlessWait ≤ secs' := by
          rintro ⟨_, hsame, hlong'⟩
          injection hsame with hsame
          exact hlong (hsame ▸ hlong')
        split <;> exact ⟨nofun, fun h => absurd h hnever⟩
  | add name backend | start name | stop name | set | get
  | statusOf name =>
      exact ⟨fun h => absurd h (ofOutcome_ne_abort _ _),
        fun ⟨_, hr, _⟩ => nomatch hr⟩
  | ping | quit | stopAll | reload | status =>
      exact ⟨nofun, fun ⟨_, hr, _⟩ => nomatch hr⟩

/-- The texts that are read as so many seconds of a wait. -/
def WaitsFor (text : String) (secs : Float) : Prop :=
  Text.double? text = some secs
    ∧ (secs.isNaN || secs.isInf || decide (secs < 0.0)) = false

/-- A list by its first two members. -/
theorem eq_cons_cons {α : Type} {l : List α} {a b : α}
    (ha : l[0]? = some a) (hb : l[1]? = some b) :
    l = a :: b :: l.drop 2 := by
  match l, ha, hb with
  | _ :: _ :: _, rfl, rfl => rfl

/-- A request is read as a wait by its first two words. -/
theorem read_eq_wait_iff {args : List String} {secs : Float} :
    Request.read args = .ok (.wait secs)
      ↔ ∃ text more, args = "sleep" :: text :: more
        ∧ WaitsFor text secs := by
  constructor
  · intro h
    obtain ⟨verb, hverb, h⟩ := Outcome.bind_eq_ok.1 h
    split at h
    case h_2 =>
      obtain ⟨name, -, h⟩ := Outcome.bind_eq_ok.1 h
      split at h
      case h_1 => cases h
      case h_2 => obtain ⟨b, -, h⟩ := Outcome.bind_eq_ok.1 h; cases h
    case h_3 => obtain ⟨name, -, h⟩ := Outcome.bind_eq_ok.1 h; cases h
    case h_4 => split at h; cases h; split at h <;> cases h
    case h_6 => split at h <;> cases h
    case h_7 =>
      obtain ⟨n, hn, h⟩ := Outcome.bind_eq_ok.1 h
      obtain ⟨text, htext, hsecs⟩ := Jail.number_eq_ok_iff.1 hn
      rw [String.ofList_toList] at hsecs
      split at h
      case isTrue => cases h
      case isFalse hguard =>
        injection h with h
        injection h with h
        rw [h] at hsecs hguard
        refine ⟨text, args.drop 2, ?_, hsecs, Bool.eq_false_iff.2 hguard⟩
        exact eq_cons_cons (Jail.word_eq_ok_iff.1 hverb) htext
    all_goals cases h
  · rintro ⟨text, more, rfl, hsecs, hguard⟩
    refine Outcome.bind_eq_ok.2 ⟨"sleep", rfl, ?_⟩
    refine Outcome.bind_eq_ok.2 ⟨secs, Jail.number_eq_ok_iff.2
      ⟨text, rfl, ?_⟩, ?_⟩
    · rw [String.ofList_toList]
      exact hsecs
    rw [hguard]
    rfl

/-- A request to wait for longer than can be told. -/
def EndlessWait (args : List String) : Prop :=
  ∃ text more secs, args = "sleep" :: text :: more
    ∧ WaitsFor text secs ∧ endlessWait ≤ secs

/-- Such a request is read as a wait that is too long. -/
theorem endlessWait_iff {args : List String} :
    EndlessWait args
      ↔ ∃ secs, Request.read args = .ok (.wait secs)
        ∧ endlessWait ≤ secs := by
  constructor
  · rintro ⟨text, more, secs, hargs, hsecs, hlong⟩
    exact ⟨secs, read_eq_wait_iff.2 ⟨text, more, hargs, hsecs⟩, hlong⟩
  · rintro ⟨secs, hread, hlong⟩
    obtain ⟨text, more, hargs, hsecs⟩ := read_eq_wait_iff.1 hread
    exact ⟨text, more, secs, hargs, hsecs, hlong⟩

/-- Outside reloads, no reply is given to endless waits only. -/
theorem proceedOnce_none_iff {s : Server} {args : List String}
    {h : Host σ} :
    ((s.proceedOnce args).result h).1 = none ↔ EndlessWait args := by
  rw [endlessWait_iff]
  cases hread : Request.read args with
  | error e =>
      rw [result_proceedOnce_error hread]
      exact ⟨nofun, fun ⟨_, hwait, _⟩ => nomatch hwait⟩
  | ok r =>
      rw [result_proceedOnce hread, replyTo_none_iff, carryOut_abort_iff]
      refine exists_congr fun secs => and_congr_left fun _ => ?_
      exact ⟨congrArg Except.ok, Except.ok.inj⟩

/-- Outside reloads, what is answered is the reply to some reaction. -/
theorem exists_reaction (s : Server) (args : List String) (h : Host σ) :
    ∃ x h', ((s.proceedOnce args).result h).1
      = (replyTo args x).result (h' : Host σ) := by
  cases hread : Request.read args with
  | error e =>
      rw [result_proceedOnce_error hread]
      exact ⟨.refusal e, h, rfl⟩
  | ok r =>
      rw [result_proceedOnce hread]
      exact ⟨_, _, rfl⟩

/-- A configuration waits for nothing. -/
theorem not_endlessWait_of_mem {c : Config} {args : List String}
    (hmem : args ∈ c.requests) : ¬ EndlessWait args := by
  rintro ⟨text, more, secs, rfl, -⟩
  rcases Config.head?_of_mem_requests hmem with h | h | h <;> simp at h

/-- A reload is answered. -/
theorem reload_ne_abort (s : Server) (h : Host σ) :
    (s.reload.result h).1 ≠ .abort := by
  intro habort
  cases hpath : s.configPath with
  | none =>
      unfold reload at habort
      rw [hpath] at habort
      cases habort
  | some path =>
      cases hload : Config.load h.files path with
      | error fault =>
          rw [(reload_unloaded hpath hload).1] at habort
          cases habort
      | ok config =>
          rw [reload_loaded hpath hload,
            ← batch_requests (NoReload.config config)] at habort
          rcases hbatch : (batch proceedOnce config.requests
            s.cleared).result (s.emptied path h) with ⟨_ | _ | _, t⟩
          · obtain ⟨args, hmem, u, h', hnone⟩ :=
              batch_none (congrArg Prod.fst hbatch)
            exact not_endlessWait_of_mem hmem
              (proceedOnce_none_iff.1 hnone)
          · rw [hbatch] at habort; cases habort
          · rw [hbatch] at habort; cases habort

/-- What could go wrong on the way to a reply is looked at before it is
done: words are joined from an index within the request, and the seconds
of a wait are a number that is not negative before they are turned into a
time. A pattern is removed at an index within its list. -/
structure Guarded (args : List String) : Prop where
  words : ∀ index text, Jail.words args index = .ok text →
    index < args.length
  wait : ∀ secs, Request.read args = .ok (.wait secs) →
    (secs.isNaN || secs.isInf || decide (secs < 0.0)) = false
  removal : ∀ (lines : List Filter.LinePattern) index rest,
    Filter.Patterns.removeAt lines index = .ok rest →
    index < lines.length

/-- Every request is guarded so. -/
theorem guarded (args : List String) : Guarded args where
  words index text h := (Jail.words_eq_ok_iff.1 h).1
  wait secs h := by
    obtain ⟨_, _, -, -, hguard⟩ := read_eq_wait_iff.1 h
    exact hguard
  removal lines index rest h := by
    unfold Filter.Patterns.removeAt at h
    cases hline : lines[index]? with
    | none => rw [hline] at h; cases h
    | some line => exact (List.getElem?_eq_some_iff.1 hline).1

/-- A request is left without a reply exactly when it is to wait for
longer than can be told; what else could go wrong on the way is guarded,
and replies have code 0 or 1. -/
theorem unanswered_iff_endless_wait (s : Server) (args : List String)
    (h : Host σ) :
    (((s.proceed args).result h).1 = none ↔ EndlessWait args)
      ∧ (∀ reply, ((s.proceed args).result h).1 = some reply →
        reply.code = 0 ∨ reply.code = 1)
      ∧ Guarded args := by
  by_cases hother : args.head? = some "reload"
  case pos =>
    obtain ⟨more, rfl⟩ := List.head?_eq_some_iff.1 hother
    rw [result_proceed_reload]
    refine ⟨⟨?_, ?_⟩, fun reply => code_of_replyTo, guarded _⟩
    · exact fun hnone => absurd (replyTo_none_iff.1 hnone)
        (reload_ne_abort s _)
    · rintro ⟨_, _, _, hsleep, -⟩
      simp at hsleep
  case neg =>
    rw [proceed_eq_once hother]
    obtain ⟨x, h', hreaction⟩ := exists_reaction s args h
    exact ⟨proceedOnce_none_iff,
      fun reply hreply => code_of_replyTo (hreaction ▸ hreply),
      guarded args⟩

/-- There is no reply to a request to wait for `1e20` seconds. -/
theorem long_wait_is_unanswered :
    ((oneJail.proceed ["sleep", "1e20"]).result noRetries).1.map
      Wire.Reply.code = none := by
  decide +kernel

end Gatewatch.Server
