/-
Reloads that fail: what they leave of the server.

# The two ways to fail

A reload first loads the configuration, checks included. Up to there it
has touched nothing, so a file that cannot be loaded costs nothing
(`FailedReload.load`).

Then it stops all jails, forgets them, and carries out the requests of
the configuration one by one. There is no way back from here: a request
that is refused ends the reload, the former jails are gone, and the
server is what the requests before that one built from nothing
(`FailedReload.request`).

# The requests of a configuration

While a configuration is carried out no reload is read, because its
requests add, set and start (`NoReload.config`). So a request of the
batch is carried out as any other request is, and what is said of the
batch is said in terms of those.
-/
import Gatewatch.Proofs.Server.Refusal
import Gatewatch.Shell.Script

namespace Gatewatch.Server

variable {σ : Type}

-- ============================================================ batches

/-- Batches agree when they carry out each of their requests alike. -/
theorem batch_congr
    {one two : Server → List String → Work σ (Option Wire.Reply × Server)}
    {requests : List (List String)}
    (hsame : ∀ args ∈ requests, ∀ s, one s args = two s args)
    (s : Server) : batch one requests s = batch two requests s := by
  induction requests generalizing s with
  | nil => rfl
  | cons args rest ih =>
      have hrest := ih fun a ha => hsame a (List.mem_cons_of_mem args ha)
      unfold batch
      rw [hsame args List.mem_cons_self s]
      congr 1
      funext x
      obtain ⟨reply, s'⟩ := x
      cases reply with
      | none => rfl
      | some reply =>
          dsimp only
          rw [hrest s']

/-- A batch that fails carried out the requests before one that
failed. -/
theorem batch_failed
    {one : Server → List String → Work σ (Option Wire.Reply × Server)}
    {requests : List (List String)} {s t : Server} {h : Host σ}
    {e : Error}
    (hfailed : (batch one requests s).result h = (some (.error e), t)) :
    ∃ before args after u reply,
      requests = before ++ args :: after
        ∧ (batch one before s).result h = (some (.ok ()), u)
        ∧ (one u args).result ((batch one before s).after h)
          = (some reply, t)
        ∧ reply.isOk = false
        ∧ e = .batchStopped args (textOf reply.value) := by
  induction requests generalizing s h with
  | nil => cases hfailed
  | cons args rest ih =>
      unfold batch at hfailed
      rw [Work.result_bind] at hfailed
      rcases hone : (one s args).result h with ⟨_ | reply, u⟩
      · rw [hone] at hfailed
        cases hfailed
      · rw [hone] at hfailed
        dsimp only at hfailed
        cases hok : reply.isOk with
        | false =>
            rw [hok] at hfailed
            injection hfailed with he ht
            injection he with he
            injection he with he
            refine ⟨[], args, rest, s, reply, rfl, rfl, ?_, hok, he.symm⟩
            rw [← ht]
            exact hone
        | true =>
            rw [hok] at hfailed
            obtain ⟨before, args', after, u', reply', hrest, hbefore,
              hargs, hbad, he⟩ := ih hfailed
            refine ⟨args :: before, args', after, u', reply', ?_, ?_, ?_,
              hbad, he⟩
            · rw [hrest, List.cons_append]
            · unfold batch
              rw [Work.result_bind, hone]
              dsimp only
              rw [hok]
              exact hbefore
            · unfold batch
              rw [Work.after_bind, hone]
              dsimp only
              rw [hok]
              exact hargs

-- ===================================================== who reloads

/-- A sequence yields no value that its second part never yields. -/
theorem bind_ne_ok {α β : Type} {x : Outcome α} {f : α → Outcome β} {b : β}
    (h : ∀ a, f a ≠ .ok b) : (x >>= f) ≠ .ok b := by
  cases x with
  | error e => exact nofun
  | ok a => exact h a

/-- A sequence whose first part yields a value goes on with it. -/
theorem ok_bind {α β : Type} (a : α) (f : α → Outcome β) :
    (Except.ok a >>= f : Outcome β) = f a := rfl

/-- A request is read as a reload by its first word. -/
theorem read_eq_reload_iff {args : List String} :
    Request.read args = .ok .reload ↔ args.head? = some "reload" := by
  cases args with
  | nil => exact ⟨nofun, nofun⟩
  | cons verb rest =>
      constructor
      · intro h
        have hverb : Jail.word (verb :: rest) 0 = .ok verb := rfl
        unfold Request.read at h
        rw [hverb, ok_bind] at h
        split at h
        case h_2 =>
          refine absurd h (bind_ne_ok fun name => ?_)
          split
          case h_1 => exact nofun
          case h_2 => exact bind_ne_ok fun backend => nofun
        case h_3 => exact absurd h (bind_ne_ok fun name => nofun)
        case h_4 => split at h; cases h; split at h <;> cases h
        case h_5 => rfl
        case h_6 => split at h <;> cases h
        case h_7 =>
          refine absurd h (bind_ne_ok fun secs => ?_)
          split <;> exact nofun
        all_goals cases h
      · intro h
        injection h with h
        rw [h]
        rfl

/-- Requests none of which is a reload. -/
def NoReload (requests : List (List String)) : Prop :=
  ∀ args ∈ requests, args.head? ≠ some "reload"

namespace NoReload

theorem append {as bs : List (List String)} (ha : NoReload as)
    (hb : NoReload bs) : NoReload (as ++ bs) := fun args h =>
  (List.mem_append.1 h).elim (ha args) (hb args)

theorem single {args : List String} (h : args.head? ≠ some "reload") :
    NoReload [args] := fun _ hmem => List.mem_singleton.1 hmem ▸ h

theorem map {α : Type} {f : α → List String}
    (h : ∀ a, (f a).head? ≠ some "reload") (items : List α) :
    NoReload (items.map f) := by
  intro args hmem
  obtain ⟨a, -, rfl⟩ := List.mem_map.1 hmem
  exact h a

theorem flatMap {α : Type} {f : α → List (List String)}
    (h : ∀ a, NoReload (f a)) (items : List α) :
    NoReload (items.flatMap f) := by
  intro args hmem
  obtain ⟨a, -, hargs⟩ := List.mem_flatMap.1 hmem
  exact h a args hargs

theorem optional {α : Type} {f : α → List String}
    (h : ∀ a, (f a).head? ≠ some "reload") (o : Option α) :
    NoReload (Config.optional f o) := by
  cases o with
  | none => exact nofun
  | some a => exact single (h a)

/-- The requests that set up an action. -/
theorem action (jail : String) (a : Config.ActionSpec) :
    NoReload (a.requests jail) := by
  have htemplate : ∀ option text : String, NoReload
      (if text = "" then [] else [["set", jail, option, a.name, text]]) := by
    intro option text
    split
    case isTrue => exact nofun
    case isFalse => exact single (by simp)
  unfold Config.ActionSpec.requests
  repeat' apply append
  case ha.ha.ha.ha.ha.ha => exact single (by simp)
  case ha.ha.ha.ha.ha.hb => exact map (by simp) _
  all_goals exact htemplate _ _

/-- The requests that set up and start a jail. -/
theorem jail (j : Config.JailSpec) : NoReload j.requests := by
  unfold Config.JailSpec.requests
  repeat' apply append
  all_goals first
    | exact single (by simp)
    | exact map (by simp) _
    | exact optional (by simp) _
    | exact flatMap (action j.name) _

/-- The requests of a configuration. -/
theorem config (c : Config) : NoReload c.requests :=
  flatMap jail _

end NoReload

-- ============================================================ reloads

section Reloads

variable [Shell σ]

/-- Outside reloads, a request is carried out alike everywhere. -/
theorem proceed_eq_once {args : List String}
    (h : args.head? ≠ some "reload") (s : Server) :
    (s.proceed args : Work σ _) = s.proceedOnce args := by
  unfold proceed
  split
  case h_1 heq => exact absurd (read_eq_reload_iff.1 heq) h
  case h_2 => rfl

/-- A configuration is carried out as any other requests are. -/
theorem batch_requests {requests : List (List String)}
    (h : NoReload requests) (s : Server) :
    (batch proceedOnce requests s : Work σ _) = s.apply requests :=
  batch_congr (fun args hargs s => (proceed_eq_once (h args hargs) s).symm) s

/-- The server without its jails. -/
def cleared (s : Server) : Server := { s with jails := [] }

/-- Stopping all jails forgets them and keeps the rest. -/
theorem result_stopAll (s : Server) (h : Host σ) :
    s.stopAll.result h = s.cleared := by
  unfold stopAll cleared
  cases hs : s.jails with
  | nil =>
      show s = { s with jails := [] }
      rw [← hs]
  | cons j rest => rfl

/-- The surroundings in which a reload carries out its requests: the
former jails have been stopped. -/
def emptied (s : Server) (path : String) (h : Host σ) : Host σ :=
  s.stopAll.after (h.record ⟨.info, "Reloading jails from " ++ path⟩)

/-- How a reload from a path fails with a message, begun in some
surroundings, and the server that it leaves. -/
inductive FailedReload (s : Server) (path : String) (h : Host σ) :
    String → Server → Prop where
  /-- The configuration cannot be loaded. The server is kept, and its
  jails have not been stopped. -/
  | load {fault : Config.LoadFault}
      (hload : Config.load h.files path = .error fault)
      (hquiet : s.reload.after h = h) :
      FailedReload s path h (Error.badConfigFile fault.report.line).message s
  /-- A request is refused by the server that those before it built from
  no jails at all, and that server is left. -/
  | request {config : Config} {before after : List (List String)}
      {args : List String} {t : Server} {reply : Wire.Reply}
      (hload : Config.load h.files path = .ok config)
      (hrequests : config.requests = before ++ args :: after)
      (hbuilt : (s.cleared.apply before).result
        (s.emptied path h) = (some (.ok ()), t))
      (hrefused : (t.proceed args).result
        ((s.cleared.apply before).after (s.emptied path h))
          = (some reply, t))
      (hcode : reply.code = 1) :
      FailedReload s path h
        (Error.batchStopped args (textOf reply.value)).message t

/-- A file that cannot be loaded is all that a reload looks at. -/
theorem reload_unloaded {s : Server} {path : String} {h : Host σ}
    {fault : Config.LoadFault} (hpath : s.configPath = some path)
    (hload : Config.load h.files path = .error fault) :
    s.reload.result h = (.refusal (.badConfigFile fault.report.line), s)
      ∧ s.reload.after h = h := by
  unfold reload
  rw [hpath]
  dsimp only
  rw [Work.result_get, Work.after_get, hload]
  exact ⟨rfl, rfl⟩

/-- How a reload reacts to what its requests came to. -/
def settled : Option (Outcome Unit) × Server → Reaction × Server
  | (some (.ok ()), t) => (.answer .null, t)
  | (some (.error e), t) => (.refusal e, t)
  | (none, t) => (.abort, t)

/-- A configuration that was loaded is carried out on no jails. -/
theorem reload_loaded {s : Server} {path : String} {h : Host σ}
    {config : Config} (hpath : s.configPath = some path)
    (hload : Config.load h.files path = .ok config) :
    s.reload.result h
      = settled ((s.cleared.apply config.requests).result
          (s.emptied path h)) := by
  unfold reload
  rw [hpath]
  dsimp only
  rw [Work.result_get, hload]
  dsimp only
  rw [Work.result_bind, Work.result_bind, result_stopAll, Work.result_bind,
    Work.after_note, batch_requests (NoReload.config config)]
  unfold emptied
  rcases (s.cleared.apply config.requests).result
    (s.stopAll.after (h.record ⟨.info, "Reloading jails from " ++ path⟩))
    with ⟨_ | _ | _, t⟩ <;> rfl

/-- A reload is refused in one of the two ways. -/
theorem reload_refusal {s t : Server} {h : Host σ} {e : Error}
    (hresult : s.reload.result h = (.refusal e, t)) :
    ∃ path, s.configPath = some path
      ∧ FailedReload s path h e.message t := by
  cases hpath : s.configPath with
  | none =>
      unfold reload at hresult
      rw [hpath] at hresult
      cases hresult
  | some path =>
      refine ⟨path, rfl, ?_⟩
      cases hload : Config.load h.files path with
      | error fault =>
          obtain ⟨hrefusal, hquiet⟩ := reload_unloaded hpath hload
          rw [hrefusal] at hresult
          injection hresult with he ht
          injection he with he
          rw [← he, ← ht]
          exact .load hload hquiet
      | ok config =>
          rw [reload_loaded hpath hload] at hresult
          rcases happly : (s.cleared.apply config.requests).result
            (s.emptied path h) with ⟨_ | _ | _, u⟩
          · rw [happly] at hresult
            cases hresult
          · rw [happly] at hresult
            injection hresult with he ht
            injection he with he
            obtain ⟨before, args, after, v, reply, hrequests, hbuilt,
              hargs, hbad, rfl⟩ := batch_failed happly
            have hmem : args ∈ config.requests := by
              rw [hrequests]
              exact List.mem_append_right before List.mem_cons_self
            have honce := hargs
            rw [proceed_eq_once (NoReload.config config args hmem)] at honce
            obtain ⟨hkept, hcode⟩ := proceedOnce_failed honce hbad
            rw [← he, ← ht]
            rw [← hkept] at hbuilt hargs
            exact .request hload hrequests hbuilt hargs hcode
          · rw [happly] at hresult
            cases hresult

/-- The surroundings after a request was noted. -/
def asked (args : List String) (h : Host σ) : Host σ :=
  h.record ⟨.debug, "Command: " ++ Text.quotedList args⟩

/-- A reload is noted, carried out and replied to. -/
theorem result_proceed_reload (s : Server) (more : List String)
    (h : Host σ) :
    (s.proceed ("reload" :: more)).result h
      = ((replyTo ("reload" :: more)
          (s.reload.result (asked ("reload" :: more) h)).1).result
            (s.reload.after (asked ("reload" :: more) h)),
        (s.reload.result (asked ("reload" :: more) h)).2) := rfl

/-- A reload that is answered with code 1 either could not load its
file, and then the server and the surroundings are as they were; or it
stopped at a request of the file, and then the former jails are gone and
the server is what the requests before that one built. -/
theorem reload_answered_failure (s : Server) (h : Host σ)
    (more : List String)
    (hcode : ((s.proceed ("reload" :: more)).result h).1.map
      Wire.Reply.code = some 1) :
    ∃ path message, s.configPath = some path
      ∧ ((s.proceed ("reload" :: more)).result h).1
        = some (.error message)
      ∧ FailedReload s path (asked ("reload" :: more) h) message
        ((s.proceed ("reload" :: more)).result h).2 := by
  rw [result_proceed_reload] at hcode ⊢
  cases hreaction : (s.reload.result (asked ("reload" :: more) h)).1 with
  | answer v =>
      rw [hreaction] at hcode
      cases hcode
  | refusal e =>
      obtain ⟨path, hpath, hfailed⟩ :=
        reload_refusal (Prod.ext hreaction rfl)
      exact ⟨path, e.message, hpath, rfl, hfailed⟩
  | abort =>
      rw [hreaction] at hcode
      cases hcode

end Reloads

-- ========================================================= an instance

/-- Surroundings with a file that declares a jail without retries. -/
def noRetries : Host Script :=
  { now := 0
    files := { Disk.Tree.initial with
      names := (["work", "jails.yaml"], 10) :: Disk.Tree.initial.names
      nodes := (10, ⟨.file (Text.Utf8.encode
        "jails: [\x7bname: web, maxretry: 0\x7d]"), .moment 0⟩)
          :: Disk.Tree.initial.nodes }
    shell := {} }

/-- A server that reloads from that file, after a jail was added and
started. -/
def oneJail : Server :=
  let empty : Server := { configPath := some "jails.yaml" }
  ((empty.apply [["add", "ssh", "polling"], ["start", "ssh"]]).result
    noRetries).2

/-- The reload of that file is answered with code 1. -/
theorem reload_of_no_retries :
    ((oneJail.proceed ["reload"]).result noRetries).1.map
        Wire.Reply.code = some 1
      ∧ ∃ path message, oneJail.configPath = some path
        ∧ ((oneJail.proceed ["reload"]).result noRetries).1
          = some (.error message)
        ∧ FailedReload oneJail path (asked ["reload"] noRetries) message
          ((oneJail.proceed ["reload"]).result noRetries).2 := by
  have hcode : ((oneJail.proceed ["reload"]).result noRetries).1.map
      Wire.Reply.code = some 1 := by decide +kernel
  exact ⟨hcode, reload_answered_failure oneJail noRetries [] hcode⟩

/-- The jail that ran before the reload is gone after it, and the one of
the file is there but does not run. -/
theorem failed_reload_replaces_jails :
    ((oneJail.proceed ["reload"]).result noRetries).1.map
        Wire.Reply.code = some 1
      ∧ oneJail.jails.map (fun j => (j.name, j.running))
        = [("ssh", true)]
      ∧ ((oneJail.proceed ["reload"]).result noRetries).2.jails.map
          (fun j => (j.name, j.running))
        = [("web", false)] := by
  refine ⟨?_, ?_, ?_⟩
  · decide +kernel
  · decide +kernel
  · decide +kernel

end Gatewatch.Server
