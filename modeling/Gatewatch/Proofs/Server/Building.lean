/-
What carrying out a configuration builds.

# One jail

The requests of a jail come in one run: it is added, set up and started.
The first finds no jail of that name and makes a new one, each of those
between changes it as they change its settings, and the last starts it.
So after the run the jail has the settings that are declared of it, and
the jails of other names are as they were (`Built.jail`).

# All jails

The run of one jail leaves the others alone, so what each run built is
there at the end (`Built.jails`). That no two jails have one name need
not be assumed, since the second one could not have been added.

Two names are left out. A jail that is named as the log's level or target
is cannot be set up, for what is asked of it is asked of the log.
-/
import Gatewatch.Proofs.Config.Declared
import Gatewatch.Proofs.Server.Replies
import Gatewatch.Proofs.Text.Occurs

namespace Gatewatch

open Config (JailSpec Sets)
open Jail (Settings)
open Json (Value)

-- ============================================================ new jails

/-- A watcher that is created watches in the way of its backend. -/
theorem Filter.Watcher.name_create {files : Disk.Tree} {backend : Backend}
    {notifier : Notifier} {w : Watcher}
    (h : (create files backend notifier).value = .ok w) :
    backend.way notifier = .ok w.name := by
  unfold create at h
  unfold Backend.way
  cases hrefusal : notifier.refusal? with
  | some reason =>
      rw [hrefusal] at h
      cases backend with
      | notify => cases h
      | polling | auto => injection h with h; rw [← h]; rfl
  | none =>
      rw [hrefusal] at h
      cases backend <;> (injection h with h; rw [← h]; rfl)

/-- A jail that is made has the settings of a new one. -/
theorem Jail.settings_make {files : Disk.Tree} {name : String}
    {backend : Filter.Backend} {capacity : Nat} {zone : Int}
    {notifier : Filter.Notifier} {j : Jail}
    (h : (Jail.make files name backend capacity zone notifier).value
      = .ok j) :
    ∃ watcher, backend.way notifier = .ok watcher
      ∧ j.settings = Settings.fresh name backend watcher := by
  unfold Jail.make at h
  split at h
  case isTrue => cases h
  case isFalse =>
    dsimp only at h
    -- the warning about a long name makes no difference
    split at h
    all_goals
      try rw [Noted.value_bind] at h
      split at h
      case isTrue => cases h
      case isFalse =>
        rw [Noted.value_bind] at h
        cases hwatcher : (Filter.Watcher.create files backend
            notifier).value with
        | error e => rw [hwatcher] at h; cases h
        | ok watcher =>
            rw [hwatcher] at h
            injection h with h
            exact ⟨watcher.name, Filter.Watcher.name_create hwatcher,
              by rw [← h]; rfl⟩

namespace Server

/-- What is settled by a reply of success was no error. -/
theorem settle_isOk {σ : Type} {x : Outcome Unit × Server}
    {v : Value} {args : List String} {h : Host σ} {reply : Wire.Reply}
    (hreply : (replyTo args (settle x v).1).result h = some reply)
    (hok : reply.isOk = true) : x = (.ok (), (settle x v).2) := by
  obtain ⟨_ | _, s⟩ := x
  · injection hreply with hreply
    rw [← hreply] at hok
    cases hok
  · rfl

/-- A reload that is replied to with code 0 has carried out its
requests. -/
theorem settled_of_code {σ : Type} {x : Option (Outcome Unit) × Server}
    {args : List String} {h : Host σ}
    (hcode : ((replyTo args (settled x).1).result h).map Wire.Reply.code
      = some 0) : x.1 = some (.ok ()) ∧ (settled x).2 = x.2 := by
  rcases x with ⟨_ | _ | _, t⟩
  · cases hcode
  · injection hcode with hcode
    cases hcode
  · exact ⟨rfl, rfl⟩

/-- A reload whose requests were carried out answers. -/
theorem settled_of_done {x : Option (Outcome Unit) × Server}
    (hdone : x.1 = some (.ok ())) : settled x = (.answer .null, x.2) := by
  obtain ⟨_, t⟩ := x
  cases hdone
  rfl

-- ======================================================= surroundings

section Surroundings

variable {σ : Type} [Shell σ] {s : Server}

omit [Shell σ] in
/-- To set the level of the log leaves alone what reports changes. -/
theorem keeps_setLevel (args : List String) :
    (setLevel args : Work σ _).Keeps Host.notifier := by
  unfold setLevel
  split
  case h_1 => exact Work.Keeps.pure _
  case h_2 =>
    intro h
    rw [Work.after_get]
    split
    case h_1 => rfl
    case h_2 => exact Host.steady_notifier.foldl_record _ _

omit [Shell σ] in
/-- So does to set the target of the log. -/
theorem keeps_setTarget (args : List String) :
    (setTarget args : Work σ _).Keeps Host.notifier := by
  unfold setTarget
  split
  case h_1 => exact Work.Keeps.pure _
  case h_2 =>
    intro h
    rw [Work.after_get]
    dsimp only
    split
    case h_1 => rfl
    case h_2 => exact Host.steady_notifier.foldl_record _ _

/-- So does any request to set something. -/
theorem keeps_carrySet (s : Server) (args : List String) :
    (s.carrySet args : Work σ _).Keeps Host.notifier := by
  rw [carrySet_eq]
  split
  case h_1 => exact Work.Keeps.pure _
  case h_2 name _ =>
    split
    case isTrue => exact keeps_setLevel args
    case isFalse =>
      split
      case isTrue => exact keeps_setTarget args
      case isFalse =>
        split
        case h_1 => exact Work.Keeps.pure _
        case h_2 j _ => exact keeps_setOf Host.steady_notifier s j args

/-- So does to stop all jails. -/
theorem keeps_stopAll (s : Server) :
    (s.stopAll : Work σ _).Keeps Host.notifier := by
  have heach : ∀ jails : List Jail,
      (stopEach jails : Work σ _).Keeps Host.notifier := by
    intro jails
    induction jails with
    | nil => exact Work.Keeps.pure ()
    | cons j rest ih =>
        exact Work.Keeps.bind (j.keeps_stop Host.steady_notifier)
          fun _ => ih
  unfold stopAll
  split
  case isTrue => exact Work.Keeps.pure s
  case isFalse =>
    exact Work.Keeps.bind (Work.Keeps.note Host.steady_notifier _ _) fun _ =>
      Work.Keeps.bind (heach s.jails) fun _ => Work.Keeps.pure _

/-- So does every request but a wait, in which jails wake. -/
theorem keeps_carryOut (s : Server) (args : List String) {r : Request}
    (hr : ∀ secs, r ≠ .wait secs) :
    (s.carryOut args r : Work σ _).Keeps Host.notifier := by
  have hnoted : ∀ x : Noted (Outcome Unit × Server),
      (Work.ofNoted x : Work σ _).Keeps Host.notifier :=
    Work.Keeps.ofNoted Host.steady_notifier
  cases r with
  | ping | reload | status | statusOf name => exact Work.Keeps.pure _
  | get => exact fun _ => rfl
  | add name backend =>
      exact fun h => Work.Keeps.bind (hnoted (s.addJail h.files name backend
        h.notifier)) (fun _ => Work.Keeps.pure _) h
  | start name =>
      exact Work.Keeps.bind (hnoted (s.startJail name))
        fun _ => Work.Keeps.pure _
  | quit =>
      exact Work.Keeps.bind (Work.Keeps.note Host.steady_notifier _ _)
        fun _ => Work.Keeps.bind (Work.Keeps.bind s.keeps_stopAll
          fun _ => Work.Keeps.pure _) fun _ => Work.Keeps.pure _
  | stopAll =>
      exact Work.Keeps.bind s.keeps_stopAll fun _ => Work.Keeps.pure _
  | stop name =>
      refine Work.Keeps.bind ?_ fun _ => Work.Keeps.pure _
      unfold stopJail
      split
      case h_1 => exact Work.Keeps.pure _
      case h_2 j _ =>
        exact Work.Keeps.bind (j.keeps_stop Host.steady_notifier)
          fun _ => Work.Keeps.pure _
  | set =>
      exact Work.Keeps.bind (s.keeps_carrySet args)
        fun _ => Work.Keeps.pure _
  | wait secs => exact absurd rfl (hr secs)

/-- So do the requests of a configuration. -/
theorem keeps_proceed_of_mem {c : Config} {args : List String}
    (hmem : args ∈ c.requests) (s : Server) :
    (s.proceed args : Work σ _).Keeps Host.notifier := by
  have hhead := Config.head?_of_mem_requests hmem
  have hother : args.head? ≠ some "reload" := by
    rcases hhead with h | h | h <;> simp [h]
  rw [proceed_eq_once hother]
  cases hread : Request.read args with
  | error e =>
      unfold proceedOnce
      rw [hread]
      exact Work.Keeps.bind (Work.Keeps.note Host.steady_notifier _ _)
        fun _ => Work.Keeps.bind (keeps_replyTo Host.steady_notifier _ _)
          fun _ => Work.Keeps.pure _
  | ok r =>
      refine keeps_proceedOnce Host.steady_notifier hread
        (s.keeps_carryOut args ?_)
      rintro secs rfl
      obtain ⟨_, _, rfl, -⟩ := read_eq_wait_iff.1 hread
      rcases hhead with h | h | h <;> simp at h

/-- When all jails were stopped for a reload, changes are reported by the
same. -/
theorem notifier_emptied (s : Server) (path : String) (h : Host σ) :
    (s.emptied path h).notifier = h.notifier :=
  (s.keeps_stopAll _).trans (Host.steady_notifier.record h _)

end Surroundings

-- ================================================================ runs

/-- Requests that were carried out one after the other, none of them
refused, each in surroundings where changes are reported by the same. -/
inductive Built (σ : Type) [Shell σ] (notifier : Filter.Notifier) :
    Server → List (List String) → Server → Prop where
  | nil (s : Server) : Built σ notifier s [] s
  | cons {s u t : Server} {args : List String}
      {rest : List (List String)} {h : Host σ} {reply : Wire.Reply}
      (hnotifier : h.notifier = notifier)
      (hone : (s.proceed args).result h = (some reply, u))
      (hok : reply.isOk = true) (hrest : Built σ notifier u rest t) :
      Built σ notifier s (args :: rest) t

variable {σ : Type} [Shell σ] {s t u : Server}
  {notifier : Filter.Notifier}

/-- A batch that comes to its end has carried out all of its requests. -/
theorem built_of_apply {requests : List (List String)} {h : Host σ}
    (hkeeps : ∀ args ∈ requests, ∀ s : Server,
      (s.proceed args : Work σ _).Keeps Host.notifier)
    (happly : ((s.apply requests).result h).1 = some (.ok ())) :
    Built σ h.notifier s requests ((s.apply requests).result h).2 := by
  induction requests generalizing s h with
  | nil => exact .nil s
  | cons args rest ih =>
      have hkept : ((s.proceed args).after h).notifier = h.notifier :=
        hkeeps args List.mem_cons_self s h
      unfold apply batch at happly ⊢
      rw [Work.result_bind] at happly ⊢
      rcases hone : (s.proceed args).result h with ⟨_ | reply, u⟩
      · rw [hone] at happly
        cases happly
      · rw [hone] at happly
        dsimp only at happly ⊢
        cases hok : reply.isOk with
        | false => rw [hok] at happly; cases happly
        | true =>
            rw [hok] at happly
            have hrest := ih (fun args hmem =>
              hkeeps args (List.mem_cons_of_mem _ hmem)) happly
            rw [hkept] at hrest
            exact .cons rfl hone hok hrest

/-- What was carried out in a row was carried out in two. -/
theorem Built.append {first rest : List (List String)}
    (h : Built σ notifier s (first ++ rest) t) :
    ∃ u, Built σ notifier s first u ∧ Built σ notifier u rest t := by
  induction first generalizing s with
  | nil => exact ⟨s, .nil s, h⟩
  | cons args first ih =>
      cases h with
      | cons hnotifier hone hok hrest =>
          obtain ⟨u, hfirst, hrest⟩ := ih hrest
          exact ⟨u, .cons hnotifier hone hok hfirst, hrest⟩

-- ============================================================ one jail

/-- A jail is only added under a new name. -/
theorem addJail_eq_ok {files : Disk.Tree} {name : String}
    {backend : Filter.Backend}
    (h : (s.addJail files name backend notifier).value = (.ok (), t)) :
    ∃ j watcher, s.jail? name = none
      ∧ backend.way notifier = .ok watcher
      ∧ j.settings = Settings.fresh name backend watcher
      ∧ t = { s with jails := insertJail j s.jails } := by
  unfold addJail at h
  split at h
  case isTrue => cases h
  case isFalse =>
    split at h
    case isTrue => cases h
    case isFalse hnew =>
      rw [Noted.value_bind] at h
      cases hmake : (Jail.make files name backend s.capacity s.zone
          notifier).value with
      | error e => rw [hmake] at h; cases h
      | ok j =>
          rw [hmake] at h
          injection h with _ h
          obtain ⟨watcher, hway, hj⟩ := Jail.settings_make hmake
          exact ⟨j, watcher, Option.not_isSome_iff_eq_none.1 hnew, hway, hj,
            h.symm⟩

/-- A jail is only started where there is one. -/
theorem startJail_eq_ok {name : String}
    (h : (s.startJail name).value = (.ok (), t)) :
    ∃ j k, s.jail? name = some j ∧ k.name = j.name
      ∧ k.settings = { j.settings with running := true }
      ∧ t = s.replace k := by
  unfold startJail jail at h
  cases hj : s.jail? name with
  | none => rw [hj] at h; cases h
  | some j =>
      rw [hj] at h
      dsimp only at h
      rw [Noted.value_bind] at h
      unfold Jail.start at h
      split at h
      case h_1 k hk =>
        injection h with _ h
        split at hk
        case isTrue => cases hk
        case isFalse =>
          injection hk with hk
          refine ⟨j, k, rfl, ?_, ?_, h.symm⟩
          · rw [← hk]
          · rw [← hk]; rfl
      case h_2 => cases h

/-- A jail that is added has a new name and the settings of a new jail,
and stands among the others. -/
theorem added {name word : String} {h : Host σ} {reply : Wire.Reply}
    (hone : (s.proceed ["add", name, word]).result h = (some reply, t))
    (hok : reply.isOk = true) :
    ∃ backend watcher j, Filter.Backend.read word = .ok backend
      ∧ backend.way h.notifier = .ok watcher
      ∧ s.jail? name = none
      ∧ j.settings = Settings.fresh name backend watcher
      ∧ t = { s with jails := insertJail j s.jails } := by
  have hread : Request.read ["add", name, word]
      = (Filter.Backend.read word >>= fun backend =>
        .ok (.add name backend)) := rfl
  rw [proceed_eq_once (by simp)] at hone
  cases hbackend : Filter.Backend.read word with
  | error e =>
      rw [hbackend] at hread
      rw [result_proceedOnce_error hread] at hone
      injection hone with hreply
      injection hreply with hreply
      rw [← hreply] at hok
      cases hok
  | ok backend =>
      rw [hbackend] at hread
      rw [result_proceedOnce hread] at hone
      injection hone with hreply ht
      obtain ⟨j, watcher, hnew, hway, hj, hadded⟩ :=
        addJail_eq_ok (settle_isOk hreply hok)
      exact ⟨backend, watcher, j, rfl, hway, hnew, hj,
        ht.symm.trans hadded⟩

/-- A jail that is started runs, in its place. -/
theorem started {name : String} {h : Host σ} {reply : Wire.Reply}
    (hone : (s.proceed ["start", name]).result h = (some reply, t))
    (hok : reply.isOk = true) :
    ∃ j k, s.jail? name = some j ∧ k.name = j.name
      ∧ k.settings = { j.settings with running := true }
      ∧ t = s.replace k := by
  rw [proceed_eq_once (by simp),
    result_proceedOnce (r := .start name) rfl] at hone
  injection hone with hreply ht
  obtain ⟨j, k, hj, hname, hk, hstarted⟩ :=
    startJail_eq_ok (settle_isOk hreply hok)
  exact ⟨j, k, hj, hname, hk, ht.symm.trans hstarted⟩

/-- A jail that obeyed has the settings that the request makes of its
own. -/
theorem settings_of_obeyed {j k : Jail} {args : List String} {h : Host σ}
    {v : Value} (hdone : j.obeyed args h = .ok (v, k)) :
    j.settings.obey args = .ok k.settings := by
  obtain ⟨c, hc, hk⟩ := Jail.of_obeyed hdone
  exact Outcome.bind_eq_ok.2 ⟨c, hc, Jail.effect_settings hk⟩

/-- Requests that set something of a jail make of its settings what they
say, and keep the names and the other jails. -/
theorem Built.sets {name : String} {requests : List (List String)}
    (hsets : Sets name requests) (hlevel : name ≠ "loglevel")
    (htarget : name ≠ "logtarget") {j : Jail}
    (hj : s.jail? name = some j) (h : Built σ notifier s requests t) :
    (∃ k, t.jail? name = some k
        ∧ j.settings.obeyAll requests = .ok k.settings)
      ∧ t.names = s.names
      ∧ ∀ other, other ≠ name → t.jail? other = s.jail? other := by
  induction h generalizing j with
  | nil s => exact ⟨⟨j, hj, rfl⟩, rfl, fun _ _ => rfl⟩
  | @cons s u t args rest h reply _ hone hok hrest ih =>
      obtain ⟨more, rfl⟩ := hsets args List.mem_cons_self
      obtain rfl : j.name = name := by simpa using List.find?_some hj
      rw [result_proceed_obeyed hj hlevel htarget] at hone
      injection hone with hreply hu
      cases hx : j.obeyed ("set" :: j.name :: more)
          (asked ("set" :: j.name :: more) h) with
      | error e =>
          rw [hx] at hreply
          injection hreply with hreply
          rw [← hreply] at hok
          cases hok
      | ok x =>
          obtain ⟨v, j'⟩ := x
          rw [hx] at hu
          obtain rfl : s.replace j' = u := hu
          have hname := Jail.name_of_obeyed hx
          have hj' : (s.replace j').jail? j.name = some j' := by
            rw [← hname] at hj ⊢
            exact jail?_replace_self hj
          obtain ⟨⟨k, hk, hall⟩, hnames, hothers⟩ :=
            ih (fun args hmem => hsets args (List.mem_cons_of_mem _ hmem)) hj'
          refine ⟨⟨k, hk, Settings.obeyAll_cons.2
            ⟨_, settings_of_obeyed hx, hall⟩⟩, ?_, fun other hother => ?_⟩
          · rw [hnames, names_replace]
          · rw [hothers other hother, jail?_replace_of_ne (hname ▸ hother)]

/-- One server has, beside the jails of another, those that are declared:
each under a name that was new, with the settings that are declared of
it. -/
structure Adds (notifier : Filter.Notifier) (s : Server)
    (specs : List JailSpec) (t : Server) : Prop where
  new : ∀ spec ∈ specs, s.jail? spec.name = none
  jails : ∀ spec ∈ specs, ∃ j, t.jail? spec.name = some j
    ∧ spec.declared notifier = .ok j.settings
  distinct : (specs.map JailSpec.name).Nodup
  names : t.names.Perm (specs.map JailSpec.name ++ s.names)
  others : ∀ other, other ∉ specs.map JailSpec.name →
    t.jail? other = s.jail? other

/-- The requests of a jail add it. -/
theorem Built.jail {spec : JailSpec} (hlevel : spec.name ≠ "loglevel")
    (htarget : spec.name ≠ "logtarget")
    (h : Built σ notifier s spec.requests t) :
    Adds notifier s [spec] t := by
  rw [Config.JailSpec.requests_eq] at h
  cases h with
  | cons hnotifier hadd hok h =>
      obtain ⟨backend, watcher, j, hbackend, hway, hnew, hj, rfl⟩ :=
        added hadd hok
      rw [hnotifier] at hway
      have hname : j.name = spec.name := congrArg Settings.name hj
      have hfound : ({ s with jails := insertJail j s.jails } : Server).jail?
          spec.name = some j := by
        rw [← hname] at hnew ⊢
        exact find?_insertJail_self hnew
      obtain ⟨u, hsets, hstart⟩ := h.append
      obtain ⟨⟨k, hk, hall⟩, hnames, hothers⟩ :=
        hsets.sets (Sets.jail spec) hlevel htarget hfound
      cases hstart with
      | cons _ hone hok hnil =>
          cases hnil
          obtain ⟨k', l, hk', hlname, hl, rfl⟩ := started hone hok
          obtain rfl : k = k' := Option.some.inj (hk.symm.trans hk')
          have hkname : k.name = spec.name := by
            simpa using List.find?_some hk
          have hlspec : l.name = spec.name := hlname.trans hkname
          have hrunning : (u.replace l).jail? spec.name = some l := by
            rw [← hlspec] at hk ⊢
            exact jail?_replace_self hk
          have hdeclared : spec.declared notifier = .ok l.settings := by
            rw [hj] at hall
            rw [hl]
            exact Config.JailSpec.declared_of_obeyAll hbackend hway hall
          exact
            { new := List.forall_mem_singleton.2 hnew
              jails := List.forall_mem_singleton.2 ⟨l, hrunning, hdeclared⟩
              distinct := List.nodup_cons.2 ⟨List.not_mem_nil, .nil⟩
              names := by
                rw [names_replace, hnames, List.map_singleton, ← hname]
                exact (insertJail_perm j s.jails).map Jail.name
              others := by
                intro other hother
                replace hother := List.ne_of_not_mem_cons hother
                rw [jail?_replace_of_ne (hlspec ▸ hother),
                  hothers other hother]
                exact find?_insertJail_of_ne (hname ▸ hother) }

-- ============================================================ all jails

/-- Adding nothing. -/
theorem Adds.nil (s : Server) : Adds notifier s [] s where
  new := List.forall_mem_nil _
  jails := List.forall_mem_nil _
  distinct := .nil
  names := .refl _
  others := fun _ _ => rfl

/-- What was added first is there when more was added: the names are
different, because what is added is new. -/
theorem Adds.cons {spec : JailSpec} {specs : List JailSpec}
    (hone : Adds notifier s [spec] u) (hrest : Adds notifier u specs t) :
    Adds notifier s (spec :: specs) t := by
  obtain ⟨j, hj, hdeclared⟩ := hone.jails spec List.mem_cons_self
  have hfresh : spec.name ∉ specs.map JailSpec.name := by
    intro hmem
    obtain ⟨other, hother, hname⟩ := List.mem_map.1 hmem
    have hnone := hrest.new other hother
    rw [hname, hj] at hnone
    cases hnone
  have hkept : ∀ other, other ≠ spec.name → u.jail? other = s.jail? other :=
    fun other hother => hone.others other (by simpa using hother)
  exact
    { new := by
        refine List.forall_mem_cons.2 ⟨hone.new spec List.mem_cons_self, ?_⟩
        intro other hother
        rw [← hkept other.name fun hname =>
          hfresh (hname ▸ List.mem_map_of_mem hother)]
        exact hrest.new other hother
      jails := by
        refine List.forall_mem_cons.2 ⟨⟨j, ?_, hdeclared⟩, hrest.jails⟩
        rw [hrest.others spec.name hfresh, hj]
      distinct := List.nodup_cons.2 ⟨hfresh, hrest.distinct⟩
      names := by
        refine hrest.names.trans ?_
        refine (hone.names.append_left _).trans ?_
        exact List.perm_middle
      others := by
        intro other hother
        rw [List.map_cons, List.mem_cons, not_or] at hother
        rw [hrest.others other hother.2, hkept other hother.1] }

/-- The requests of jails add them. -/
theorem Built.jails {specs : List JailSpec}
    (hnames : ∀ spec ∈ specs,
      spec.name ≠ "loglevel" ∧ spec.name ≠ "logtarget")
    (h : Built σ notifier s (specs.flatMap JailSpec.requests) t) :
    Adds notifier s specs t := by
  induction specs generalizing s with
  | nil => cases h; exact .nil _
  | cons spec rest ih =>
      obtain ⟨hfirst, hrest⟩ := List.forall_mem_cons.1 hnames
      rw [List.flatMap_cons] at h
      obtain ⟨u, hone, h⟩ := h.append
      exact .cons (hone.jail hfirst.1 hfirst.2) (ih hrest h)

/-- A server has exactly the jails of a configuration that are enabled,
each once and with the settings that are declared. -/
structure Declares (c : Config) (notifier : Filter.Notifier)
    (t : Server) : Prop where
  names : t.names.Perm ((c.jails.filter JailSpec.enabled).map JailSpec.name)
  distinct : t.names.Nodup
  jails : ∀ spec ∈ c.jails, spec.enabled = true →
    ∃ j, t.jail? spec.name = some j
      ∧ spec.declared notifier = .ok j.settings

/-- What is added to no jails is all there is. -/
theorem Adds.declares {c : Config} (hempty : s.jails = [])
    (h : Adds notifier s (c.jails.filter JailSpec.enabled) t) :
    Declares c notifier t := by
  have hnames : t.names.Perm
      ((c.jails.filter JailSpec.enabled).map JailSpec.name) := by
    have hnone : s.names = [] := by
      unfold Server.names
      rw [hempty, List.map_nil]
    have hperm := h.names
    rw [hnone, List.append_nil] at hperm
    exact hperm
  exact
    { names := hnames
      distinct := hnames.nodup_iff.2 h.distinct
      jails := fun spec hmem henabled =>
        h.jails spec (List.mem_filter.2 ⟨hmem, henabled⟩) }

/-- A configuration that was carried out has built its jails. -/
theorem declares_of_apply {c : Config}
    (hnames : ∀ spec ∈ c.jails, spec.enabled = true →
      spec.name ≠ "loglevel" ∧ spec.name ≠ "logtarget")
    {h : Host σ} (hempty : s.jails = [])
    (happly : ((s.apply c.requests).result h).1 = some (.ok ())) :
    Declares c h.notifier ((s.apply c.requests).result h).2 := by
  refine Adds.declares hempty (Built.jails ?_
    (built_of_apply (fun _ => keeps_proceed_of_mem) happly))
  intro spec hmem
  obtain ⟨hmem, henabled⟩ := List.mem_filter.1 hmem
  exact hnames spec hmem henabled

/-- The text of a file that holds a good configuration is loaded. -/
theorem load_of_read {files : Disk.Tree} {path text : String} {c : Config}
    (hread : files.read path = .ok (Text.Utf8.encode text))
    (hparse : Config.ofYaml? text = some c) (hcheck : c.check = .ok ()) :
    Config.load files path = .ok c := by
  unfold Config.load
  rw [hread]
  dsimp only
  rw [Text.Utf8.fromUTF8?_encode]
  dsimp only
  rw [hparse]
  dsimp only
  rw [hcheck]

/-- A configuration with two jails that are enabled, and one that is
not. The network of the first entry to ignore is also that of the last. -/
def twoJails : Config :=
  { jails := [
    { name := "ssh", paths := ["auth.log", "old.log"], tail := true
      charset := some "cp866", fail := ["from <HOST>$"], ignore := ["^#"]
      ignored := ["10.1.2.3/8", "::1", "10.0.0.0/8"]
      findTime := some 1200, banTime := some (-1), useDns := some "no"
      datePattern := some "%s", ignoreCommand := some "known <ip>"
      actions := [
        { name := "fw", tags := [("set", "bad")]
          ban := "add <set> <ip>", unban := "del <set> <ip>" }] },
    { name := "off", enabled := false },
    { name := "web", backend := "polling", maxRetry := some 5
      maxLines := some 3 }] }

/-- The text of a file that declares them. -/
def twoJailsText : String :=
  String.join
  ["jails:\n",
    "- name: ssh\n",
    "  logpath: [auth.log, old.log]\n",
    "  tail: true\n",
    "  logencoding: cp866\n",
    "  failregex: ['from <HOST>$']\n",
    "  ignoreregex: ['^#']\n",
    "  ignoreip: [10.1.2.3/8, '::1', 10.0.0.0/8]\n",
    "  findtime: 1200\n",
    "  bantime: -1\n",
    "  usedns: 'no'\n",
    "  datepattern: '%s'\n",
    "  ignorecommand: known <ip>\n",
    "  actions:\n",
    "  - name: fw\n",
    "    cinfo: \x7bset: bad\x7d\n",
    "    ban: add <set> <ip>\n",
    "    unban: del <set> <ip>\n",
    "- \x7bname: off, enabled: false\x7d\n",
    "- \x7bname: web, backend: polling, maxretry: 5, maxlines: 3\x7d\n"]

/-- Files with the logs of the jails, and one with some bytes. -/
def filesWith (bytes : List UInt8) : Disk.Tree :=
  { Disk.Tree.initial with
    names := (["work", "jails.yaml"], 10) :: (["work", "auth.log"], 11)
      :: (["work", "old.log"], 12) :: Disk.Tree.initial.names
    nodes := (10, ⟨.file bytes, .moment 0⟩)
      :: (11, ⟨.file [97, 10], .moment 0⟩)
      :: (12, ⟨.file [], .moment 0⟩) :: Disk.Tree.initial.nodes }

theorem read_filesWith (bytes : List UInt8) :
    (filesWith bytes).read "jails.yaml" = .ok bytes := rfl

/-- Surroundings with the file. Nothing reports changes there. -/
def twoJailsFile : Host Script :=
  { now := 0
    files := filesWith (Text.Utf8.encode twoJailsText)
    notifier := { refusal? := some "Too many open files (os error 24)" }
    shell := {} }

theorem twoJails_applied :
    ((({} : Server).apply twoJails.requests).result twoJailsFile).1
      = some (.ok ()) := by
  apply Outcome.eq_some_ok_of_toOption
  decide +kernel

theorem twoJails_read : Config.ofYaml? twoJailsText = some twoJails := by
  unfold Config.ofYaml? Yaml.Document.read? Yaml.tokens? twoJailsText
  -- The kernel takes long over the characters of a long literal.
  rw [String.toList_join]
  decide +kernel

theorem twoJails_loaded :
    Config.load (asked ["reload"] twoJailsFile).files "jails.yaml"
      = .ok twoJails := by
  have hfiles : (asked ["reload"] twoJailsFile).files
      = filesWith (Text.Utf8.encode twoJailsText) := rfl
  have hcheck : twoJails.check = .ok () := by
    apply Outcome.eq_ok_of_toOption
    decide +kernel
  rw [hfiles]
  exact load_of_read (read_filesWith _) twoJails_read hcheck

theorem twoJails_reloaded :
    ((oneJail.proceed ["reload"]).result twoJailsFile).1.map
      Wire.Reply.code = some 0 := by
  have hpath : oneJail.configPath = some "jails.yaml" := by
    decide +kernel
  -- The file has been read above; it is not read again here.
  have hdone : ((oneJail.cleared.apply twoJails.requests).result
      (oneJail.emptied "jails.yaml" (asked ["reload"] twoJailsFile))).1
        = some (.ok ()) := by
    apply Outcome.eq_some_ok_of_toOption
    decide +kernel
  rw [result_proceed_reload, reload_loaded hpath twoJails_loaded,
    settled_of_done hdone]
  rfl

end Server

end Gatewatch
