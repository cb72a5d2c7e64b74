/-
What a configuration declares of a jail, and what its requests make of a
jail that was just added.

What is declared is read off the configuration, with what is usual in the
place of what is not said (`JailSpec.declared`). What is made is computed
by the effects of the requests, one after the other, on the settings of a
new jail (`Settings.obeyAll`). They agree whenever no request is refused
(`declared_of_obeyAll`).

# Why they agree

A value goes into a request as a word and is read back from it. Words are
taken as they are; what is joined from several words is one word here; a
number is read back as the number that was printed, or refused.

Every request acts on its own part of the settings, but for two. The
charset reaches the files that are there, and none is there yet because
it is set first. And what is said about an action goes to the action of
that name, which is the one that was added last: had there been another
one, it could not have been added.
-/
import Gatewatch.Proofs.Action.Tags
import Gatewatch.Proofs.Config.Requests
import Gatewatch.Proofs.Jail.Changes
import Gatewatch.Proofs.Text.Numeral

namespace Gatewatch

open Config (Words ActionSpec JailSpec optional)

-- ========================================================== declarations

/-- How files are watched by a backend, where changes are reported by
something that may refuse to: then they are polled if the choice is left
open. -/
def Filter.Backend.way (notifier : Filter.Notifier) :
    Filter.Backend → Outcome String
  | .polling => .ok "polling"
  | .auto => .ok (if notifier.refusal?.isSome then "polling" else "notify")
  | .notify => match notifier.refusal? with
    | some reason => .error (.noNotifier reason)
    | none => .ok "notify"

namespace Config

/-- What is said, or what is usual where nothing is said. -/
def said {α β : Type} (read : α → Outcome β) (usual : β) :
    Option α → Outcome β
  | some a => read a
  | none => .ok usual

/-- Reads a date pattern; the name of its template comes with it. -/
def readDatePattern (pattern : String) : Outcome (Option (String × String)) :=
  (Date.Template.ofFields pattern).map fun t => some (pattern, t.name)

/-- The action that is declared. -/
def ActionSpec.declared (a : ActionSpec) : Action where
  name := a.name
  tags := Action.TagMap.ofList a.tags
  templates :=
    { start := a.start, stop := a.stop, check := a.check, ban := a.ban
      unban := a.unban }

/-- The settings that are declared of a jail that is running. -/
def JailSpec.declared (j : JailSpec) (notifier : Filter.Notifier) :
    Outcome Jail.Settings := do
  let backend ← Filter.Backend.read j.backend
  let watcher ← backend.way notifier
  let charset ← said Filter.charsetOf Text.Charset.utf8 j.charset
  let fail ← j.fail.mapM Filter.LinePattern.read
  let ignore ← j.ignore.mapM Filter.LinePattern.read
  let useDns ← said Net.UseDns.read .warn j.useDns
  let datePattern ← said readDatePattern none j.datePattern
  return {
    name := j.name
    backend
    watcher
    running := true
    idle := false
    sources := j.paths.map (⟨·, j.tail, charset⟩)
    patterns := { fail, ignore }
    ignored := ⟨(j.ignored.map Net.IgnoreEntry.parse).eraseDups⟩
    findTime := j.findTime.getD 600
    maxRetry := j.maxRetry.getD 3
    banTime := j.banTime.getD 600
    useDns
    maxLines := j.maxLines.getD 1
    charset
    datePattern
    ignoreCommand := j.ignoreCommand.getD ""
    actions := j.actions.map ActionSpec.declared }

end Config

-- =============================================================== lists

/-- An entry is added behind those that are there, or is one of them. -/
theorem Net.IgnoreList.add_eraseDups (entries : List IgnoreEntry)
    (text : String) :
    ((⟨entries.eraseDups⟩ : IgnoreList).add text).1
      = ⟨(entries ++ [IgnoreEntry.parse text]).eraseDups⟩ := by
  have hiff : entries.eraseDups.contains (IgnoreEntry.parse text)
      = entries.elem (IgnoreEntry.parse text) := by
    rw [Bool.eq_iff_iff, List.contains_iff_mem, List.mem_eraseDups,
      List.elem_iff]
  unfold add
  rw [List.eraseDups_append, List.removeAll, List.filter_cons,
    List.filter_nil]
  dsimp only
  rw [hiff]
  cases entries.elem (IgnoreEntry.parse text) with
  | true => exact congrArg IgnoreList.mk (List.append_nil _).symm
  | false => rfl

/-- Entries that are added to an empty list are there once each, in the
order in which they came first. -/
theorem Net.IgnoreList.foldl_add (texts : List String) :
    texts.foldl (fun l text => (l.add text).1) {}
      = (⟨(texts.map IgnoreEntry.parse).eraseDups⟩ : IgnoreList) := by
  suffices h : ∀ entries : List IgnoreEntry,
      texts.foldl (fun (l : IgnoreList) text => (l.add text).1)
          ⟨entries.eraseDups⟩
        = ⟨(entries ++ texts.map IgnoreEntry.parse).eraseDups⟩ from h []
  induction texts with
  | nil => intro entries; rw [List.map_nil, List.append_nil]; rfl
  | cons text rest ih =>
      intro entries
      rw [List.foldl_cons, add_eraseDups, ih, List.map_cons,
        List.append_assoc, List.singleton_append]

/-- What is read as it is, is left as it is. -/
theorem mapM_ok {α : Type} {items read : List α}
    (h : items.mapM (.ok : α → Outcome α) = .ok read) : read = items := by
  have hpure : items.mapM (.ok : α → Outcome α) = .ok (items.map id) :=
    List.mapM_pure
  rw [hpure, List.map_id] at h
  injection h with h
  exact h.symm

namespace Jail.Settings

-- ============================================================ settings

/-- The settings of a jail that was just added. -/
def fresh (name : String) (backend : Filter.Backend) (watcher : String) :
    Settings where
  name := name
  backend := backend
  watcher := watcher
  running := false
  idle := false
  sources := []
  patterns := {}
  ignored := {}
  findTime := 600
  maxRetry := 3
  banTime := 600
  useDns := .warn
  maxLines := 1
  charset := Text.Charset.utf8
  datePattern := none
  ignoreCommand := ""
  actions := []

-- ============================================================= requests

/-- What a request to set something makes of settings. -/
def obey (s : Settings) (args : List String) : Outcome Settings := do
  (← Change.read args).effect s

/-- What requests in order make of settings. -/
def obeyAll (s : Settings) (requests : List (List String)) :
    Outcome Settings :=
  requests.foldlM obey s

variable {s t : Settings} {α β : Type}

theorem obeyAll_cons {args : List String} {rest : List (List String)} :
    s.obeyAll (args :: rest) = .ok t
      ↔ ∃ u, s.obey args = .ok u ∧ u.obeyAll rest = .ok t :=
  Outcome.bind_eq_ok

theorem obeyAll_append {first rest : List (List String)} :
    s.obeyAll (first ++ rest) = .ok t
      ↔ ∃ u, s.obeyAll first = .ok u ∧ u.obeyAll rest = .ok t := by
  unfold obeyAll
  rw [List.foldlM_append]
  exact Outcome.bind_eq_ok

/-- A request whose words are read has the effect of its change. -/
theorem obey_of_read {args : List String} {c : Change}
    (hread : Change.read args = .ok c) : s.obey args = c.effect s := by
  unfold obey
  rw [hread]
  rfl

/-- Requests for some items, each of which adds something, add all of
it. -/
theorem obeyAll_map {f : α → Words} (read : α → Outcome β)
    (put : List β → Settings → Settings)
    (hnil : ∀ s, put [] s = s)
    (happend : ∀ bs cs s, put cs (put bs s) = put (bs ++ cs) s)
    (hstep : ∀ a {s t : Settings}, s.obey (f a) = .ok t →
      ∃ b, read a = .ok b ∧ t = put [b] s)
    {items : List α} (h : s.obeyAll (items.map f) = .ok t) :
    ∃ bs, items.mapM read = .ok bs ∧ t = put bs s := by
  induction items generalizing s with
  | nil =>
      injection h with h
      exact ⟨[], rfl, h.symm.trans (hnil s).symm⟩
  | cons a rest ih =>
      obtain ⟨u, hu, hrest⟩ := obeyAll_cons.1 h
      obtain ⟨b, hb, rfl⟩ := hstep a hu
      obtain ⟨bs, hbs, rfl⟩ := ih hrest
      refine ⟨b :: bs, ?_, happend [b] bs s⟩
      rw [List.mapM_cons, hb, hbs]
      rfl

/-- A request for an option puts what is said; what is usual is there
already. -/
theorem obeyAll_optional {f : α → Words} (read : α → Outcome β)
    (put : β → Settings → Settings) (usual : β)
    (husual : put usual s = s)
    (hstep : ∀ a {t : Settings}, s.obey (f a) = .ok t →
      ∃ b, read a = .ok b ∧ t = put b s)
    {o : Option α} (h : s.obeyAll (optional f o) = .ok t) :
    ∃ b, Config.said read usual o = .ok b ∧ t = put b s := by
  cases o with
  | none =>
      injection h with h
      exact ⟨usual, rfl, h.symm.trans husual.symm⟩
  | some a =>
      obtain ⟨u, hu, hrest⟩ := obeyAll_cons.1 h
      injection hrest with hrest
      exact hstep a (hrest ▸ hu)

-- ============================================================== options

section Options

variable {name : String}

theorem obey_charset {label : String}
    (h : s.obey ["set", name, "logencoding", label] = .ok t) :
    ∃ charset, Filter.charsetOf label = .ok charset
      ∧ t = { s with
          charset, sources := s.sources.map ({ · with charset }) } := by
  rw [obey_of_read (c := .charset label) rfl] at h
  obtain ⟨charset, hcharset, ht⟩ := Outcome.map_eq_ok.1 h
  exact ⟨charset, hcharset, ht.symm⟩

/-- A charset that is said before there are any files. -/
theorem obeyAll_charset {o : Option String} (hnone : s.sources = [])
    (h : s.obeyAll (optional (["set", name, "logencoding", ·]) o)
      = .ok t) :
    ∃ charset, Config.said Filter.charsetOf s.charset o = .ok charset
      ∧ t = { s with charset } := by
  refine obeyAll_optional Filter.charsetOf
    (fun charset s => { s with charset }) s.charset rfl
    (fun label u hu => ?_) h
  obtain ⟨charset, hcharset, rfl⟩ := obey_charset hu
  exact ⟨charset, hcharset, by rw [hnone, List.map_nil, ← hnone]⟩

theorem obey_path {path : String} {tail : Bool}
    (h : s.obey ["set", name, "addlogpath", path,
      if tail then "tail" else "head"] = .ok t) :
    t = { s with sources := s.sources ++ [⟨path, tail, s.charset⟩] } := by
  have hread : Change.read ["set", name, "addlogpath", path,
      if tail then "tail" else "head"] = .ok (.addPath path tail) := by
    cases tail <;> rfl
  rw [obey_of_read hread] at h
  injection h with h
  exact h.symm

theorem obeyAll_paths {paths : List String} {tail : Bool}
    (h : s.obeyAll (paths.map fun path => ["set", name, "addlogpath", path,
      if tail then "tail" else "head"]) = .ok t) :
    t = { s with
      sources := s.sources ++ paths.map (⟨·, tail, s.charset⟩) } := by
  obtain ⟨_, hpaths, rfl⟩ := obeyAll_map .ok
    (fun paths s => { s with
      sources := s.sources ++ paths.map (⟨·, tail, s.charset⟩) })
    (fun s => by rw [List.map_nil, List.append_nil])
    (fun _ _ _ => by rw [List.map_append, List.append_assoc])
    (fun path _ _ h => ⟨path, rfl, obey_path h⟩) h
  rw [mapM_ok hpaths]

theorem obey_fail {pattern : String}
    (h : s.obey ["set", name, "addfailregex", pattern] = .ok t) :
    ∃ line, Filter.LinePattern.read pattern = .ok line
      ∧ t = { s with patterns :=
          { s.patterns with fail := s.patterns.fail ++ [line] } } := by
  rw [obey_of_read (c := .addFail pattern) rfl] at h
  obtain ⟨patterns, hpatterns, ht⟩ := Outcome.map_eq_ok.1 h
  obtain ⟨line, hline, hadd⟩ := Outcome.bind_eq_ok.1 hpatterns
  refine ⟨line, hline, ?_⟩
  split at hadd
  case isTrue => injection hadd with hadd; rw [← ht, ← hadd]
  case isFalse => cases hadd

theorem obeyAll_fail {patterns : List String}
    (h : s.obeyAll (patterns.map (["set", name, "addfailregex", ·]))
      = .ok t) :
    ∃ lines, patterns.mapM Filter.LinePattern.read = .ok lines
      ∧ t = { s with patterns :=
          { s.patterns with fail := s.patterns.fail ++ lines } } :=
  obeyAll_map Filter.LinePattern.read
    (fun lines s => { s with patterns :=
      { s.patterns with fail := s.patterns.fail ++ lines } })
    (fun s => by rw [List.append_nil])
    (fun _ _ _ => by rw [List.append_assoc]) (fun _ _ _ => obey_fail) h

theorem obey_ignore {pattern : String}
    (h : s.obey ["set", name, "addignoreregex", pattern] = .ok t) :
    ∃ line, Filter.LinePattern.read pattern = .ok line
      ∧ t = { s with patterns :=
          { s.patterns with ignore := s.patterns.ignore ++ [line] } } := by
  rw [obey_of_read (c := .addIgnore pattern) rfl] at h
  obtain ⟨patterns, hpatterns, ht⟩ := Outcome.map_eq_ok.1 h
  obtain ⟨line, hline, hadd⟩ := Outcome.bind_eq_ok.1 hpatterns
  injection hadd with hadd
  exact ⟨line, hline, by rw [← ht, ← hadd]⟩

theorem obeyAll_ignore {patterns : List String}
    (h : s.obeyAll (patterns.map (["set", name, "addignoreregex", ·]))
      = .ok t) :
    ∃ lines, patterns.mapM Filter.LinePattern.read = .ok lines
      ∧ t = { s with patterns :=
          { s.patterns with ignore := s.patterns.ignore ++ lines } } :=
  obeyAll_map Filter.LinePattern.read
    (fun lines s => { s with patterns :=
      { s.patterns with ignore := s.patterns.ignore ++ lines } })
    (fun s => by rw [List.append_nil])
    (fun _ _ _ => by rw [List.append_assoc]) (fun _ _ _ => obey_ignore) h

theorem obey_ignored {entry : String}
    (h : s.obey ["set", name, "addignoreip", entry] = .ok t) :
    t = { s with ignored := (s.ignored.add entry).1 } := by
  rw [obey_of_read (c := .addIgnored entry) rfl] at h
  injection h with h
  exact h.symm

theorem obeyAll_ignored {entries : List String}
    (h : s.obeyAll (entries.map (["set", name, "addignoreip", ·]))
      = .ok t) :
    t = { s with
      ignored :=
        entries.foldl (fun l entry => (l.add entry).1) s.ignored } := by
  obtain ⟨_, hentries, rfl⟩ := obeyAll_map .ok
    (fun entries s => { s with
      ignored := entries.foldl (fun l entry => (l.add entry).1) s.ignored })
    (fun _ => rfl) (fun _ _ _ => by rw [List.foldl_append])
    (fun entry _ _ h => ⟨entry, rfl, obey_ignored h⟩) h
  rw [mapM_ok hentries]

/-- A request whose last word writes a number does what that number
says. -/
theorem eq_of_obey_number {args : List String} {what w : String}
    {read : List Char → Option α} {k : α → Outcome Change} {n : α}
    {u : Settings} (h : s.obey args = .ok t)
    (hread : Change.read args = number args 3 what read >>= k)
    (hw : args[3]? = some w) (hsame : ∀ m, read w.toList = some m → m = n)
    (heffect : ∀ c, k n = .ok c → c.effect s = .ok u) : t = u := by
  obtain ⟨c, hc, hdone⟩ := Outcome.bind_eq_ok.1 h
  rw [hread] at hc
  obtain ⟨m, hm, hk⟩ := Outcome.bind_eq_ok.1 hc
  obtain ⟨word, hword, hnumber⟩ := number_eq_ok_iff.1 hm
  injection hw.symm.trans hword with hw
  rw [hsame m (hw ▸ hnumber)] at hk
  rw [heffect c hk] at hdone
  injection hdone with hdone
  exact hdone.symm

/-- What is said and taken as it is takes the place of what was there. -/
theorem obeyAll_said {f : α → Words} (put : α → Settings → Settings)
    (usual : α) (husual : put usual s = s)
    (hstep : ∀ a {t : Settings}, s.obey (f a) = .ok t → t = put a s)
    {o : Option α} (h : s.obeyAll (optional f o) = .ok t) :
    t = put (o.getD usual) s := by
  obtain ⟨a, ha, rfl⟩ := obeyAll_optional .ok put usual husual
    (fun a _ h => ⟨a, rfl, hstep a h⟩) h
  cases o <;> (injection ha with ha; rw [← ha]; rfl)

theorem obey_findTime {secs : Int}
    (h : s.obey ["set", name, "findtime", toString secs] = .ok t) :
    t = { s with findTime := secs } := by
  refine eq_of_obey_number h rfl rfl
    (fun m => Text.eq_of_signed?_toString) (fun c hc => ?_)
  split at hc
  case isTrue => cases hc
  case isFalse => injection hc with hc; rw [← hc]; rfl

theorem obeyAll_findTime {o : Option Int}
    (h : s.obeyAll (optional (fun n => ["set", name, "findtime", toString n]) o)
      = .ok t) :
    t = { s with findTime := o.getD s.findTime } :=
  obeyAll_said (fun a s => { s with findTime := a }) s.findTime rfl
    (fun _ _ => obey_findTime) h

theorem obey_maxRetry {n : Nat}
    (h : s.obey ["set", name, "maxretry", toString n] = .ok t) :
    t = { s with maxRetry := n } := by
  refine eq_of_obey_number h rfl rfl
    (fun m => Text.eq_of_unsigned?_toString) (fun c hc => ?_)
  split at hc
  case isTrue => cases hc
  case isFalse => injection hc with hc; rw [← hc]; rfl

theorem obeyAll_maxRetry {o : Option Nat}
    (h : s.obeyAll (optional (fun n => ["set", name, "maxretry", toString n]) o)
      = .ok t) :
    t = { s with maxRetry := o.getD s.maxRetry } :=
  obeyAll_said (fun a s => { s with maxRetry := a }) s.maxRetry rfl
    (fun _ _ => obey_maxRetry) h

theorem obey_banTime {secs : Int}
    (h : s.obey ["set", name, "bantime", toString secs] = .ok t) :
    t = { s with banTime := secs } := by
  refine eq_of_obey_number h rfl rfl
    (fun m => Text.eq_of_signed?_toString) (fun c hc => ?_)
  injection hc with hc
  rw [← hc]
  rfl

theorem obeyAll_banTime {o : Option Int}
    (h : s.obeyAll (optional (fun n => ["set", name, "bantime", toString n]) o)
      = .ok t) :
    t = { s with banTime := o.getD s.banTime } :=
  obeyAll_said (fun a s => { s with banTime := a }) s.banTime rfl
    (fun _ _ => obey_banTime) h

theorem obey_maxLines {n : Nat}
    (h : s.obey ["set", name, "maxlines", toString n] = .ok t) :
    t = { s with maxLines := n } := by
  refine eq_of_obey_number h rfl rfl
    (fun m => Text.eq_of_unsigned?_toString) (fun c hc => ?_)
  injection hc with hc
  rw [← hc]
  rfl

theorem obeyAll_maxLines {o : Option Nat}
    (h : s.obeyAll (optional (fun n => ["set", name, "maxlines", toString n]) o)
      = .ok t) :
    t = { s with maxLines := o.getD s.maxLines } :=
  obeyAll_said (fun a s => { s with maxLines := a }) s.maxLines rfl
    (fun _ _ => obey_maxLines) h

theorem obey_useDns {mode : String}
    (h : s.obey ["set", name, "usedns", mode] = .ok t) :
    ∃ useDns, Net.UseDns.read mode = .ok useDns ∧ t = { s with useDns } := by
  obtain ⟨c, hc, hdone⟩ := Outcome.bind_eq_ok.1 h
  obtain ⟨option, hoption, hc⟩ := Outcome.bind_eq_ok.1 hc
  injection hoption with hoption
  rw [← hoption] at hc
  simp only at hc
  obtain ⟨useDns, hnumber, hc⟩ := Outcome.bind_eq_ok.1 hc
  obtain ⟨word, hword, hread⟩ := number_eq_ok_iff.1 hnumber
  injection hword with hword
  injection hc with hc
  rw [← hc] at hdone
  injection hdone with hdone
  refine ⟨useDns, ?_, hdone.symm⟩
  unfold readUseDns at hread
  rw [String.ofList_toList, ← hword] at hread
  cases hmode : Net.UseDns.read mode with
  | error e => rw [hmode] at hread; cases hread
  | ok m =>
      rw [hmode] at hread
      exact congrArg Except.ok (Option.some.inj hread)

theorem obeyAll_useDns {o : Option String}
    (h : s.obeyAll (optional (["set", name, "usedns", ·]) o) = .ok t) :
    ∃ useDns, Config.said Net.UseDns.read s.useDns o = .ok useDns
      ∧ t = { s with useDns } :=
  obeyAll_optional Net.UseDns.read (fun useDns s => { s with useDns })
    s.useDns rfl (fun _ _ => obey_useDns) h

theorem obey_datePattern {pattern : String}
    (h : s.obey ["set", name, "datepattern", pattern] = .ok t) :
    ∃ datePattern, Config.readDatePattern pattern = .ok datePattern
      ∧ t = { s with datePattern } := by
  rw [obey_of_read (c := .datePattern pattern) rfl] at h
  obtain ⟨template, htemplate, ht⟩ := Outcome.map_eq_ok.1 h
  exact ⟨_, Outcome.map_eq_ok.2 ⟨template, htemplate, rfl⟩, ht.symm⟩

theorem obeyAll_datePattern {o : Option String}
    (h : s.obeyAll (optional (["set", name, "datepattern", ·]) o)
      = .ok t) :
    ∃ datePattern, Config.said Config.readDatePattern s.datePattern o
        = .ok datePattern ∧ t = { s with datePattern } :=
  obeyAll_optional Config.readDatePattern
    (fun datePattern s => { s with datePattern }) s.datePattern rfl
    (fun _ _ => obey_datePattern) h

theorem obey_ignoreCommand {command : String}
    (h : s.obey ["set", name, "ignorecommand", command] = .ok t) :
    t = { s with ignoreCommand := command } := by
  rw [obey_of_read (c := .ignoreCommand command) rfl] at h
  injection h with h
  exact h.symm

theorem obeyAll_ignoreCommand {o : Option String}
    (h : s.obeyAll (optional (["set", name, "ignorecommand", ·]) o)
      = .ok t) :
    t = { s with ignoreCommand := o.getD s.ignoreCommand } :=
  obeyAll_said (fun a s => { s with ignoreCommand := a }) s.ignoreCommand rfl
    (fun _ _ => obey_ignoreCommand) h

end Options

-- ============================================================== actions

section Actions

variable {name : String} {x : Action}

/-- The settings with one more action, behind the others. -/
def withAction (s : Settings) (x : Action) : Settings :=
  { s with actions := s.actions ++ [x] }

/-- Where no other action has its name, the last action is the one that is
changed. -/
theorem alter_last {actions : List Action} {f : Action → Action}
    (hnew : ∀ b ∈ actions, b.name ≠ x.name) (hname : (f x).name = x.name) :
    alter x.name f (actions ++ [x]) = .ok (actions ++ [f x]) := by
  have hfound : (actions ++ [x]).find? (·.name == x.name) = some x := by
    rw [List.find?_append, List.find?_eq_none.2 (by simpa using hnew)]
    simp
  have hothers : actions.map (fun b => if b.name = x.name then f x else b)
      = actions :=
    (List.map_congr_left (g := id) fun b hb => if_neg (hnew b hb)).trans
      (List.map_id actions)
  unfold alter
  rw [hfound]
  dsimp only
  rw [hname, List.map_append, hothers, List.map_singleton, if_pos rfl]

theorem obey_addAction {action : String}
    (h : s.obey ["set", name, "addaction", action] = .ok t) :
    (∀ b ∈ s.actions, b.name ≠ action) ∧ t = s.withAction { name := action } := by
  rw [obey_of_read (c := .addAction action) rfl] at h
  unfold Change.effect at h
  dsimp only at h
  split at h
  case isTrue => cases h
  case isFalse hnew =>
    injection h with h
    rw [Option.not_isSome_iff_eq_none, List.find?_eq_none] at hnew
    exact ⟨by simpa using hnew, h.symm⟩

theorem obeyAll_tags {tags : List (String × String)}
    (hnew : ∀ b ∈ s.actions, b.name ≠ x.name)
    (h : (s.withAction x).obeyAll (tags.map fun (key, value) =>
      ["set", name, "setcinfo", x.name, key, value]) = .ok t) :
    t = s.withAction { x with
      tags := tags.foldl (fun m tag => Action.TagMap.put tag.1 tag.2 m)
        x.tags } := by
  induction tags generalizing x with
  | nil => injection h with h; exact h.symm
  | cons tag rest ih =>
      obtain ⟨u, hu, hrest⟩ := obeyAll_cons.1 h
      rw [obey_of_read (c := .setTag x.name tag.1 tag.2) rfl] at hu
      obtain ⟨actions, hactions, rfl⟩ := Outcome.map_eq_ok.1 hu
      rw [withAction, alter_last (f := (·.setTag tag.1 tag.2)) hnew rfl]
        at hactions
      injection hactions with hactions
      rw [← hactions] at hrest
      exact ih (x := x.setTag tag.1 tag.2) hnew hrest

/-- To put the template that is there changes nothing. -/
theorem put_get_self (t : Action.Templates) (role : Action.Role) :
    t.put role (t.get role) = t := by
  cases role <;> rfl

theorem obeyAll_template {option text : String} {role : Action.Role}
    (hread : Change.read ["set", name, option, x.name, text]
      = .ok (.setCommand role x.name text))
    (hempty : x.templates.get role = "")
    (hnew : ∀ b ∈ s.actions, b.name ≠ x.name)
    (h : (s.withAction x).obeyAll (if text = "" then []
      else [["set", name, option, x.name, text]]) = .ok t) :
    t = s.withAction { x with templates := x.templates.put role text } := by
  split at h
  case isTrue htext =>
    injection h with h
    rw [htext, ← hempty, put_get_self]
    exact h.symm
  case isFalse =>
    obtain ⟨u, hu, hrest⟩ := obeyAll_cons.1 h
    injection hrest with hrest
    rw [obey_of_read hread] at hu
    obtain ⟨actions, hactions, rfl⟩ := Outcome.map_eq_ok.1 hu
    rw [withAction, alter_last (f := fun a => (a.setCommand role text).value)
      hnew rfl] at hactions
    injection hactions with hactions
    rw [← hrest, ← hactions]
    rfl

/-- The requests that set up an action add the action that is declared. -/
theorem obeyAll_action {a : ActionSpec}
    (h : s.obeyAll (a.requests name) = .ok t) :
    t = s.withAction a.declared := by
  rw [ActionSpec.requests_eq] at h
  obtain ⟨s₁, h₁, h⟩ := obeyAll_cons.1 h
  obtain ⟨hnew, rfl⟩ := obey_addAction h₁
  obtain ⟨s₂, h₂, h⟩ := obeyAll_append.1 h
  obtain rfl := obeyAll_tags (x := { name := a.name }) hnew h₂
  obtain ⟨s₃, h₃, h⟩ := obeyAll_append.1 h
  obtain rfl := obeyAll_template rfl rfl hnew h₃
  obtain ⟨s₄, h₄, h⟩ := obeyAll_append.1 h
  obtain rfl := obeyAll_template rfl rfl hnew h₄
  obtain ⟨s₅, h₅, h⟩ := obeyAll_append.1 h
  obtain rfl := obeyAll_template rfl rfl hnew h₅
  obtain ⟨s₆, h₆, h⟩ := obeyAll_append.1 h
  obtain rfl := obeyAll_template rfl rfl hnew h₆
  exact obeyAll_template rfl rfl hnew h

/-- The requests for actions add them in order. -/
theorem obeyAll_actions {actions : List ActionSpec}
    (h : s.obeyAll (actions.flatMap (·.requests name)) = .ok t) :
    t = { s with
      actions := s.actions ++ actions.map ActionSpec.declared } := by
  induction actions generalizing s with
  | nil =>
      injection h with h
      rw [← h, List.map_nil, List.append_nil]
  | cons a rest ih =>
      rw [List.flatMap_cons] at h
      obtain ⟨u, hu, hrest⟩ := obeyAll_append.1 h
      obtain rfl := obeyAll_action hu
      rw [ih hrest]
      simp only [withAction, List.map_cons, List.append_assoc,
        List.singleton_append]

end Actions

end Jail.Settings

-- =============================================================== jails

section Jails

open Jail.Settings

/-- A new jail that obeys the requests that set it up, and is started
then, has the settings that are declared. -/
theorem Config.JailSpec.declared_of_obeyAll {j : JailSpec}
    {backend : Filter.Backend} {notifier : Filter.Notifier}
    {watcher : String} {t : Jail.Settings}
    (hbackend : Filter.Backend.read j.backend = .ok backend)
    (hway : backend.way notifier = .ok watcher)
    (h : (fresh j.name backend watcher).obeyAll j.setRequests = .ok t) :
    j.declared notifier = .ok { t with running := true } := by
  obtain ⟨s₁, h₁, h⟩ := obeyAll_append.1 h
  obtain ⟨charset, hcharset, e₁⟩ := obeyAll_charset rfl h₁
  obtain ⟨s₂, h₂, h⟩ := obeyAll_append.1 h
  have e₂ := obeyAll_paths h₂
  obtain ⟨s₃, h₃, h⟩ := obeyAll_append.1 h
  obtain ⟨fail, hfail, e₃⟩ := obeyAll_fail h₃
  obtain ⟨s₄, h₄, h⟩ := obeyAll_append.1 h
  obtain ⟨ignore, hignore, e₄⟩ := obeyAll_ignore h₄
  obtain ⟨s₅, h₅, h⟩ := obeyAll_append.1 h
  have e₅ := obeyAll_ignored h₅
  obtain ⟨s₆, h₆, h⟩ := obeyAll_append.1 h
  have e₆ := obeyAll_findTime h₆
  obtain ⟨s₇, h₇, h⟩ := obeyAll_append.1 h
  have e₇ := obeyAll_maxRetry h₇
  obtain ⟨s₈, h₈, h⟩ := obeyAll_append.1 h
  have e₈ := obeyAll_banTime h₈
  obtain ⟨s₉, h₉, h⟩ := obeyAll_append.1 h
  obtain ⟨useDns, huseDns, e₉⟩ := obeyAll_useDns h₉
  obtain ⟨s₁₀, h₁₀, h⟩ := obeyAll_append.1 h
  have e₁₀ := obeyAll_maxLines h₁₀
  obtain ⟨s₁₁, h₁₁, h⟩ := obeyAll_append.1 h
  obtain ⟨datePattern, hdatePattern, e₁₁⟩ := obeyAll_datePattern h₁₁
  obtain ⟨s₁₂, h₁₂, h⟩ := obeyAll_append.1 h
  have e₁₂ := obeyAll_ignoreCommand h₁₂
  have e := obeyAll_actions h
  have hdns : s₈.useDns = .warn := by
    simp only [e₈, e₇, e₆, e₅, e₄, e₃, e₂, e₁, fresh]
  have hpattern : s₁₀.datePattern = none := by
    simp only [e₁₀, e₉, e₈, e₇, e₆, e₅, e₄, e₃, e₂, e₁, fresh]
  rw [hdns] at huseDns
  rw [hpattern] at hdatePattern
  refine Outcome.bind_eq_ok.2 ⟨backend, hbackend, ?_⟩
  refine Outcome.bind_eq_ok.2 ⟨watcher, hway, ?_⟩
  refine Outcome.bind_eq_ok.2 ⟨charset, hcharset, ?_⟩
  refine Outcome.bind_eq_ok.2 ⟨fail, hfail, ?_⟩
  refine Outcome.bind_eq_ok.2 ⟨ignore, hignore, ?_⟩
  refine Outcome.bind_eq_ok.2 ⟨useDns, huseDns, ?_⟩
  refine Outcome.bind_eq_ok.2 ⟨datePattern, hdatePattern, ?_⟩
  simp only [e, e₁₂, e₁₁, e₁₀, e₉, e₈, e₇, e₆, e₅, e₄, e₃, e₂, e₁, fresh,
    List.nil_append, Net.IgnoreList.foldl_add]
  rfl

end Jails

end Gatewatch
