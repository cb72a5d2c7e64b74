/-
The requests of a configuration by their first words.

The requests of a jail are one that adds it, those that set something of
it, and one that starts it. Nothing else is ever asked while a
configuration is carried out: no reload, no wait, no other jail.
-/
import Gatewatch.Config.Basic

namespace Gatewatch.Config

-- =============================================================== jails

/-- The requests that set up an action, after it was added. -/
def ActionSpec.setRequests (jail : String) (a : ActionSpec) : List Words :=
  let template (option text : String) : List Words :=
    if text = "" then [] else [["set", jail, option, a.name, text]]
  a.tags.map (fun (key, value) =>
      ["set", jail, "setcinfo", a.name, key, value])
    ++ (template "actionstart" a.start
    ++ (template "actionstop" a.stop
    ++ (template "actioncheck" a.check
    ++ (template "actionban" a.ban
    ++ template "actionunban" a.unban))))

/-- The requests that set something of a jail. -/
def JailSpec.setRequests (j : JailSpec) : List Words :=
  let set (option value : String) : Words := ["set", j.name, option, value]
  optional (set "logencoding") j.charset
    ++ (j.paths.map (fun path =>
      ["set", j.name, "addlogpath", path, if j.tail then "tail" else "head"])
    ++ (j.fail.map (set "addfailregex")
    ++ (j.ignore.map (set "addignoreregex")
    ++ (j.ignored.map (set "addignoreip")
    ++ (optional (fun n => set "findtime" (toString n)) j.findTime
    ++ (optional (fun n => set "maxretry" (toString n)) j.maxRetry
    ++ (optional (fun n => set "bantime" (toString n)) j.banTime
    ++ (optional (set "usedns") j.useDns
    ++ (optional (fun n => set "maxlines" (toString n)) j.maxLines
    ++ (optional (set "datepattern") j.datePattern
    ++ (optional (set "ignorecommand") j.ignoreCommand
    ++ j.actions.flatMap (·.requests j.name))))))))))))

theorem ActionSpec.requests_eq (jail : String) (a : ActionSpec) :
    a.requests jail
      = ["set", jail, "addaction", a.name] :: a.setRequests jail := by
  simp only [requests, setRequests, List.append_assoc, List.cons_append,
    List.nil_append]

/-- A jail is added, set up and started. -/
theorem JailSpec.requests_eq (j : JailSpec) :
    j.requests = ["add", j.name, j.backend]
      :: (j.setRequests ++ [["start", j.name]]) := by
  simp only [requests, setRequests, List.append_assoc, List.cons_append,
    List.nil_append]

-- =============================================================== words

/-- Requests that set something of the jail of a name. -/
def Sets (name : String) (requests : List Words) : Prop :=
  ∀ args ∈ requests, ∃ more, args = "set" :: name :: more

namespace Sets

variable {name : String} {α : Type}

theorem nil : Sets name [] := nofun

theorem cons {more : Words} {rest : List Words} (h : Sets name rest) :
    Sets name (("set" :: name :: more) :: rest) :=
  List.forall_mem_cons.2 ⟨⟨more, rfl⟩, h⟩

theorem append {as bs : List Words} (ha : Sets name as)
    (hb : Sets name bs) : Sets name (as ++ bs) :=
  List.forall_mem_append.2 ⟨ha, hb⟩

theorem map {f : α → Words} (h : ∀ a, ∃ more, f a = "set" :: name :: more)
    (items : List α) : Sets name (items.map f) :=
  List.forall_mem_map.2 fun a _ => h a

theorem optional {f : α → Words}
    (h : ∀ a, ∃ more, f a = "set" :: name :: more) (o : Option α) :
    Sets name (Config.optional f o) := by
  cases o with
  | none => exact nil
  | some a => exact List.forall_mem_singleton.2 (h a)

theorem action (jail : String) (a : ActionSpec) :
    Sets jail (a.requests jail) := by
  have htemplate : ∀ option text : String, Sets jail
      (if text = "" then [] else [["set", jail, option, a.name, text]]) := by
    intro option text
    split
    case isTrue => exact nil
    case isFalse => exact cons nil
  rw [ActionSpec.requests_eq]
  refine cons (append (map (fun _ => ⟨_, rfl⟩) _) ?_)
  exact append (htemplate _ _) (append (htemplate _ _)
    (append (htemplate _ _) (append (htemplate _ _) (htemplate _ _))))

/-- Between its first and its last request, a jail is only set up. -/
theorem jail (j : JailSpec) : Sets j.name j.setRequests := by
  have hactions : Sets j.name (j.actions.flatMap (·.requests j.name)) := by
    intro args hmem
    obtain ⟨a, -, hargs⟩ := List.mem_flatMap.1 hmem
    exact action j.name a args hargs
  unfold JailSpec.setRequests
  repeat' apply append
  all_goals first
    | exact hactions
    | exact map (fun _ => ⟨_, rfl⟩) _
    | exact optional (fun _ => ⟨_, rfl⟩) _

end Sets

/-- The requests of a configuration add, set and start. -/
theorem head?_of_mem_requests {c : Config} {args : Words}
    (h : args ∈ c.requests) :
    args.head? = some "add" ∨ args.head? = some "set"
      ∨ args.head? = some "start" := by
  obtain ⟨j, -, hargs⟩ := List.mem_flatMap.1 h
  rw [JailSpec.requests_eq] at hargs
  rcases List.mem_cons.1 hargs with rfl | hargs
  · exact .inl rfl
  · rcases List.mem_append.1 hargs with hset | hstart
    · obtain ⟨more, rfl⟩ := Sets.jail j args hset
      exact .inr (.inl rfl)
    · rw [List.mem_singleton.1 hstart]
      exact .inr (.inr rfl)

end Gatewatch.Config
