/-
Requests that are refused: they leave the server as it was.

Every handler hands back a server, also when it refuses. All but one have
decided whether to refuse before anything is put into that server, so it
is the one that they were given. The exception is a reload, which is left
out of this file: what it does when it fails is the matter of the next
one.

Only the server is looked at here. What a refused request leaves of its
surroundings takes a look into each handler, and comes later.
-/
import Gatewatch.Proofs.Jail.Changes
import Gatewatch.Proofs.Server.Registry
import Gatewatch.Server.Request

namespace Gatewatch.Server

open Json (Value)

variable {σ : Type}

-- ============================================================ replies

/-- A reply that is no success is to a refusal. -/
theorem replyTo_failed {args : List String} {x : Reaction} {h : Host σ}
    {reply : Wire.Reply} (hreply : (replyTo args x).result h = some reply)
    (hfailed : reply.isOk = false) :
    ∃ e, x = .refusal e ∧ reply = .error e.message := by
  cases x with
  | answer v =>
      injection hreply with hreply
      rw [← hreply] at hfailed
      cases hfailed
  | refusal e =>
      injection hreply with hreply
      exact ⟨e, rfl, hreply.symm⟩
  | abort => cases hreply

-- =========================================================== handlers

section Handlers

variable [Shell σ]

/-- What is settled by an error has come to that error. -/
theorem settle_refusal {x : Outcome Unit × Server} {v : Value} {e : Error}
    (h : (settle x v).1 = .refusal e) : x.1 = .error e := by
  obtain ⟨done, s⟩ := x
  cases done with
  | ok u => cases h
  | error e' => injection h with h; rw [h]

/-- A jail that is not added leaves the server as it was. -/
theorem addJail_refused {s : Server} {files : Disk.Tree} {name : String}
    {backend : Filter.Backend} {notifier : Filter.Notifier} {e : Error}
    (he : (s.addJail files name backend notifier).value.1 = .error e) :
    (s.addJail files name backend notifier).value.2 = s := by
  unfold addJail at he ⊢
  split at he
  case isTrue hreserved => rw [if_pos hreserved]; rfl
  case isFalse hreserved =>
    rw [if_neg hreserved]
    split at he
    case isTrue htaken => rw [if_pos htaken]; rfl
    case isFalse htaken =>
      rw [if_neg htaken]
      rw [Noted.value_bind] at he ⊢
      cases hmake : (Jail.make files name backend s.capacity s.zone
        notifier).value with
      | ok j => rw [hmake] at he; cases he
      | error e => rfl

/-- A jail that is not started leaves the server as it was. -/
theorem startJail_refused {s : Server} {name : String} {e : Error}
    (he : (s.startJail name).value.1 = .error e) :
    (s.startJail name).value.2 = s := by
  unfold startJail at he ⊢
  cases hjail : s.jail name with
  | error e => rfl
  | ok j =>
      rw [hjail] at he
      dsimp only at he ⊢
      rw [Noted.value_bind] at he ⊢
      cases hstart : j.start.value with
      | ok j' => rw [hstart] at he; cases he
      | error e => rfl

/-- A jail that is not stopped leaves the server as it was. -/
theorem stopJail_refused {s : Server} {name : String} {h : Host σ}
    {e : Error} (he : ((s.stopJail name).result h).1 = .error e) :
    ((s.stopJail name).result h).2 = s := by
  unfold stopJail at he ⊢
  cases hjail : s.jail name with
  | error e => rfl
  | ok j => rw [hjail] at he; cases he

/-- A request to set something keeps the server when it fails: of the
jail that it is about, which goes back to its place, a change that was
refused has left everything as it was. -/
theorem carrySet_error (s : Server) (args : List String) (h : Host σ) :
    ∀ e, ((s.carrySet args).result h).1 = .error e →
      ((s.carrySet args).result h).2 = s := by
  unfold carrySet
  split
  case h_1 => exact fun _ _ => rfl
  case h_2 => exact fun _ _ => rfl
  case h_3 => exact fun _ _ => rfl
  case h_4 name _ _ _ =>
    cases hjail : s.jail name with
    | error e => exact fun _ _ => rfl
    | ok j =>
        cases Jail.Change.read args with
        | error e => exact fun _ _ => rfl
        | ok c =>
            intro e he
            show s.replace ((j.change c).result h).2 = s
            rw [Jail.change_refused (Outcome.map_eq_error.1 he)]
            exact replace_self hjail

/-- A request other than a reload keeps the server when it is
refused. -/
theorem carryOut_refusal (s : Server) (args : List String) (r : Request)
    (h : Host σ) {e : Error}
    (he : ((s.carryOut args r).result h).1 = .refusal e) :
    ((s.carryOut args r).result h).2 = s := by
  cases r with
  | ping => rfl
  | add name backend => exact addJail_refused (settle_refusal he)
  | start name => exact startJail_refused (settle_refusal he)
  | quit => cases he
  | stopAll => cases he
  | stop name => exact stopJail_refused (settle_refusal he)
  | reload => rfl
  | status => rfl
  | statusOf name => rfl
  | wait secs =>
      unfold carryOut at he ⊢
      dsimp only at he ⊢
      split
      case isTrue => rfl
      case isFalse hlong =>
        rw [if_neg hlong] at he
        split
        case isTrue => rfl
        case isFalse hzero =>
          rw [if_neg hzero] at he
          cases he
  | set =>
      refine carrySet_error s args h e ?_
      change Reaction.ofOutcome id ((s.carrySet args).result h).1 = _ at he
      cases hx : ((s.carrySet args).result h).1 with
      | ok v => rw [hx] at he; cases he
      | error e' => rw [hx] at he; injection he with he; rw [he]
  | get => rfl

/-- A request of a configuration keeps the server when it fails, and is
answered with code 1. -/
theorem proceedOnce_failed {s t : Server} {args : List String}
    {h : Host σ} {reply : Wire.Reply}
    (hresult : (s.proceedOnce args).result h = (some reply, t))
    (hfailed : reply.isOk = false) : t = s ∧ reply.code = 1 := by
  unfold proceedOnce at hresult
  rw [Work.result_bind] at hresult
  cases hread : Request.read args with
  | error e =>
      rw [hread] at hresult
      injection hresult with hreply ht
      injection hreply with hreply
      exact ⟨ht.symm, hreply ▸ rfl⟩
  | ok r =>
      rw [hread] at hresult
      injection hresult with hreply ht
      obtain ⟨e, he, rfl⟩ := replyTo_failed hreply hfailed
      rw [← ht]
      exact ⟨carryOut_refusal s args r _ he, rfl⟩

end Handlers

end Gatewatch.Server
