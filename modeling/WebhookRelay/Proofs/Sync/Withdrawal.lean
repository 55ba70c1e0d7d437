import WebhookRelay.Proofs.Memory.Numbering
import WebhookRelay.Proofs.Sync.Removal
import Mathlib.Logic.Function.Iterate

/-!
# Taking hooks off, one at a time

A hook is looked for by its URL and deleted by its number. On a repository where no number stands
twice this takes off the first hook for the URL and no other (`filter_id_ne_of_find?`), so one
attempt has three ends, and `Service.withdraws_of_runs` says that there are no others: the first hook
is gone, there was none, or a call failed and nothing has happened.

Attempt after attempt, then, the hooks for the URL go in the order in which they stand, and what
fails in between does not count (`Service.withdrawn_in_order`).
-/

namespace WebhookRelay

open Program Memory

variable {credentials : Credentials String} {s : Service} {name : String} {repo : RepoName}
  {strike : Call String → Option Failure} {trace : List (Exchange String)}
  {result : Except Failure UInt64} {w w' : World}

/-! ## The first hook of a kind -/

/-- Erasing the first of a kind leaves the others of this kind. -/
theorem filter_eraseP {α : Type} (p : α → Bool) (l : List α) :
    (l.eraseP p).filter p = (l.filter p).drop 1 := by
  induction l with
  | nil => rfl
  | cons x rest ih =>
    rcases hp : p x with _ | _
    · rw [List.eraseP_cons_of_neg (by simp [hp]), List.filter_cons_of_neg (by simp [hp]), ih,
        List.filter_cons_of_neg (by simp [hp])]
    · rw [List.eraseP_cons_of_pos hp, List.filter_cons_of_pos hp, List.drop_one, List.tail_cons]

/-- And so does erasing several, one by one. -/
theorem filter_iterate_eraseP {α : Type} (p : α → Bool) (k : Nat) (l : List α) :
    ((List.eraseP p)^[k] l).filter p = (l.filter p).drop k := by
  induction k generalizing l with
  | zero => rfl
  | succ k ih => rw [Function.iterate_succ_apply, ih, filter_eraseP, List.drop_drop, Nat.add_comm]

/-! ## One attempt -/

namespace Service

/-- Where taking the hook of a service off a repository can end, at the provider of its user, when
the calls of a plan are struck. -/
inductive Withdraws (s : Service) (strike : Call String → Option Failure) (name : String)
    (repo : RepoName) (w : World) :
    List (Exchange String) → Except Failure UInt64 → World → Prop where
  /-- the first hook that is for the service is gone, and no other -/
  | taken {hook : Hook} {w' : World}
      (hf : (w.hooksOn name repo.fullName).find? (Hook.reportsTo s.callbackUrl) = some hook)
      (hhooks : ∀ n r, w'.hooksOn n r = if name = n ∧ Text.asciiLower r = repo.key then
        (w.hooksOn n r).eraseP (Hook.reportsTo s.callbackUrl) else w.hooksOn n r) :
      Withdraws s strike name repo w
        [⟨.listHooks name repo, .ok (w.hooksOn name repo.fullName)⟩,
          ⟨.deleteHook name repo hook.id, .ok ()⟩] (.ok hook.id) w'
  /-- there is none -/
  | missing {w' : World}
      (hf : (w.hooksOn name repo.fullName).find? (Hook.reportsTo s.callbackUrl) = none)
      (hhooks : ∀ n r, w'.hooksOn n r = w.hooksOn n r) :
      Withdraws s strike name repo w [⟨.listHooks name repo, .ok (w.hooksOn name repo.fullName)⟩]
        (.error (.hookNotFound repo.fullName s.callbackUrl)) w'
  /-- a call fails, because the repository does or the call is struck -/
  | failed {trace : List (Exchange String)} {x : Exchange String} {e : Failure} {w' : World}
      (hx : x ∈ trace) (hf : x.Failed) (hwhy : w.FailsAt name repo ∨ (strike x.call).isSome = true)
      (hhooks : ∀ n r, w'.hooksOn n r = w.hooksOn n r) :
      Withdraws s strike name repo w trace (.error e) w'

theorem withdraws_of_runs
    (hr : Runs (Hazard.planned strike).Conduct (s.uninstall credentials repo) w trace result w')
    (hclient : s.client? credentials = some name)
    (hn : ((w.hooksOn name repo.fullName).map (·.id)).Nodup) :
    s.Withdraws strike name repo w trace result w' := by
  cases runs_uninstall hr with
  | nobody hnone => cases hnone.symm.trans hclient
  | @notListed client e _ hc hl =>
    obtain rfl := Option.some.inj (hc.symm.trans hclient)
    have hfailed : Exchange.Failed ⟨.listHooks client repo, .error e⟩ :=
      fun h => Bool.false_ne_true h.1
    rcases hl.of_planned with hanswer | ⟨hstruck, rfl⟩
    · have hdown : w.FailsAt client repo := by
        by_contra hup
        have hreply := World.listHooks_reply.symm.trans (congrArg Prod.fst hanswer)
        rw [if_neg hup] at hreply
        cases hreply
      refine .failed List.mem_cons_self hfailed (.inl hdown) ?_
      intro n r
      have hw : w' = (World.answer (.listHooks client repo) w).2 :=
        (congrArg Prod.snd hanswer).symm
      rw [hw, World.hooksOn_answer rfl rfl]
    · exact .failed List.mem_cons_self hfailed (.inr hstruck) fun n r => rfl
  | notFound hc hl hf =>
    obtain rfl := Option.some.inj (hc.symm.trans hclient)
    obtain ⟨rfl, hsame, -⟩ := hl.of_listed
    exact .missing hf hsame
  | @found client hooks hook deleted w₁ w' hc hl hf hd =>
    obtain rfl := Option.some.inj (hc.symm.trans hclient)
    obtain ⟨rfl, hsame, hup⟩ := hl.of_listed
    rcases deleted with e | ⟨⟩
    · -- the hook was listed a moment ago, so only a call that is struck can fail
      rcases hd.of_planned with hanswer | ⟨hstruck, rfl⟩
      · have hthere : ∃ h ∈ w₁.hooksOn client repo.fullName, h.id = hook.id :=
          ⟨hook, hsame _ _ ▸ List.mem_of_find?_eq_some hf, rfl⟩
        have hreply := congrArg Prod.fst hanswer
        rw [World.deleteHook_reply, if_neg hup, if_pos hthere] at hreply
        cases hreply
      · exact .failed (List.mem_cons_of_mem _ List.mem_cons_self) (fun h => Bool.false_ne_true h.1)
          (.inr hstruck) hsame
    · apply Withdraws.taken hf
      intro n r
      rw [hd.eq_of_ok, World.hooksOn_deleteHook, hsame]
      by_cases hk : client = n ∧ Text.asciiLower r = repo.key
      · obtain ⟨rfl, hk⟩ := hk
        have hhere : w.hooksOn client r = w.hooksOn client repo.fullName := World.hooksOn_congr hk
        rw [if_pos ⟨rfl, hup, hk⟩, if_pos ⟨rfl, hk⟩, hhere]
        exact filter_id_ne_of_find? hn hf
      · rw [if_neg fun h => hk ⟨h.1, h.2.2⟩, if_neg hk]

/-- One comes to the hook of some number, which is deleted and its number told; or one comes to none,
which is told, and nothing is deleted. -/
structure Takes (s : Service) (name : String) (repo : RepoName) (id? : Option UInt64)
    (trace : List (Exchange String)) (result : Except Failure UInt64) : Prop where
  result : result = match id? with
    | some id => .ok id
    | none => .error (.hookNotFound repo.fullName s.callbackUrl)
  calls : trace.map (·.call) = match id? with
    | some id => [.listHooks name repo, .deleteHook name repo id]
    | none => [.listHooks name repo]

/-- The numbers of the hooks for a service, in the order in which they stand. -/
def own (s : Service) (hooks : List Hook) : List UInt64 :=
  (hooks.filter (Hook.reportsTo s.callbackUrl)).map (·.id)

/-- Where no call fails, one comes to the first hook for the service. -/
theorem Withdraws.takes (h : s.Withdraws strike name repo w trace result w')
    (hok : ∀ x ∈ trace, ¬x.Failed) :
    s.Takes name repo (s.own (w.hooksOn name repo.fullName)).head? trace result := by
  rw [own, List.head?_map, List.head?_filter]
  cases h with
  | taken hf => exact hf ▸ ⟨rfl, rfl⟩
  | missing hf => exact hf ▸ ⟨rfl, rfl⟩
  | failed hx hf => exact absurd hf (hok _ hx)

/-- It is gone then, and where a call fails nothing is. -/
theorem Withdraws.hooksOn_eq (h : s.Withdraws strike name repo w trace result w') (n r : String) :
    w'.hooksOn n r = if name = n ∧ Text.asciiLower r = repo.key then
      (List.eraseP (Hook.reportsTo s.callbackUrl))^[(decide (∀ x ∈ trace, ¬x.Failed)).toNat]
        (w.hooksOn n r)
      else w.hooksOn n r := by
  by_cases hok : ∀ x ∈ trace, ¬x.Failed
  · rw [decide_eq_true hok]
    cases h with
    | taken hf hhooks => exact hhooks n r
    | missing hf hhooks =>
      rw [hhooks]
      split
      · next hk =>
        obtain ⟨rfl, hk⟩ := hk
        have hhere : w.hooksOn name r = w.hooksOn name repo.fullName := World.hooksOn_congr hk
        rw [hhere]
        exact (List.eraseP_of_forall_not (List.find?_eq_none.mp hf)).symm
      · rfl
    | failed hx hf => exact absurd hf (hok _ hx)
  · rw [decide_eq_false hok]
    cases h with
    | taken => exact absurd (by simp [Exchange.Failed]) hok
    | missing => exact absurd (by simp [Exchange.Failed]) hok
    | failed _ _ _ hhooks => exact (hhooks n r).trans (ite_self _).symm

/-- No call fails if none is struck and the repository does not fail. -/
theorem Withdraws.not_failed (h : s.Withdraws strike name repo w trace result w')
    (hspared : ∀ c, strike c = none) (hup : ¬w.FailsAt name repo) : ∀ x ∈ trace, ¬x.Failed := by
  cases h with
  | taken => simp [Exchange.Failed]
  | missing => simp [Exchange.Failed]
  | failed _ _ hwhy =>
    rcases hwhy with hdown | hstruck
    · exact absurd hdown hup
    · rw [hspared] at hstruck
      cases hstruck

end Service

/-! ## Attempt after attempt -/

/-- An attempt to take a hook off a repository. -/
structure Attempt where
  repo : RepoName
  /-- what calls are struck with in the meantime -/
  strike : Call String → Option Failure

/-- What came of an attempt. -/
structure Attempted extends Attempt where
  trace : List (Exchange String)
  result : Except Failure UInt64
  /-- the world it left -/
  left : World

/-- Whether no call failed. -/
def Attempted.sound (a : Attempted) : Bool := ∀ x ∈ a.trace, ¬x.Failed

namespace Service

/-- Makes an attempt to take the hook of a service off. -/
def attempt (credentials : Credentials String) (s : Service) (a : Attempt) (w : World) : Attempted :=
  let run := (s.uninstall credentials a.repo).run (World.answerUnless a.strike) w
  { a with
    trace := (s.uninstall credentials a.repo).exchanges (World.answerUnless a.strike) w
    result := run.1
    left := run.2 }

/-- Makes attempts one after the other. -/
def attempts (credentials : Credentials String) (s : Service) : List Attempt → World → List Attempted
  | [], _ => []
  | a :: rest, w =>
    let done := s.attempt credentials a w
    done :: s.attempts credentials rest done.left

theorem runs_attempt (credentials : Credentials String) (s : Service) (a : Attempt) (w : World) :
    Runs (Hazard.planned a.strike).Conduct (s.uninstall credentials a.repo) w
      (s.attempt credentials a w).trace (s.attempt credentials a w).result
      (s.attempt credentials a w).left :=
  runs_answerUnless a.strike (s.uninstall credentials a.repo) w

/-- What becomes of an attempt for a repository when so many sound ones came before it. -/
structure TakenInTurn (s : Service) (name : String) (repo : RepoName) (w : World) (before : Nat)
    (a : Attempted) : Prop where
  /-- it is sound, unless a call is struck or the repository fails -/
  sound : (∀ c, a.strike c = none) → ¬w.FailsAt name repo → a.sound = true
  /-- if it is sound, it comes to the next of the hooks for the service -/
  takes : a.sound = true →
    s.Takes name a.repo (s.own (w.hooksOn name repo.fullName))[before]? a.trace a.result
  /-- as many of them are gone as there were sound attempts, and no other hook is -/
  left : ∀ n r, a.left.hooksOn n r = if name = n ∧ Text.asciiLower r = repo.key then
    (List.eraseP (Hook.reportsTo s.callbackUrl))^[before + a.sound.toNat] (w.hooksOn n r)
    else w.hooksOn n r

/-- So it is with the first attempt. -/
theorem takenInTurn_attempt {a : Attempt} (hclient : s.client? credentials = some name)
    (hn : ((w.hooksOn name repo.fullName).map (·.id)).Nodup) (hrepo : a.repo.key = repo.key) :
    s.TakenInTurn name repo w 0 (s.attempt credentials a w) := by
  have hhere : w.hooksOn name a.repo.fullName = w.hooksOn name repo.fullName :=
    World.hooksOn_congr hrepo
  have h := withdraws_of_runs (runs_attempt credentials s a w) hclient (hhere ▸ hn)
  constructor
  case sound =>
    intro hspared hup
    refine decide_eq_true (h.not_failed hspared ?_)
    rwa [World.FailsAt, hrepo]
  case takes =>
    intro hsound
    have htakes := h.takes (of_decide_eq_true hsound)
    rwa [hhere, List.head?_eq_getElem?] at htakes
  case left =>
    intro n r
    rw [h.hooksOn_eq, hrepo, Nat.zero_add]
    rfl

/-- And so with the ones that follow when sound attempts came before them. -/
theorem TakenInTurn.later {a : Attempted} {m k : Nat} (h : s.TakenInTurn name repo w' k a)
    (hfails : w'.FailsAt name repo ↔ w.FailsAt name repo)
    (hleft : ∀ n r, w'.hooksOn n r = if name = n ∧ Text.asciiLower r = repo.key then
      (List.eraseP (Hook.reportsTo s.callbackUrl))^[m] (w.hooksOn n r) else w.hooksOn n r) :
    s.TakenInTurn name repo w (m + k) a := by
  constructor
  case sound =>
    intro hspared hup
    exact h.sound hspared (mt hfails.mp hup)
  case takes =>
    intro hsound
    have htakes := h.takes hsound
    rwa [hleft, if_pos ⟨rfl, rfl⟩, own, filter_iterate_eraseP, List.map_drop,
      List.getElem?_drop] at htakes
  case left =>
    intro n r
    have hsum : k + a.sound.toNat + m = m + k + a.sound.toNat := by omega
    rw [h.left, hleft]
    split
    · rw [← Function.iterate_add_apply, hsum]
    · rfl

/-- **Hooks are taken off in order.** The hooks of a provider came about by its own operations, fewer
than 2 ^ 64 of them in all, and the user of a service is signed in there. The hook of the service is
taken off a repository again and again, its name written in any letter case, and calls may be struck
in any attempt. A sound attempt, in which no call fails, comes to the first hook for the service that
no sound attempt came to before; it tells the number of this hook and takes off this hook alone, or
tells that there is none any more and deletes nothing. An attempt that is not sound takes off
nothing. -/
theorem withdrawn_in_order {n : Nat} {attempts : List Attempt}
    (hclient : s.client? credentials = some name)
    (hmade : Provider.Made n (w.provider name)) (hn : n < UInt64.size)
    (hrepo : ∀ a ∈ attempts, a.repo.key = repo.key) :
    (s.attempts credentials attempts w).map (·.toAttempt) = attempts ∧
      ∀ i a, (s.attempts credentials attempts w)[i]? = some a → s.TakenInTurn name repo w
        (((s.attempts credentials attempts w).take i).countP (·.sound)) a := by
  have hdistinct : ((w.hooksOn name repo.fullName).map (·.id)).Nodup :=
    (hmade.numbered hn).distinct repo.fullName
  clear hmade hn
  induction attempts generalizing w with
  | nil => exact ⟨rfl, fun i a ha => nomatch ha⟩
  | cons a rest ih =>
    have hfirst := takenInTurn_attempt hclient hdistinct (hrepo a List.mem_cons_self)
    have hrun := runs_attempt credentials s a w
    have hshrunk : World.Shrunk (fun _ => True) w (s.attempt credentials a w).left :=
      shrunk_of_runs hrun ((makes_uninstall trivial).mono fun _ hc => .inr hc)
    -- numbers are only lost, so in the world that is left none stands twice either
    obtain ⟨hrest, hlater⟩ := ih (fun b hb => hrepo b (List.mem_cons_of_mem _ hb))
      (((hshrunk.hooks name repo.fullName).map _).nodup hdistinct)
    refine ⟨congrArg (a :: ·) hrest, ?_⟩
    intro i b hb
    cases i with
    | zero =>
      obtain rfl := Option.some.inj hb
      exact hfirst
    | succ i =>
      rw [attempts, List.take_succ_cons, countP_cons_toNat]
      apply (hlater i b hb).later
      · rw [World.FailsAt, World.FailsAt, Hazard.failing_of_runs hrun]
      · intro n r
        rw [hfirst.left, Nat.zero_add]

/-! ### A provider with hooks of all kinds -/

/-- Two hooks on one repository are for the URL `u`, one is for another URL, and of two nobody can
tell; and there is a second repository. -/
def medley : List (String × Table Json.Value) :=
  [("Acme/A", .ofList [("url", .text "u")]), ("acme/a", .ofList [("url", .text "v")]),
    ("acme/a", .ofList [("url", .bool true)]), ("ACME/a", .ofList [("url", .text "u")]),
    ("acme/a", ∅), ("acme/b", .ofList [("url", .text "u")])]

/-- The world in which somebody has put them there. -/
def cluttered : World := ({} : World).setProvider "main" (.stocked medley)

theorem made_cluttered : Provider.Made medley.length (cluttered.provider "main") := by
  rw [cluttered, World.provider_setProvider, if_pos rfl]
  exact Provider.made_stocked medley

/-- No hook can be deleted from a repository. -/
def undeletable (repo : String) : Faults :=
  { providers := [⟨"main", "delete", repo, .refused 502 "Bad Gateway" []⟩] }

/-- Four attempts; in the second of them no hook can be deleted. -/
def tries : List Attempt :=
  [⟨⟨"acme", "a"⟩, fun _ => none⟩, ⟨⟨"ACME", "a"⟩, (undeletable "acme/a").strike⟩,
    ⟨⟨"acme", "A"⟩, fun _ => none⟩, ⟨⟨"Acme", "a"⟩, fun _ => none⟩]

/-- What came of them. -/
def tried : List Attempted := (watching "svc" "u" []).attempts soleUser tries cluttered

/-- The third attempt takes off the second hook for the URL, and the fourth finds none. -/
theorem withdrawn_in_order_cluttered : ∃ a b, tried[2]? = some a ∧ tried[3]? = some b ∧
    a.result = .ok 4 ∧ (a.left.hooksOn "main" "acme/a").map (·.id) = [2, 3, 5] ∧
    b.result = .error (.hookNotFound "Acme/a" "u") ∧
      b.trace.map (·.call) = [.listHooks "main" ⟨"Acme", "a"⟩] := by
  obtain ⟨-, hall⟩ := @withdrawn_in_order soleUser (watching "svc" "u" []) "main" ⟨"acme", "a"⟩
    cluttered _ tries (by decide) made_cluttered (by decide) (by decide)
  have hup : ¬cluttered.FailsAt "main" ⟨"acme", "a"⟩ := by decide
  have hown : (watching "svc" "u" []).own
      (cluttered.hooksOn "main" (RepoName.mk "acme" "a").fullName) = [1, 4] := by decide
  have hone : (((watching "svc" "u" []).attempts soleUser tries cluttered).take 2).countP
      (·.sound) = 1 := by decide
  have htwo : (((watching "svc" "u" []).attempts soleUser tries cluttered).take 3).countP
      (·.sound) = 2 := by decide
  have hthird := hall 2 _ rfl
  have hfourth := hall 3 _ rfl
  have htakes := hthird.takes (hthird.sound (fun _ => rfl) hup)
  have hmisses := hfourth.takes (hfourth.sound (fun _ => rfl) hup)
  rw [hown, hone] at htakes
  rw [hown, htwo] at hmisses
  refine ⟨_, _, rfl, rfl, htakes.result, ?_, hmisses.result, hmisses.calls⟩
  rw [hthird.left, hone]
  decide

end Service

end WebhookRelay
