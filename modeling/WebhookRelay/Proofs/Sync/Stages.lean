import WebhookRelay.Proofs.Memory.Hazards
import WebhookRelay.Proofs.Sync.Phases

/-!
# How far the first phase gets

The first phase goes through its checks, then through the repositories that are gained, then through
the rooms, and stops where something is amiss. Which calls it has made by then can be told from the
place alone: none if a check turns the declaration away (`Reconcile.Unfit`), and otherwise one for
each repository and each room up to there (`Reconcile.Stages`). The failure that it ends in is the
one of the last call.

The two loops are taken apart first, each with all it reports (`Reconcile.runs_installAll`,
`Reconcile.runs_joinAll`). That a hook is there already is an answer to a call and not the end of a
loop.
-/

namespace WebhookRelay

open Program Memory

variable {C σ : Type} {conduct : Conduct C σ} {credentials : Credentials C} {client : C}
  {new : Service} {old : Option Service} {s s' : σ} {trace : List (Exchange C)}

/-! ## One hook -/

/-- Whether an exchange asks for a hook on a repository, and how it came that the hook is there. -/
inductive Exchange.Puts (client : C) (spec : HookSpec) : String × Installed → Exchange C → Prop where
  | created {repo : String} {name : RepoName} (hn : RepoName.parse repo = .ok name) (hook : Hook) :
      Puts client spec (repo, .created) ⟨.createHook client name spec, .ok hook⟩
  | alreadyThere {repo : String} {name : RepoName} (hn : RepoName.parse repo = .ok name)
      {e : Failure} (he : e.isHookExists = true) :
      Puts client spec (repo, .alreadyThere) ⟨.createHook client name spec, .error e⟩

/-- Installing asks for the hook once, and ends with how it came there or with the failure. -/
theorem Service.runs_install {repo : String} {name : RepoName} {r : Except Failure Installed}
    (hr : Runs conduct (new.install client repo) s trace r s')
    (hn : RepoName.parse repo = .ok name) :
    (∃ i x, r = .ok i ∧ trace = [x] ∧ x.Puts client new.hookSpec (repo, i)) ∨
      ∃ e, r = .error e ∧ e.isHookExists = false ∧
        trace = [⟨.createHook client name new.hookSpec, .error e⟩] := by
  simp only [install, hn] at hr
  obtain ⟨reply, s₁, rest, -, hd, rfl⟩ := runs_call.mp hr
  rcases reply with e | hook
  · obtain ⟨rfl, rfl, -⟩ := runs_done.mp hd
    rcases he : e.isHookExists with _ | _
    · exact .inr ⟨e, if_neg Bool.false_ne_true, he, rfl⟩
    · exact .inl ⟨.alreadyThere, _, if_pos rfl, rfl, .alreadyThere hn he⟩
  · obtain ⟨rfl, rfl, -⟩ := runs_done.mp hd
    exact .inl ⟨.created, _, rfl, rfl, .created hn hook⟩

namespace Reconcile

/-! ## The two loops -/

/-- The repositories whose hook came there in one way. -/
def cameBy (i : Installed) (log : List (String × Installed)) : List String :=
  (log.filter (·.2 = i)).map Prod.fst

/-- A report to which repositories are added, each with how its hook came there. -/
def Prepared.noting (report : Prepared) (log : List (String × Installed)) : Prepared :=
  { report with
    created := report.created ++ cameBy .created log
    alreadyThere := report.alreadyThere ++ cameBy .alreadyThere log }

@[simp] theorem Prepared.noting_nil (report : Prepared) : report.noting [] = report := by
  simp [noting, cameBy]

theorem Prepared.noting_cons (report : Prepared) (e : String × Installed)
    (log : List (String × Installed)) :
    report.noting (e :: log) = (report.noting [e]).noting log := by
  obtain ⟨repo, i⟩ := e
  cases i with
  | created => simp [noting, cameBy]
  | alreadyThere => simp [noting, cameBy]

/-- Where a run of installing on repositories can end. -/
inductive InstallsAll (client : C) (spec : HookSpec) (report : Prepared) (repos : List String) :
    List (Exchange C) → Except Failure Prepared → Prop where
  /-- the hook is on each of them -/
  | all {log : List (String × Installed)} {trace : List (Exchange C)}
      (hrepos : log.map Prod.fst = repos) (hput : List.Forall₂ (Exchange.Puts client spec) log trace) :
      InstallsAll client spec report repos trace (.ok (report.noting log))
  /-- it is on those before one on which it cannot be created -/
  | stopped {log : List (String × Installed)} {repo : String} {rest : List String} {name : RepoName}
      {e : Failure} {before : List (Exchange C)} (hrepos : log.map Prod.fst ++ repo :: rest = repos)
      (hput : List.Forall₂ (Exchange.Puts client spec) log before)
      (hn : RepoName.parse repo = .ok name) (he : e.isHookExists = false) :
      InstallsAll client spec report repos
        (before ++ [⟨.createHook client name spec, .error e⟩]) (.error e)

/-- A repository in front, with how its hook came there. -/
theorem InstallsAll.cons {spec : HookSpec} {report : Prepared} {repo : String} {i : Installed}
    {x : Exchange C} {repos : List String} {r : Except Failure Prepared}
    (hx : x.Puts client spec (repo, i))
    (h : InstallsAll client spec (report.noting [(repo, i)]) repos trace r) :
    InstallsAll client spec report (repo :: repos) (x :: trace) r := by
  cases h with
  | all hrepos hput =>
    rw [← Prepared.noting_cons]
    refine .all ?_ (.cons hx hput)
    rw [List.map_cons, hrepos]
  | stopped hrepos hput hn he =>
    subst hrepos
    exact .stopped rfl (.cons hx hput) hn he

theorem runs_installAll {report : Prepared} {repos : List String} {r : Except Failure Prepared}
    (hr : Runs conduct (installAll new client report repos) s trace r s')
    (hrepos : ∀ repo ∈ repos, ∃ name, RepoName.parse repo = .ok name) :
    InstallsAll client new.hookSpec report repos trace r := by
  induction repos generalizing report s trace with
  | nil =>
    obtain ⟨rfl, rfl, -⟩ := runs_done.mp hr
    have hall : InstallsAll client new.hookSpec report [] [] (.ok (report.noting [])) :=
      .all rfl .nil
    rwa [Prepared.noting_nil] at hall
  | cons repo rest ih =>
    obtain ⟨name, hn⟩ := hrepos repo List.mem_cons_self
    rcases runs_onSuccess.mp hr with ⟨e, rfl, hi⟩ | ⟨before, i, s₁, after, hi, hnext, rfl⟩
    · rcases Service.runs_install hi hn with ⟨i, x, hok, -⟩ | ⟨e', he', hexists, rfl⟩
      · cases hok
      · cases he'
        exact .stopped rfl .nil hn hexists
    · rcases Service.runs_install hi hn with ⟨i', x, hok, rfl, hx⟩ | ⟨e', he', -⟩
      · cases hok
        refine .cons hx ?_
        have hrest := fun r hr => hrepos r (List.mem_cons_of_mem _ hr)
        cases i with
        | created => simpa [Prepared.noting, cameBy] using ih hnext hrest
        | alreadyThere => simpa [Prepared.noting, cameBy] using ih hnext hrest
      · cases he'

/-- A room is joined. -/
def joining (room : String) : Exchange C := ⟨.join room, .ok ()⟩

/-- Where a run of joining rooms can end. -/
inductive JoinsAll (report : Prepared) (rooms : List String) :
    List (Exchange C) → Except Failure Prepared → Prop where
  /-- each of them is joined -/
  | all : JoinsAll report rooms (rooms.map joining) (.ok { report with joined := report.joined ++ rooms })
  /-- those before one that cannot be joined -/
  | stopped {before rest : List String} {room : String} {e : Failure}
      (hrooms : before ++ room :: rest = rooms) :
      JoinsAll report rooms (before.map joining ++ [⟨.join room, .error e⟩]) (.error e)

theorem runs_joinAll {report : Prepared} {rooms : List String} {r : Except Failure Prepared}
    (hr : Runs conduct (joinAll report rooms) s trace r s') : JoinsAll report rooms trace r := by
  induction rooms generalizing report s trace with
  | nil =>
    obtain ⟨rfl, rfl, -⟩ := runs_done.mp hr
    have hall : JoinsAll (C := C) report [] [] (.ok { report with joined := report.joined ++ [] }) :=
      .all
    rwa [List.append_nil] at hall
  | cons room rest ih =>
    obtain ⟨reply, s₁, after, -, hnext, rfl⟩ := runs_call.mp hr
    rcases reply with e | ⟨⟩
    · obtain ⟨rfl, rfl, -⟩ := runs_done.mp hnext
      exact JoinsAll.stopped (List.nil_append (room :: rest))
    · cases ih hnext with
      | all =>
        rw [List.append_assoc]
        exact .all
      | stopped hrooms =>
        subst hrooms
        exact JoinsAll.stopped List.cons_append

/-! ## The whole phase -/

/-- Whether a declaration is turned away before any call is made: the realm or the user has no name,
the realm is not known or of another kind, the user is not signed in, or there is no repository for a
hook to be on or to be taken off. -/
def Unfit (credentials : Credentials C) (new : Service) (old : Option Service) : Prop :=
  new.realm = "" ∨ new.user = "" ∨ credentials.realmType new.realm ≠ some githubRealm ∨
    new.client? credentials = none ∨
      new.repos.isEmpty = true ∧ (Service.reposOf old).isEmpty = true

/-- How far the first phase of a declaration gets that is not turned away. -/
inductive Stages (client : C) (new : Service) (change : RepoChange) :
    List (Exchange C) → Except Failure Prepared → Prop where
  /-- to a repository on which the hook cannot be created; no room is joined -/
  | notInstalled {log : List (String × Installed)} {repo : String} {rest : List String}
      {name : RepoName} {e : Failure} {before : List (Exchange C)}
      (hrepos : log.map Prod.fst ++ repo :: rest = change.added.toList)
      (hput : List.Forall₂ (Exchange.Puts client new.hookSpec) log before)
      (hn : RepoName.parse repo = .ok name) (he : e.isHookExists = false) :
      Stages client new change
        (before ++ [⟨.createHook client name new.hookSpec, .error e⟩]) (.error e)
  /-- to a room that cannot be joined; every hook is there -/
  | notJoined {log : List (String × Installed)} {before : List (Exchange C)}
      {joined rest : List String} {room : String} {e : Failure}
      (hrepos : log.map Prod.fst = change.added.toList)
      (hput : List.Forall₂ (Exchange.Puts client new.hookSpec) log before)
      (hrooms : joined ++ room :: rest = new.rooms.keys) :
      Stages client new change
        (before ++ (joined.map joining ++ [⟨.join room, .error e⟩])) (.error e)
  /-- to its end -/
  | prepared {log : List (String × Installed)} {before : List (Exchange C)}
      (hrepos : log.map Prod.fst = change.added.toList)
      (hput : List.Forall₂ (Exchange.Puts client new.hookSpec) log before) :
      Stages client new change (before ++ new.rooms.keys.map joining)
        (.ok { created := cameBy .created log
               alreadyThere := cameBy .alreadyThere log
               joined := new.rooms.keys
               pending := change.removed.toList })

/-- There is nothing to be done just when neither declaration needs a repository. -/
theorem nothing_to_do_iff : (new.repos.isEmpty && (change new old).removed.isEmpty) = true ↔
    new.repos.isEmpty = true ∧ (Service.reposOf old).isEmpty = true := by
  rw [Bool.and_eq_true]
  refine and_congr_right fun hnone => ?_
  rw [NameSet.isEmpty_iff] at hnone
  simp only [NameSet.isEmpty_iff, mem_removed, hnone, not_false_eq_true, and_true]

/-- A declaration is fit if its client may be used and there is something to be done. -/
theorem not_unfit_iff : ¬Unfit credentials new old ↔
    (∃ client, clientFor credentials new = .ok client) ∧
      ¬(new.repos.isEmpty && (change new old).removed.isEmpty) = true := by
  simp only [Unfit, not_or, clientFor_eq_ok_iff, nothing_to_do_iff, exists_and_left,
    ← Option.ne_none_iff_exists', ne_eq, not_not, and_assoc]

/-- A declaration that is not fit is turned away. -/
theorem prepare_of_unfit (h : Unfit credentials new old) :
    ∃ e, prepare credentials new old = .done (.error e) := by
  rcases hclient : clientFor credentials new with e | client
  · exact ⟨e, by simp only [prepare, hclient]⟩
  · have hnone : (new.repos.isEmpty && (change new old).removed.isEmpty) = true :=
      Classical.byContradiction fun hn => not_unfit_iff.mpr ⟨⟨client, hclient⟩, hn⟩ h
    refine ⟨.misconfigured "No webhooks specified", ?_⟩
    simp only [prepare, hclient]
    exact if_pos hnone

/-- One that is fit gets as far as its calls succeed. -/
theorem stages_of_not_unfit {r : Except Failure Prepared}
    (hr : Runs conduct (prepare credentials new old) s trace r s')
    (h : ¬Unfit credentials new old) :
    ∃ client, new.client? credentials = some client ∧ Stages client new (change new old) trace r := by
  obtain ⟨⟨client, hclient⟩, hsome⟩ := not_unfit_iff.mp h
  refine ⟨client, client_of_clientFor hclient, ?_⟩
  simp only [prepare, hclient] at hr
  rw [if_neg hsome] at hr
  have hnames : ∀ repo ∈ (change new old).added.toList, ∃ name, RepoName.parse repo = .ok name :=
    fun repo hm => (Service.exists_name_of_mem_repos (mem_added.mp hm).1).imp fun _ hn => hn.1
  rcases runs_onSuccess.mp hr with ⟨e, rfl, hi⟩ | ⟨before, report, s₁, after, hi, hj, rfl⟩
  · cases runs_installAll hi hnames with
    | stopped hrepos hput hn he => exact .notInstalled hrepos hput hn he
  · cases runs_installAll hi hnames with
    | @all log before hrepos hput =>
      cases runs_joinAll hj with
      | all => exact .prepared hrepos hput
      | stopped hrooms => exact .notJoined hrepos hput hrooms

/-- **The first phase stops at the first failure, in order.** Calls may be answered in any way. If
the declaration is not fit, the phase fails and no call is made. Otherwise it asks for the hook on the
repositories that are gained, one by one and in ascending order; if it fails there, then with the
failure of the last of these calls, and no room is joined. Only when the hook is on all of them, being
created or there already, rooms are joined; if it fails there, then with the failure of the last room.
No hooks are listed, and none is deleted. -/
theorem prepare_in_order {r : Except Failure Prepared}
    (hr : Runs conduct (prepare credentials new old) s trace r s') :
    (Unfit credentials new old → trace = [] ∧ ∃ e, r = .error e) ∧
    (¬Unfit credentials new old → ∃ client, new.client? credentials = some client ∧
      Stages client new (change new old) trace r) ∧
    ∀ x ∈ trace, x.call.isProvider = true → x.call.isCreate = true := by
  refine ⟨fun h => ?_, stages_of_not_unfit hr, fun x hx hprovider => ?_⟩
  · obtain ⟨e, he⟩ := prepare_of_unfit h
    rw [he] at hr
    obtain ⟨rfl, rfl, -⟩ := runs_done.mp hr
    exact ⟨rfl, e, rfl⟩
  · have hprepares := hr.mem_makes makes_prepare x hx
    obtain ⟨c, reply⟩ := x
    cases c with
    | createHook => rfl
    | listHooks | deleteHook => cases hprepares
    | _ => cases hprovider

/-- Of three repositories the hook cannot be created on the second one, so two are asked about. -/
theorem prepare_in_order_dropping : ∃ trace e w',
    Runs (Handler.conduct (dropping "acme/b"))
        (prepare soleUser (watching "svc" "u" ["acme/b", "acme/c", "Acme/A"]) none) {} trace
        (.error e) w' ∧
      Stages "main" (watching "svc" "u" ["acme/b", "acme/c", "Acme/A"])
        (change (watching "svc" "u" ["acme/b", "acme/c", "Acme/A"]) none) trace (.error e) ∧
      trace.length = 2 := by
  have hr := runs_run (dropping "acme/b")
    (prepare soleUser (watching "svc" "u" ["acme/b", "acme/c", "Acme/A"]) none) {}
  have hfit : ¬Unfit soleUser (watching "svc" "u" ["acme/b", "acme/c", "Acme/A"]) none := by
    unfold Unfit
    decide
  obtain ⟨client, hclient, hstages⟩ := (prepare_in_order hr).2.1 hfit
  obtain rfl := client_soleUser hclient
  rcases he : ((prepare soleUser (watching "svc" "u" ["acme/b", "acme/c", "Acme/A"]) none).run
      (dropping "acme/b") {}).1 with e | report
  · rw [he] at hr hstages
    exact ⟨_, e, _, hr, hstages, by decide⟩
  · have hfails : ((prepare soleUser (watching "svc" "u" ["acme/b", "acme/c", "Acme/A"]) none).run
        (dropping "acme/b") {}).1.isOk = false := by decide
    rw [he] at hfails
    cases hfails

end Reconcile

end WebhookRelay
