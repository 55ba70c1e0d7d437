import WebhookRelay.Proofs.Memory.Registry

/-!
# Collaborators that may fail

`World.answer` has one answer to each call. A `Hazard` says what may go wrong besides: a call may be
struck, so that it fails and changes nothing, or lost, so that it takes effect and its answer does
not come back. `Hazard.Conduct` is the conduct of a world under a hazard, and three statements are
all that is needed of it: a success is a true answer (`Conduct.eq_answer`), the world is left as it
was or as the answer leaves it (`Conduct.world_eq`), and with a call that loses nothing a failure
changes nothing unless the world itself gave it (`Conduct.of_error`).

Where it is settled beforehand which calls are struck, the world is a handler again
(`World.answerUnless`).
-/

namespace WebhookRelay.Memory

open Program

/-- What may go wrong with calls. -/
structure Hazard where
  /-- a call may fail with a failure, changing nothing -/
  strikes : Call String → Failure → Prop
  /-- a call may take effect and be answered with a failure all the same -/
  loses : Call String → Failure → Prop

namespace Hazard

/-- Nothing goes wrong that the world does not answer itself. -/
def calm : Hazard := ⟨fun _ _ => False, fun _ _ => False⟩

/-- Any call may fail in any way, changing nothing. -/
def anyStrike : Hazard := ⟨fun _ _ => True, fun _ _ => False⟩

/-- Any call may fail, changing nothing; but a provider that fails does not say that a hook is
there. -/
def plainStrike : Hazard :=
  ⟨fun c e => ¬(c.isProvider = true ∧ e.isHookExists = true), fun _ _ => False⟩

/-- Any call may fail, changing nothing; but a hook that could not be created may have been
installed. -/
def lossy : Hazard := ⟨fun _ _ => True, fun c _ => c.isCreate = true⟩

/-- The conduct of a world under a hazard. -/
inductive Conduct (h : Hazard) : Program.Conduct String World where
  /-- the call is answered by the world -/
  | met (c : Call String) (w : World) : h.Conduct c w (World.answer c w).1 (World.answer c w).2
  /-- the call fails and does not reach the world -/
  | struck {c : Call String} {e : Failure} (he : h.strikes c e) (w : World) :
      h.Conduct c w (.error e) w
  /-- the call reaches the world, and its answer is lost -/
  | lost {c : Call String} {e : Failure} (he : h.loses c e) (w : World) :
      h.Conduct c w (.error e) (World.answer c w).2

variable {h : Hazard} {c : Call String} {w w' : World} {reply : c.Reply}

/-- A success is a true answer. -/
theorem Conduct.eq_answer {a : c.Answer} (hc : h.Conduct c w (.ok a) w') :
    World.answer c w = (.ok a, w') := by
  generalize hr : (Except.ok a : c.Reply) = reply at hc
  cases hc with
  | met => rfl
  | struck => cases hr
  | lost => cases hr

/-- A success leaves the world as the answer leaves it. -/
theorem Conduct.eq_of_ok {a : c.Answer} (hc : h.Conduct c w (.ok a) w') :
    w' = (World.answer c w).2 :=
  (congrArg Prod.snd hc.eq_answer).symm

/-- The world is left as it was, or as the answer leaves it. -/
theorem Conduct.world_eq (hc : h.Conduct c w reply w') : w' = w ∨ w' = (World.answer c w).2 := by
  cases hc with
  | met => exact .inr rfl
  | struck => exact .inl rfl
  | lost => exact .inr rfl

/-- A failure is a true answer, or the call was struck or lost. -/
theorem Conduct.of_error {e : Failure} (hc : h.Conduct c w (.error e) w') :
    World.answer c w = (.error e, w') ∨ (h.strikes c e ∧ w' = w) ∨
      (h.loses c e ∧ w' = (World.answer c w).2) := by
  generalize hr : (Except.error e : c.Reply) = reply at hc
  cases hc with
  | met => exact .inl rfl
  | struck he =>
    cases hr
    exact .inr (.inl ⟨he, rfl⟩)
  | lost he =>
    cases hr
    exact .inr (.inr ⟨he, rfl⟩)

/-- Hooks that are listed are those that are there, at a repository that does not fail, and listing
them changes neither. -/
theorem Conduct.of_listed {client : String} {repo : RepoName} {hooks : List Hook}
    (hc : h.Conduct (.listHooks client repo) w (.ok hooks) w') :
    hooks = w.hooksOn client repo.fullName ∧ (∀ n r, w'.hooksOn n r = w.hooksOn n r) ∧
      ¬w'.FailsAt client repo := by
  obtain ⟨hup, rfl⟩ := World.listHooks_eq_ok (congrArg Prod.fst hc.eq_answer)
  rw [hc.eq_of_ok, World.FailsAt, World.failing_answer]
  exact ⟨rfl, fun n r => World.hooksOn_answer rfl rfl, hup⟩

/-- Under any hazard the world may answer. -/
theorem conduct_of_answer (hc : Handler.conduct World.answer c w reply w') :
    h.Conduct c w reply w' := by
  have hm := Conduct.met (h := h) c w
  rwa [show World.answer c w = (reply, w') from hc] at hm

/-- So under any hazard what the world makes of a program may come of it. -/
theorem runs_answer (h : Hazard) {α : Type} (p : Program String α) (w : World) :
    Runs h.Conduct p w (p.exchanges World.answer w) (p.run World.answer w).1
      (p.run World.answer w).2 :=
  (runs_run World.answer p w).mono fun _ _ _ _ => conduct_of_answer

end Hazard

/-- Whatever befalls a program, the repositories that fail stay the same. -/
theorem Hazard.failing_of_runs {h : Hazard} {α : Type} {p : Program String α} {a : α}
    {w w' : World} {trace : List (Exchange String)} (hr : Runs h.Conduct p w trace a w')
    (name : String) : (w'.provider name).failing = (w.provider name).failing := by
  refine hr.induct (I := fun v => (v.provider name).failing = (w.provider name).failing)
    (makes_true p) (fun c v reply v' _ hc hv => ?_) rfl
  rcases hc.world_eq with rfl | rfl
  · exact hv
  · rw [World.failing_answer, hv]

/-! ## Calls that are struck by plan -/

/-- The calls that a plan strikes fail, changing nothing. -/
def Hazard.planned (strike : Call String → Option Failure) : Hazard :=
  ⟨fun c e => strike c = some e, fun _ _ => False⟩

/-- The world, where the calls that a plan strikes do not reach it. -/
def World.answerUnless (strike : Call String → Option Failure) : Handler String World := fun c w =>
  match strike c with
  | some e => (.error e, w)
  | none => World.answer c w

section Plan

variable {strike : Call String → Option Failure} {c : Call String}

theorem World.answerUnless_of_struck {e : Failure} (h : strike c = some e) (w : World) :
    World.answerUnless strike c w = (.error e, w) := by
  rw [answerUnless, h]

theorem World.answerUnless_of_spared (h : strike c = none) (w : World) :
    World.answerUnless strike c w = World.answer c w := by
  rw [answerUnless, h]

/-- What fails under a plan was struck, or it fails anyway. -/
theorem Hazard.Conduct.of_planned {w w' : World} {e : Failure}
    (hc : (Hazard.planned strike).Conduct c w (.error e) w') :
    World.answer c w = (.error e, w') ∨ ((strike c).isSome = true ∧ w' = w) := by
  rcases hc.of_error with hanswer | ⟨hstruck, hw⟩ | ⟨hlost, -⟩
  · exact .inl hanswer
  · exact .inr ⟨Option.isSome_of_eq_some hstruck, hw⟩
  · exact hlost.elim

theorem runs_answerUnless (strike : Call String → Option Failure) {α : Type} (p : Program String α)
    (w : World) :
    Runs (Hazard.planned strike).Conduct p w (p.exchanges (World.answerUnless strike) w)
      (p.run (World.answerUnless strike) w).1 (p.run (World.answerUnless strike) w).2 := by
  refine (runs_run (World.answerUnless strike) p w).mono fun c w reply w' hc => ?_
  rw [Handler.conduct] at hc
  rcases hs : strike c with _ | e
  · rw [World.answerUnless_of_spared hs] at hc
    exact Hazard.conduct_of_answer hc
  · rw [World.answerUnless_of_struck hs] at hc
    cases hc
    exact .struck hs w

end Plan

/-! ## A small setting -/

/-- One user, who is signed in at one realm. -/
def soleUser : Credentials String where
  realmType realm := if realm = "github" then some githubRealm else none
  client realm user := if realm = "github" ∧ user = "bot" then some "main" else none

theorem client_soleUser {realm user client : String}
    (h : soleUser.client realm user = some client) : client = "main" := by
  simp only [soleUser] at h
  split at h
  · exact (Option.some.inj h).symm
  · cases h

/-- A service of this user, whose one room hears of pushes to some repositories. -/
def watching (id url : String) (repos : List String) : Service :=
  repos.foldl (fun s repo => s.bind "room" repo ["push"])
    { id := id, callbackUrl := url, realm := "github", user := "bot" }

/-- The world, where hooks are created on one repository and the answer is lost. -/
def dropping (repo : String) : Handler String World
  | .createHook client r spec, w =>
    let (reply, w') := World.answer (.createHook client r spec) w
    (if r.key = repo then .error (.refused 502 "Bad Gateway" []) else reply, w')
  | c, w => World.answer c w

theorem runs_dropping (repo : String) {α : Type} (p : Program String α) (w : World) :
    Runs Hazard.lossy.Conduct p w (p.exchanges (dropping repo) w) (p.run (dropping repo) w).1
      (p.run (dropping repo) w).2 := by
  refine (runs_run (dropping repo) p w).mono fun c w reply w' hc => ?_
  cases c with
  | createHook client r spec =>
    obtain ⟨rfl, rfl⟩ := Prod.mk.inj hc
    split
    · exact .lost rfl w
    · exact .met _ w
  | _ => exact Hazard.conduct_of_answer hc

end WebhookRelay.Memory
