import WebhookRelay.Proofs.Delivery.Gate
import WebhookRelay.Proofs.Memory.Numbering
import WebhookRelay.Proofs.Traffic.Aims

/-!
# Services do not get in each other's way

Many operations may be under way at a time, one call of one of them after one call of another, in
any order, while hooks are also put on providers behind everybody's back. A `Flight` is an operation
under way with what it has been answered so far, and `Traffic.Steps` is everything that may come of
such traffic; `Traffic.play` is what comes of it if it is settled what happens when.

An operation takes hooks off by a number that it was shown in a listing, and between the listing and
the deletion anything may happen. But a provider does not give a number twice, so at any time the
number means the hook that was listed, which is one of the operation's own, or nothing
(`Traffic.Orderly.means`). It follows that the hooks of a service that none of the operations is for
stay as they are.
-/

namespace WebhookRelay

open Program Memory

/-! ## Operations under way -/

/-- The service that was looked up, if an exchange did that and there is one. -/
def Exchange.service? {C : Type} : Exchange C → Option Service
  | ⟨.load _, .ok service⟩ => service
  | _ => none

/-- The URL an operation is for, from what it has been answered so far: that of the service
declared, or of the service looked up. -/
def Operation.url? {C : Type} : Operation C → List (Exchange C) → Option String
  | .configure _ new, _ => some new.callbackUrl
  | .deliver .., past => (past.head?.bind Exchange.service?).map (·.callbackUrl)

/-- An operation under way. -/
structure Flight where
  op : Operation String
  /-- what it has been answered so far -/
  past : List (Exchange String)
  /-- what it has still to do -/
  rest : Program String Unit

namespace Flight

/-- An operation that has not made a call. -/
def start (op : Operation String) : Flight := ⟨op, [], op.program⟩

/-- The URL the operation is for, if that is settled yet. -/
def url? (f : Flight) : Option String := f.op.url? f.past

/-- The operation after one more exchange. -/
def after (f : Flight) (x : Exchange String) (rest : Program String Unit) : Flight :=
  ⟨f.op, f.past ++ [x], rest⟩

/-- What is known of an operation under way: it is a delivery that has not looked up its service, it
aims at the URL that it is for, or it has ended. -/
inductive OnCourse : Flight → Prop where
  | waiting (credentials : Credentials String) (id : String) (request : Delivery.Request) :
      OnCourse (start (.deliver credentials id request))
  | aimed {f : Flight} {url : String} (hu : f.url? = some url) (ha : f.rest.Aims url f.past) :
      OnCourse f
  | ended {f : Flight} (hr : f.rest = .done ()) : OnCourse f

variable {f : Flight} {x : Exchange String} {rest : Program String Unit}

/-- What an operation is for does not change once it is settled. -/
theorem url?_after {url : String} (h : f.url? = some url) : (f.after x rest).url? = some url := by
  obtain ⟨op, past, _⟩ := f
  cases op with
  | configure => exact h
  | deliver =>
    cases past with
    | nil => cases h
    | cons y past => exact h

theorem onCourse_start (op : Operation String) : (start op).OnCourse := by
  cases op with
  | configure credentials new =>
    exact .aimed rfl (aims_bind Service.aims_configure fun a past => trivial)
  | deliver credentials id request => exact .waiting credentials id request

/-- An operation stays on course, whatever it is answered. -/
theorem OnCourse.after {c : Call String} {next : c.Reply → Program String Unit}
    (hf : f.OnCourse) (hr : f.rest = .call c next) (reply : c.Reply) :
    (f.after ⟨c, reply⟩ (next reply)).OnCourse := by
  cases hf with
  | waiting credentials id request =>
    cases hr
    rcases reply with e | _ | service
    · exact .ended rfl
    · exact .ended rfl
    · exact .aimed rfl (aims_bind Delivery.aims_handle fun a past => trivial)
  | aimed hu ha =>
    rw [hr] at ha
    exact .aimed (url?_after hu) (ha.2 reply)
  | ended hd =>
    rw [hd] at hr
    cases hr

/-- What is deleted was shown. -/
theorem OnCourse.exists_shows {client : String} {repo : RepoName} {id : UInt64}
    {next : Except Failure Unit → Program String Unit} (hf : f.OnCourse)
    (hr : f.rest = .call (.deleteHook client repo id) next) :
    ∃ url, f.url? = some url ∧ ∃ x ∈ f.past, x.Shows url client repo id := by
  cases hf with
  | waiting => cases hr
  | aimed hu ha =>
    rw [hr] at ha
    exact ⟨_, hu, ha.1⟩
  | ended hd =>
    rw [hd] at hr
    cases hr

/-- What the operation is about to delete, if that is what it does next. -/
def target? (f : Flight) : Option (String × RepoName × UInt64) :=
  match f.rest with
  | .call (.deleteHook client repo id) _ => some (client, repo, id)
  | _ => none

theorem exists_rest_of_target? {client : String} {repo : RepoName} {id : UInt64}
    (h : f.target? = some (client, repo, id)) :
    ∃ next, f.rest = .call (.deleteHook client repo id) next := by
  rw [target?] at h
  split at h
  · next next hr =>
    cases h
    exact ⟨next, hr⟩
  · cases h

end Flight

/-! ## Traffic -/

/-- A world and the operations that are or were under way in it. -/
structure Traffic where
  world : World
  flights : List Flight := []

namespace Traffic

/-- Something that happens. -/
inductive Event where
  /-- an operation is begun -/
  | begun (op : Operation String)
  /-- an operation makes a call and gets a reply -/
  | called (i : Nat) (x : Exchange String)
  /-- a hook is put on a provider behind everybody's back -/
  | inserted (name repo : String) (config : Table Json.Value)

/-- Whether a hook comes to a provider. -/
def Event.creates (name : String) : Event → Bool
  | called _ x => Memory.creates name x
  | inserted client _ _ => client = name
  | begun _ => false

/-- The hook that is taken off a provider, if one is. -/
def Event.removed? : Event → Option (String × RepoName × UInt64)
  | called _ ⟨.deleteHook client repo id, .ok ()⟩ => some (client, repo, id)
  | _ => none

/-- What one event does. A call may be answered by the world, or fail and change nothing. -/
inductive Step : Traffic → Event → Traffic → Prop where
  | begin (t : Traffic) (op : Operation String) :
      Step t (.begun op) ⟨t.world, t.flights ++ [.start op]⟩
  | call {t : Traffic} {i : Nat} {f : Flight} {c : Call String}
      {next : c.Reply → Program String Unit} {reply : c.Reply} {w : World}
      (hf : t.flights[i]? = some f) (hr : f.rest = .call c next)
      (hc : Hazard.anyStrike.Conduct c t.world reply w) :
      Step t (.called i ⟨c, reply⟩) ⟨w, t.flights.set i (f.after ⟨c, reply⟩ (next reply))⟩
  | insert (t : Traffic) (name repo : String) (config : Table Json.Value) :
      Step t (.inserted name repo config)
        ⟨t.world.setProvider name ((t.world.provider name).insertHook repo config).2, t.flights⟩

/-- What events do one after the other. -/
inductive Steps : Traffic → List Event → Traffic → Prop where
  | nil (t : Traffic) : Steps t [] t
  | cons {t t₁ t' : Traffic} {e : Event} {log : List Event} (hs : Step t e t₁)
      (hr : Steps t₁ log t') : Steps t (e :: log) t'

/-! ### Moves -/

/-- Something that can be made to happen; calls are answered by the world. -/
inductive Move where
  /-- begin an operation -/
  | begin (op : Operation String)
  /-- let an operation make its next call -/
  | turn (i : Nat)
  /-- put a hook on a provider behind everybody's back -/
  | insert (name repo : String) (config : Table Json.Value)

/-- What happens at a move. Nothing does at the turn of an operation that has ended. -/
def follow (t : Traffic) : Move → Option (Event × Traffic)
  | .begin op => some (.begun op, ⟨t.world, t.flights ++ [.start op]⟩)
  | .turn i =>
    t.flights[i]?.bind fun f =>
      match f.rest with
      | .done () => none
      | .call c next =>
        let (reply, w) := World.answer c t.world
        some (.called i ⟨c, reply⟩, ⟨w, t.flights.set i (f.after ⟨c, reply⟩ (next reply))⟩)
  | .insert name repo config =>
    some (.inserted name repo config,
      ⟨t.world.setProvider name ((t.world.provider name).insertHook repo config).2, t.flights⟩)

/-- What happens at moves one after the other, and what has come of it. -/
def play : Traffic → List Move → List Event × Traffic
  | t, [] => ([], t)
  | t, m :: moves =>
    match t.follow m with
    | none => play t moves
    | some (e, t₁) =>
      let (log, t') := play t₁ moves
      (e :: log, t')

theorem step_of_follow {t t' : Traffic} {m : Move} {e : Event} (h : t.follow m = some (e, t')) :
    Step t e t' := by
  cases m with
  | begin op =>
    cases h
    exact .begin t op
  | turn i =>
    obtain ⟨f, hf, h⟩ := Option.bind_eq_some_iff.mp h
    split at h
    · cases h
    · next c next hr =>
      cases h
      exact .call hf hr (.met c t.world)
  | insert name repo config =>
    cases h
    exact .insert t name repo config

/-- Moves make traffic. -/
theorem steps_play (t : Traffic) (moves : List Move) :
    Steps t (t.play moves).1 (t.play moves).2 := by
  induction moves generalizing t with
  | nil => exact .nil t
  | cons m moves ih =>
    rw [play]
    split
    · exact ih t
    · next e t₁ h => exact .cons (step_of_follow h) (ih t₁)

/-! ### One event -/

/-- What is known at any time of a provider on which so many hooks have been put, and of the
operations under way. -/
structure Orderly (name : String) (n : Nat) (t : Traffic) : Prop where
  /-- the provider has numbered its hooks -/
  numbered : (t.world.provider name).Numbered n
  /-- the operations are on course -/
  onCourse : ∀ f ∈ t.flights, f.OnCourse
  /-- what an operation was shown as its own is that, or gone -/
  means : ∀ f ∈ t.flights, ∀ x ∈ f.past, ∀ url repo id, x.Shows url name repo id →
    (t.world.provider name).Means n url repo id

variable {name u : String} {n : Nat} {t t₁ t₂ t' : Traffic} {e : Event}

theorem Orderly.begin (ht : t.Orderly name n) (op : Operation String) :
    Orderly name n ⟨t.world, t.flights ++ [.start op]⟩ := by
  refine ⟨ht.numbered, fun f hf => ?_, fun f hf x hx => ?_⟩
  · rcases List.mem_append.mp hf with hf | hf
    · exact ht.onCourse f hf
    · obtain rfl := List.mem_singleton.mp hf
      exact Flight.onCourse_start op
  · rcases List.mem_append.mp hf with hf | hf
    · exact ht.means f hf x hx
    · obtain rfl := List.mem_singleton.mp hf
      cases hx

/-- A listing shows what is there. -/
theorem means_of_shows {c : Call String} {reply : c.Reply} {w w' : World}
    (hc : Hazard.anyStrike.Conduct c w reply w') (hn : (w.provider name).Numbered n) {url : String}
    {repo : RepoName} {id : UInt64} (hs : Exchange.Shows url name repo id ⟨c, reply⟩) :
    (w.provider name).Means n url repo id := by
  cases c with
  | listHooks client repo' =>
    rcases reply with e | hooks
    · cases hs
    · obtain ⟨rfl, rfl, h, hm, rfl, hu⟩ := hs
      obtain ⟨-, rfl⟩ := World.listHooks_eq_ok (congrArg Prod.fst hc.eq_answer)
      exact hn.means hm hu
  | _ => cases hs

/-- Order is kept by everything that happens, as long as there are numbers. -/
theorem Orderly.step (ht : t.Orderly name n) (hs : Step t e t')
    (hn : n + (e.creates name).toNat < UInt64.size) :
    t'.Orderly name (n + (e.creates name).toNat) := by
  cases hs with
  | begin op => exact ht.begin op
  | @call i f c next reply w hf hr hc =>
    have hm := moves_of_conduct hc name
    have hkeep : ∀ url repo id, (t.world.provider name).Means n url repo id →
        (w.provider name).Means (n + (creates name ⟨c, reply⟩).toNat) url repo id :=
      fun url repo id h => h.of_moves ht.numbered hm hn
    have hfm := List.mem_of_getElem? hf
    refine ⟨ht.numbered.of_moves hm hn, fun g hg => ?_, fun g hg x hx url repo id hx' => ?_⟩
    · rcases List.mem_or_eq_of_mem_set hg with hg | rfl
      · exact ht.onCourse g hg
      · exact (ht.onCourse f hfm).after hr reply
    · refine hkeep url repo id ?_
      rcases List.mem_or_eq_of_mem_set hg with hg | rfl
      · exact ht.means g hg x hx url repo id hx'
      · rcases List.mem_append.mp hx with hx | hx
        · exact ht.means f hfm x hx url repo id hx'
        · obtain rfl := List.mem_singleton.mp hx
          exact means_of_shows hc ht.numbered hx'
  | insert client repo config =>
    have hm : (t.world.provider name).Moves (decide (client = name))
        ((t.world.setProvider client
          ((t.world.provider client).insertHook repo config).2).provider name) := by
      rw [World.provider_setProvider]
      by_cases hc : client = name
      · subst hc
        simpa [Provider.Moves] using Provider.gains_insertHook _ repo config
      · simpa [Provider.Moves, hc] using Provider.Thins.refl _
    refine ⟨ht.numbered.of_moves hm hn, ht.onCourse, fun f hf x hx url repo id hs => ?_⟩
    exact (ht.means f hf x hx url repo id hs).of_moves ht.numbered hm hn

/-- A deletion that is under way means a hook that the operation is for, or nothing. -/
theorem Orderly.means_of_deleteHook (ht : t.Orderly name n) {f : Flight} (hf : f ∈ t.flights)
    {repo : RepoName} {id : UInt64} {next : Except Failure Unit → Program String Unit}
    (hr : f.rest = .call (.deleteHook name repo id) next) :
    ∃ url, f.url? = some url ∧
      ∀ h ∈ t.world.hooksOn name repo.fullName, h.id = id → h.callbackUrl? = some url := by
  obtain ⟨url, hu, x, hx, hs⟩ := (ht.onCourse f hf).exists_shows hr
  exact ⟨url, hu, (ht.means f hf x hx url repo id hs).2⟩

/-- Whatever happens, the hooks for a URL that no operation is for stay as they are. -/
theorem Orderly.spares (ht : t.Orderly name n) (hs : Step t e t')
    (hforeign : ∀ f ∈ t.flights, f.url? ≠ some u) (r : String) :
    (t.world.hooksOn name r).filter (Hook.reportsTo u) <+:
      (t'.world.hooksOn name r).filter (Hook.reportsTo u) := by
  cases hs with
  | begin op => exact List.prefix_rfl
  | @call i f c next reply w hf hr hc =>
    refine spares_of_conduct hc (fun repo id hd h hm hid hu => ?_) r
    subst hd
    have hfm := List.mem_of_getElem? hf
    obtain ⟨url, hurl, hown⟩ := ht.means_of_deleteHook hfm hr
    refine hforeign f hfm ?_
    rw [hurl, ← hown h hm hid, hu]
  | insert client repo config =>
    rw [World.hooksOn, World.hooksOn, World.provider_setProvider]
    split
    · next hn =>
      subst hn
      exact (Provider.gains_insertHook _ repo config).keeps_filter _ r
    · exact List.prefix_rfl

/-- If an operation is for a URL, it is so later. -/
theorem Step.foreign (hs : Step t e t') (h : ∀ f ∈ t'.flights, f.url? ≠ some u) :
    ∀ f ∈ t.flights, f.url? ≠ some u := by
  cases hs with
  | begin op => exact fun f hf => h f (List.mem_append_left _ hf)
  | @call i f c next reply w hf hr hc =>
    intro g hg hu
    obtain ⟨j, hj⟩ := List.mem_iff_getElem?.mp hg
    by_cases hij : i = j
    · subst hij
      obtain rfl : f = g := Option.some.inj (hf.symm.trans hj)
      obtain ⟨hlt, -⟩ := List.getElem?_eq_some_iff.mp hf
      exact h _ (List.mem_set hlt _) (Flight.url?_after hu)
    · refine h g (List.mem_iff_getElem?.mpr ⟨j, ?_⟩) hu
      rw [List.getElem?_set_ne hij, hj]
  | insert client repo config => exact h

/-! ### Many events -/

theorem Orderly.steps {log : List Event} (hs : Steps t log t') (ht : t.Orderly name n)
    (hn : n + log.countP (Event.creates name) < UInt64.size) :
    t'.Orderly name (n + log.countP (Event.creates name)) := by
  induction hs generalizing n with
  | nil t => exact ht
  | cons hs _ ih =>
    rw [countP_cons_toNat, ← Nat.add_assoc] at hn ⊢
    exact ih (ht.step hs (Nat.lt_of_le_of_lt (Nat.le_add_right _ _) hn)) hn

theorem Steps.foreign {log : List Event} (hs : Steps t log t')
    (h : ∀ f ∈ t'.flights, f.url? ≠ some u) : ∀ f ∈ t.flights, f.url? ≠ some u := by
  induction hs with
  | nil t => exact h
  | cons hs _ ih => exact hs.foreign (ih h)

theorem Orderly.spares_steps {log : List Event} (hs : Steps t log t') (ht : t.Orderly name n)
    (hn : n + log.countP (Event.creates name) < UInt64.size)
    (hforeign : ∀ f ∈ t'.flights, f.url? ≠ some u) (r : String) :
    (t.world.hooksOn name r).filter (Hook.reportsTo u) <+:
      (t'.world.hooksOn name r).filter (Hook.reportsTo u) := by
  induction hs generalizing n with
  | nil t => exact List.prefix_rfl
  | cons hs hrest ih =>
    rw [countP_cons_toNat, ← Nat.add_assoc] at hn
    have ht₁ := ht.step hs (Nat.lt_of_le_of_lt (Nat.le_add_right _ _) hn)
    exact (ht.spares hs (hs.foreign (hrest.foreign hforeign)) r).trans (ih ht₁ hn hforeign)

/-- **Services do not get in each other's way.** On a provider on which fewer than 2 ^ 64 hooks are
put in all, any number of operations are under way, one call at a time, in any order and with any
call failing that may, and hooks are put there behind everybody's back. None of the operations is
for a URL. Then from any time to any later time the hooks for this URL stay as they are on every
repository, up to more that come behind them; and a deletion that is about to be made means a hook
for the URL of the operation that makes it, or nothing. -/
theorem hooks_spared {log₁ log₂ : List Event} (hmade : (t.world.provider name).Made n)
    (hstart : t.flights = []) (h₁ : Steps t log₁ t₁) (h₂ : Steps t₁ log₂ t₂)
    (hn : n + (log₁ ++ log₂).countP (Event.creates name) < UInt64.size)
    (hforeign : ∀ f ∈ t₂.flights, f.url? ≠ some u) :
    (∀ r, (t₁.world.hooksOn name r).filter (Hook.reportsTo u) <+:
        (t₂.world.hooksOn name r).filter (Hook.reportsTo u)) ∧
      ∀ f ∈ t₂.flights, ∀ repo id next, f.rest = .call (.deleteHook name repo id) next →
        ∃ own, f.url? = some own ∧
          ∀ h ∈ t₂.world.hooksOn name repo.fullName, h.id = id → h.callbackUrl? = some own := by
  rw [List.countP_append, ← Nat.add_assoc] at hn
  have hn₁ := Nat.lt_of_le_of_lt (Nat.le_add_right _ _) hn
  have ht : t.Orderly name n := by
    refine ⟨hmade.numbered (Nat.lt_of_le_of_lt (Nat.le_add_right _ _) hn₁), fun f hf => ?_,
      fun f hf => ?_⟩
    · rw [hstart] at hf
      cases hf
    · rw [hstart] at hf
      cases hf
  have ht₁ := ht.steps h₁ hn₁
  refine ⟨ht₁.spares_steps h₂ hn hforeign, fun f hf repo id next hr => ?_⟩
  exact (ht₁.steps h₂ hn).means_of_deleteHook hf hr

/-! ### A deletion that comes too late -/

/-- A provider with hooks of two services on one repository. The second service is stored. -/
def settledIn : Traffic where
  world :=
    { store := Table.ofList [("one", watching "one" "v" ["acme/a"])]
      providers := Table.ofList [("main",
        ((({} : Provider).insertHook "acme/a" (Table.ofList [("url", .text "u")])).2.insertHook
          "acme/a" (Table.ofList [("url", .text "v")])).2)] }

/-- The second service moves to another repository, and then there is a push to the one it left. Both
operations list the hooks there. The delivery goes on to delete the one of the service, and somebody
puts another hook for the first service there. Now the declaration is about to delete what it was
shown. -/
def crossing : List Move :=
  [.begin (.configure soleUser (watching "one" "v" ["acme/b"])),
    .turn 0, .turn 0, .turn 0, .turn 0,
    .begin (.deliver soleUser "one" (Delivery.pushOf "acme/a" [])),
    .turn 1, .turn 0, .turn 1, .turn 1,
    .insert "main" "Acme/A" (Table.ofList [("url", .text "u")])]

/-- What has come of this by then. -/
def halfway : Traffic := (settledIn.play crossing).2

/-- What comes of it when the declaration has made its deletion. -/
def crossed : Traffic := (settledIn.play (crossing ++ [.turn 0])).2

theorem made_settledIn : (settledIn.world.provider "main").Made 2 :=
  .inserted (.inserted .fresh _ _) _ _

/-- One hook is taken off, and the deletion that comes after it means nothing any more. The hook that
was there first outlasts both, and so does the one that came between them. -/
theorem hooks_spared_crossing :
    (settledIn.play (crossing ++ [.turn 0])).1.filterMap Event.removed? =
      [("main", ⟨"acme", "a"⟩, 2)] ∧
    (∃ f ∈ halfway.flights, f.target? = some ("main", ⟨"acme", "a"⟩, 2) ∧
      ∃ own, f.url? = some own ∧
        ∀ h ∈ halfway.world.hooksOn "main" "acme/a", h.id = 2 → h.callbackUrl? = some own) ∧
    (settledIn.world.hooksOn "main" "acme/a").map (·.id) = [1, 2] ∧
    (crossed.world.hooksOn "main" "acme/a").map (·.id) = [1, 4] ∧
    (settledIn.world.hooksOn "main" "acme/a").filter (Hook.reportsTo "u") <+:
      (crossed.world.hooksOn "main" "acme/a").filter (Hook.reportsTo "u") := by
  have hhalfway : Steps settledIn (settledIn.play crossing).1 halfway := steps_play _ _
  have hcrossed : Steps settledIn (settledIn.play (crossing ++ [.turn 0])).1 crossed := steps_play _ _
  obtain ⟨-, hmeans⟩ := hooks_spared (u := "u") made_settledIn rfl (.nil settledIn) hhalfway
    (by decide +kernel) (by decide +kernel)
  obtain ⟨hkept, -⟩ := hooks_spared (u := "u") made_settledIn rfl (.nil settledIn) hcrossed
    (by decide +kernel) (by decide +kernel)
  have htarget : some ("main", (⟨"acme", "a"⟩ : RepoName), (2 : UInt64)) ∈
      halfway.flights.map Flight.target? := by decide +kernel
  obtain ⟨f, hf, htarget⟩ := List.mem_map.mp htarget
  obtain ⟨next, hr⟩ := Flight.exists_rest_of_target? htarget
  have hname : RepoName.fullName ⟨"acme", "a"⟩ = "acme/a" := by decide
  have hown := hmeans f hf _ _ _ hr
  rw [hname] at hown
  exact ⟨by decide +kernel, ⟨f, hf, htarget, hown⟩, by decide +kernel, by decide +kernel, hkept _⟩

end Traffic

end WebhookRelay
