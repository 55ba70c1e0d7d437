import WebhookRelay.Proofs.Memory.Hazards
import Mathlib.Data.List.Infix
import Mathlib.Data.List.Nodup

/-!
# How hooks are numbered

A provider counts the hooks that have ever been put on it, whoever put them there, and gives each
the next number. As long as there are fewer than 2 ^ 64 of them, no number is given twice
(`Provider.Made.numbered`), so a number that was seen once on a repository still means the hook it
meant then, or nothing (`Provider.Means`).

A provider can only gain one new hook (`Provider.Gains`) or lose some (`Provider.Thins`), and
whatever is said of numbers is said of these two.
-/

namespace WebhookRelay.Memory

open Program

namespace Provider

variable {p p' : Provider} {n : Nat} {r : String}

/-! ## Gaining and losing -/

/-- A provider gains one hook, which gets the next number. -/
def Gains (p p' : Provider) : Prop :=
  p'.nextId = p.nextId + 1 ∧ ∃ repo, ∃ hook : Hook, hook.id = p.nextId ∧
    ∀ r, p'.hooksOn r = if Text.asciiLower r = repo then p.hooksOn r ++ [hook] else p.hooksOn r

theorem Gains.keeps_filter (hg : p.Gains p') (f : Hook → Bool) (r : String) :
    (p.hooksOn r).filter f <+: (p'.hooksOn r).filter f := by
  obtain ⟨-, repo, hook, -, hhooks⟩ := hg
  rw [hhooks]
  split
  · rw [List.filter_append]
    exact List.prefix_append _ _
  · exact List.prefix_rfl

/-- A provider loses hooks, or none. -/
def Thins (p p' : Provider) : Prop :=
  p'.nextId = p.nextId ∧ ∀ r, (p'.hooksOn r).Sublist (p.hooksOn r)

theorem Thins.refl (p : Provider) : Thins p p := ⟨rfl, fun _ => .refl _⟩

/-- What is so of all hooks, and of any hook with the next number, is so once one was gained. -/
theorem Gains.forall_hooksOn {P : Hook → Prop} (hg : p.Gains p')
    (hall : ∀ r, ∀ h ∈ p.hooksOn r, P h) (hnew : ∀ h : Hook, h.id = p.nextId → P h) :
    ∀ r, ∀ h ∈ p'.hooksOn r, P h := by
  obtain ⟨-, repo, hook, hid, hhooks⟩ := hg
  intro r h hm
  rw [hhooks] at hm
  split at hm
  · rcases List.mem_append.mp hm with hm | hm
    · exact hall r h hm
    · obtain rfl := List.mem_singleton.mp hm
      exact hnew h hid
  · exact hall r h hm

/-- And so it is once some were lost. -/
theorem Thins.forall_hooksOn {P : Hook → Prop} (ht : p.Thins p')
    (hall : ∀ r, ∀ h ∈ p.hooksOn r, P h) : ∀ r, ∀ h ∈ p'.hooksOn r, P h :=
  fun r h hm => hall r h ((ht.2 r).subset hm)

theorem gains_insertHook (p : Provider) (repo : String) (config : Table Json.Value) :
    p.Gains (p.insertHook repo config).2 := by
  refine ⟨rfl, Text.asciiLower repo, ⟨p.nextId, "web", true, [], config⟩, rfl, fun r => ?_⟩
  show (p.setHooks repo _).hooksOn r = _
  rw [hooksOn_setHooks]
  split
  · next h => rw [hooksOn_congr h]
  · rfl

theorem gains_create {repo : RepoName} {spec : HookSpec} (h : p.Accepts repo spec) :
    p.Gains (p.create repo spec).2 := by
  refine ⟨?_, repo.key, spec.install p.nextId, rfl, fun r => hooksOn_create_of_accepts h⟩
  rw [create_of_accepts h]

theorem thins_create {repo : RepoName} {spec : HookSpec} (h : ¬p.Accepts repo spec) :
    p.Thins (p.create repo spec).2 := by
  rw [(create_of_not_accepts h).2]
  exact .refl p

theorem thins_list (p : Provider) (repo : RepoName) : p.Thins (p.list repo).2 := by
  refine ⟨?_, fun r => hooksOn_list (p := p) ▸ .refl _⟩
  by_cases h : repo.key ∈ p.failing
  · rw [list_of_failing h]
    rfl
  · rw [list_of_not_failing h]
    rfl

theorem thins_delete (p : Provider) (repo : RepoName) (id : UInt64) :
    p.Thins (p.delete repo id).2 := by
  refine ⟨?_, fun r => ?_⟩
  · by_cases hf : repo.key ∈ p.failing
    · rw [delete_of_failing hf]
      rfl
    · by_cases hm : ∃ h ∈ p.hooksOn repo.fullName, h.id = id
      · rw [delete_of_mem hf hm]
        rfl
      · rw [delete_of_not_mem hf fun x hx e => hm ⟨x, hx, e⟩]
        rfl
  · rw [hooksOn_delete]
    split
    · exact List.filter_sublist
    · exact .refl _

theorem thins_clear (p : Provider) (repo : String) : p.Thins (p.clear repo) := by
  refine ⟨rfl, fun r => ?_⟩
  simp only [hooksOn, clear, Table.get?_erase]
  split
  · exact List.nil_sublist _
  · exact .refl _

/-! ## How a provider comes about -/

/-- What a provider can have become once so many hooks have been put on it. -/
inductive Made : Nat → Provider → Prop where
  | fresh : Made 0 {}
  | listed {n : Nat} {p : Provider} (hp : Made n p) (repo : RepoName) : Made n (p.list repo).2
  | created {n : Nat} {p : Provider} (hp : Made n p) {repo : RepoName} {spec : HookSpec}
      (ha : p.Accepts repo spec) : Made (n + 1) (p.create repo spec).2
  | turnedAway {n : Nat} {p : Provider} (hp : Made n p) {repo : RepoName} {spec : HookSpec}
      (ha : ¬p.Accepts repo spec) : Made n (p.create repo spec).2
  | deleted {n : Nat} {p : Provider} (hp : Made n p) (repo : RepoName) (id : UInt64) :
      Made n (p.delete repo id).2
  | inserted {n : Nat} {p : Provider} (hp : Made n p) (repo : String)
      (config : Table Json.Value) : Made (n + 1) (p.insertHook repo config).2
  | cleared {n : Nat} {p : Provider} (hp : Made n p) (repo : String) : Made n (p.clear repo)
  | broken {n : Nat} {p : Provider} (hp : Made n p) (repo : String) : Made n (p.fail repo)

/-- A provider that somebody has put hooks on. -/
def stocked (hooks : List (String × Table Json.Value)) : Provider :=
  hooks.foldl (fun p e => (p.insertHook e.1 e.2).2) {}

theorem made_stocked (hooks : List (String × Table Json.Value)) :
    Made hooks.length (stocked hooks) := by
  induction hooks using List.reverseRecOn with
  | nil => exact .fresh
  | append_singleton hooks e ih =>
    rw [stocked, List.foldl_append, List.length_append]
    exact .inserted ih e.1 e.2

/-- The numbers of the hooks, once so many hooks have been put on a provider. -/
structure Numbered (n : Nat) (p : Provider) : Prop where
  /-- the next number is a new one -/
  next : p.nextId = UInt64.ofNat (n + 1)
  /-- the numbers given go up to the count -/
  given : ∀ r, ∀ h ∈ p.hooksOn r, h.id.toNat ≤ n
  /-- no number stands twice on one repository -/
  distinct : ∀ r, ((p.hooksOn r).map (·.id)).Nodup

/-- A number that was given means no hook on a repository but one for a URL. -/
def Means (n : Nat) (p : Provider) (url : String) (repo : RepoName) (id : UInt64) : Prop :=
  id.toNat ≤ n ∧ ∀ h ∈ p.hooksOn repo.fullName, h.id = id → h.callbackUrl? = some url

/-- The next number has not been given before. -/
theorem Numbered.toNat_nextId (hp : p.Numbered n) (hn : n + 1 < UInt64.size) :
    p.nextId.toNat = n + 1 := by
  rw [hp.next, UInt64.toNat_ofNat']
  exact Nat.mod_eq_of_lt hn

theorem Numbered.of_gains (hp : p.Numbered n) (hg : p.Gains p') (hn : n + 1 < UInt64.size) :
    p'.Numbered (n + 1) := by
  obtain ⟨hnext, repo, hook, hid, hhooks⟩ := hg
  have hnew : hook.id.toNat = n + 1 := by rw [hid, hp.toNat_nextId hn]
  refine ⟨?_, fun r h hm => ?_, fun r => ?_⟩
  · rw [hnext, hp.next, UInt64.ofNat_add (n + 1) 1]
    rfl
  · rw [hhooks] at hm
    split at hm
    · rcases List.mem_append.mp hm with hm | hm
      · exact Nat.le_succ_of_le (hp.given r h hm)
      · obtain rfl := List.mem_singleton.mp hm
        exact Nat.le_of_eq hnew
    · exact Nat.le_succ_of_le (hp.given r h hm)
  · rw [hhooks]
    split
    · rw [List.map_append, List.nodup_append]
      refine ⟨hp.distinct r, List.nodup_singleton _, ?_⟩
      rintro x hx y hy rfl
      obtain ⟨h, hm, rfl⟩ := List.mem_map.mp hx
      have hle := hp.given r h hm
      rw [List.mem_singleton.mp hy, hnew] at hle
      exact Nat.not_succ_le_self n hle
    · exact hp.distinct r

theorem Numbered.of_thins (hp : p.Numbered n) (ht : p.Thins p') : p'.Numbered n :=
  ⟨ht.1.trans hp.next, fun r h hm => hp.given r h ((ht.2 r).subset hm),
    fun r => ((ht.2 r).map _).nodup (hp.distinct r)⟩

theorem Means.of_gains {url : String} {repo : RepoName} {id : UInt64}
    (hm : p.Means n url repo id) (hp : p.Numbered n) (hg : p.Gains p') (hn : n + 1 < UInt64.size) :
    p'.Means (n + 1) url repo id := by
  obtain ⟨-, repo', hook, hid, hhooks⟩ := hg
  refine ⟨Nat.le_succ_of_le hm.1, fun h hh he => ?_⟩
  rw [hhooks] at hh
  split at hh
  · rcases List.mem_append.mp hh with hh | hh
    · exact hm.2 h hh he
    · -- the hook that has come has a number that was not given before
      obtain rfl := List.mem_singleton.mp hh
      have hle := hm.1
      rw [← he, hid, hp.toNat_nextId hn] at hle
      exact absurd hle (Nat.not_succ_le_self n)
  · exact hm.2 h hh he

theorem Means.of_thins {url : String} {repo : RepoName} {id : UInt64}
    (hm : p.Means n url repo id) (ht : p.Thins p') : p'.Means n url repo id :=
  ⟨hm.1, fun h hh => hm.2 h ((ht.2 _).subset hh)⟩

/-- A provider gains a hook or thins out, as the flag says. -/
def Moves (gained : Bool) (p p' : Provider) : Prop := if gained then p.Gains p' else p.Thins p'

theorem Numbered.of_moves {gained : Bool} (hp : p.Numbered n) (hm : p.Moves gained p')
    (hn : n + gained.toNat < UInt64.size) : p'.Numbered (n + gained.toNat) := by
  cases gained with
  | false => exact hp.of_thins hm
  | true => exact hp.of_gains hm hn

theorem Means.of_moves {gained : Bool} {url : String} {repo : RepoName} {id : UInt64}
    (h : p.Means n url repo id) (hp : p.Numbered n) (hm : p.Moves gained p')
    (hn : n + gained.toNat < UInt64.size) : p'.Means (n + gained.toNat) url repo id := by
  cases gained with
  | false => exact h.of_thins hm
  | true => exact h.of_gains hp hm hn

/-- What is on a repository under a number is what is shown under it. -/
theorem Numbered.means (hp : p.Numbered n) {url : String} {repo : RepoName} {hook : Hook}
    (hm : hook ∈ p.hooksOn repo.fullName) (hu : hook.callbackUrl? = some url) :
    p.Means n url repo hook.id := by
  refine ⟨hp.given _ hook hm, fun h hh he => ?_⟩
  rwa [List.inj_on_of_nodup_map (hp.distinct repo.fullName) hh hm he]

/-- A provider numbers its hooks, as long as there are numbers. -/
theorem Made.numbered (hp : Made n p) (hn : n < UInt64.size) : p.Numbered n := by
  induction hp with
  | fresh => exact ⟨rfl, fun r h hm => (List.not_mem_nil hm).elim, fun r => List.nodup_nil⟩
  | listed _ repo ih => exact (ih hn).of_thins (thins_list _ repo)
  | created _ ha ih => exact (ih (Nat.lt_of_succ_lt hn)).of_gains (gains_create ha) hn
  | turnedAway _ ha ih => exact (ih hn).of_thins (thins_create ha)
  | deleted _ repo id ih => exact (ih hn).of_thins (thins_delete _ repo id)
  | inserted _ repo config ih =>
    exact (ih (Nat.lt_of_succ_lt hn)).of_gains (gains_insertHook _ repo config) hn
  | cleared _ repo ih => exact (ih hn).of_thins (thins_clear _ repo)
  | broken _ repo ih => exact (ih hn).of_thins ⟨rfl, fun _ => .refl _⟩

/-- No hook gets the number 0, which is the next one when all others are used up. -/
theorem Made.id_ne_zero (hp : Made n p) (hn : n < UInt64.size) :
    ∀ r, ∀ h ∈ p.hooksOn r, h.id ≠ 0 := by
  have hgained {m : Nat} {q q' : Provider} (hq : Made m q) (hm : m + 1 < UInt64.size)
      (hall : ∀ r, ∀ h ∈ q.hooksOn r, h.id ≠ 0) (hg : q.Gains q') :
      ∀ r, ∀ h ∈ q'.hooksOn r, h.id ≠ 0 := by
    apply hg.forall_hooksOn hall
    intro h hid hzero
    have hnext := (hq.numbered (Nat.lt_of_succ_lt hm)).toNat_nextId hm
    rw [← hid, hzero] at hnext
    exact absurd hnext (Nat.zero_ne_add_one m)
  induction hp with
  | fresh => exact fun r h hm => (List.not_mem_nil hm).elim
  | listed _ repo ih => exact (thins_list _ repo).forall_hooksOn (ih hn)
  | created hq ha ih => exact hgained hq hn (ih (Nat.lt_of_succ_lt hn)) (gains_create ha)
  | turnedAway _ ha ih => exact (thins_create ha).forall_hooksOn (ih hn)
  | deleted _ repo id ih => exact (thins_delete _ repo id).forall_hooksOn (ih hn)
  | inserted hq repo config ih =>
    exact hgained hq hn (ih (Nat.lt_of_succ_lt hn)) (gains_insertHook _ repo config)
  | cleared _ repo ih => exact (thins_clear _ repo).forall_hooksOn (ih hn)
  | broken _ repo ih => exact ih hn

/-- So the next number is that of no hook, also when it is the last of all numbers. -/
theorem Made.id_ne_nextId (hp : Made n p) (hn : n < UInt64.size) :
    ∀ r, ∀ h ∈ p.hooksOn r, h.id ≠ p.nextId := by
  intro r h hm hid
  have hp' := hp.numbered hn
  by_cases hlast : n + 1 < UInt64.size
  · have hle := hp'.given r h hm
    rw [hid, hp'.toNat_nextId hlast] at hle
    exact Nat.not_succ_le_self n hle
  · have hsize : n + 1 = UInt64.size := by omega
    apply hp.id_ne_zero hn r h hm
    rw [hid, hp'.next, hsize]
    rfl

end Provider

/-! ## The world -/

/-- Counting from the first on. -/
theorem countP_cons_toNat {α : Type} (p : α → Bool) (a : α) (l : List α) :
    (a :: l).countP p = (p a).toNat + l.countP p := by
  rw [List.countP_cons, Nat.add_comm]
  cases p a <;> rfl

/-- Whether an exchange puts a hook on a provider. -/
def creates (name : String) : Exchange String → Bool
  | ⟨.createHook client _ _, .ok _⟩ => client = name
  | _ => false

/-- A call that succeeds in creating a hook makes the provider gain it, and any other call makes it
thin out. -/
theorem moves_of_conduct {c : Call String} {reply : c.Reply} {w w' : World}
    (hc : Hazard.anyStrike.Conduct c w reply w') (name : String) :
    (w.provider name).Moves (creates name ⟨c, reply⟩) (w'.provider name) := by
  cases hc with
  | @struck c e he =>
    have hno : creates name ⟨c, .error e⟩ = false := by cases c <;> rfl
    rw [hno]
    exact .refl _
  | lost he => exact he.elim
  | met =>
    rw [World.provider_answer]
    cases c with
    | createHook client repo spec =>
      by_cases ha : (w.provider client).Accepts repo spec
      · have hreply : (World.answer (.createHook client repo spec) w).1 = .ok _ :=
          congrArg Prod.fst (Provider.create_of_accepts ha)
        rw [hreply]
        by_cases hn : client = name
        · subst hn
          simpa [Provider.Moves, creates] using Provider.gains_create ha
        · simpa [Provider.Moves, creates, hn] using Provider.Thins.refl _
      · obtain ⟨⟨e, he⟩, -⟩ := Provider.create_of_not_accepts ha
        have hreply : (World.answer (.createHook client repo spec) w).1 = .error e := he
        rw [hreply]
        show Provider.Thins _ (if client = name then _ else _)
        split
        · next hn =>
          subst hn
          exact Provider.thins_create ha
        · exact .refl _
    | listHooks client repo =>
      show Provider.Thins _ (if client = name then _ else _)
      split
      · next hn =>
        subst hn
        exact Provider.thins_list _ repo
      · exact .refl _
    | deleteHook client repo id =>
      show Provider.Thins _ (if client = name then _ else _)
      split
      · next hn =>
        subst hn
        exact Provider.thins_delete _ repo id
      · exact .refl _
    | _ => exact .refl _

/-- A call leaves the hooks for a URL as they are, and puts others behind them, unless it deletes
one of them. -/
theorem spares_of_conduct {c : Call String} {reply : c.Reply} {w w' : World}
    (hc : Hazard.anyStrike.Conduct c w reply w') {name url : String}
    (hd : ∀ repo id, c = .deleteHook name repo id →
      ∀ h ∈ w.hooksOn name repo.fullName, h.id = id → h.callbackUrl? ≠ some url) (r : String) :
    (w.hooksOn name r).filter (Hook.reportsTo url) <+:
      (w'.hooksOn name r).filter (Hook.reportsTo url) := by
  rcases hc.world_eq with rfl | rfl
  · exact List.prefix_rfl
  · cases c with
    | createHook client repo spec =>
      by_cases ha : (w.provider client).Accepts repo spec
      · rw [World.hooksOn, World.hooksOn, World.provider_answer]
        dsimp only
        split
        · next hn =>
          subst hn
          exact (Provider.gains_create ha).keeps_filter _ r
        · exact List.prefix_rfl
      · rw [World.hooksOn_createHook_of_not_accepts ha]
    | deleteHook client repo id =>
      rw [World.hooksOn_deleteHook]
      split
      · next hk =>
        obtain ⟨rfl, -, hk⟩ := hk
        have hsame : w.hooksOn client r = w.hooksOn client repo.fullName := World.hooksOn_congr hk
        have hkeep : ((w.hooksOn client r).filter (·.id ≠ id)).filter (Hook.reportsTo url) =
            (w.hooksOn client r).filter (Hook.reportsTo url) := by
          rw [List.filter_filter]
          refine List.filter_congr fun h hm => ?_
          by_cases hu : h.callbackUrl? = some url
          · have hne : h.id ≠ id := fun e => hd repo id rfl h (hsame ▸ hm) e hu
            simp [hne]
          · simp [Hook.reportsTo, hu]
        rw [hkeep]
      · exact List.prefix_rfl
    | _ => rw [World.hooksOn_answer rfl rfl]

end WebhookRelay.Memory
