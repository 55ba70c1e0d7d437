import WebhookRelay.Proofs.Memory.Agreement
import WebhookRelay.Proofs.Sync.Phases

/-!
# Services in company

What a declaration does depends on a part of the world: what is stored under the id of the service,
the hooks for its URL, and what fails. Two worlds that agree on this part (`World.Agree`) cannot be
told apart by it, except that hooks have other numbers; and as it never remembers a number for longer
than from a listing to the deletion after it, the numbers make no difference either.

Others may be at work meanwhile who leave the part alone. `Service.company` is the conduct of a world
with such company: before each call it may become another one that agrees with it. What comes of a
declaration there is settled by the part it depends on, numbers aside (`Service.matches_configure`).
-/

namespace WebhookRelay

open Program Memory

variable {s : Service} {credentials : Credentials String} {client name r : String}
  {repo : RepoName} {w w' v v' : World}

/-! ## Company -/

namespace Memory.World

/-- Whether two worlds are the same to a service. -/
abbrev SameTo (s : Service) : World → World → Prop := Agree id (· = s.id) (· = some s.callbackUrl)

/-- Whether two worlds are the same to a service, the numbers of its hooks aside. -/
abbrev AlikeTo (s : Service) : World → World → Prop :=
  Agree Hook.unnumbered (· = s.id) (· = some s.callbackUrl)

/-- Whether no number stands twice on one repository. -/
def Distinct (w : World) : Prop := ∀ name r, ((w.hooksOn name r).map (·.id)).Nodup

end Memory.World

open Memory.World

/-- The conduct of a world with company that leaves a service alone: before a call is answered, the
world may become another one that is the same to the service. -/
def Service.company (s : Service) : Program.Conduct String World := fun c w reply w' =>
  ∃ v, SameTo s w v ∧ v.Distinct ∧ answer c v = (reply, w')

/-! ### Programs that match -/

namespace Program

variable {α β γ δ : Type} {R : α → β → Prop} {S : γ → δ → Prop}

/-- Whether two programs that begin in worlds that are alike to a service, each with company that
leaves the service alone, end alike, in worlds that are alike to the service. -/
def Matches (s : Service) (R : α → β → Prop) (p : Program String α) (q : Program String β) : Prop :=
  ∀ ⦃w v w' v' : World⦄ ⦃trace trace' : List (Exchange String)⦄ ⦃a : α⦄ ⦃b : β⦄, AlikeTo s w v →
    Runs s.company p w trace a w' → Runs s.company q v trace' b v' → R a b ∧ AlikeTo s w' v'

theorem matches_done {a : α} {b : β} (h : R a b) : Matches s R (.done a) (.done b) := by
  intro w v w' v' trace trace' a' b' halike hp hq
  obtain ⟨-, rfl, rfl⟩ := runs_done.mp hp
  obtain ⟨-, rfl, rfl⟩ := runs_done.mp hq
  exact ⟨h, halike⟩

theorem matches_bind {p : Program String α} {q : Program String β} {f : α → Program String γ}
    {g : β → Program String δ} (hpq : Matches s R p q)
    (hfg : ∀ a b, R a b → Matches s S (f a) (g b)) : Matches s S (p.bind f) (q.bind g) := by
  intro w v w' v' trace trace' a' b' halike hp hq
  obtain ⟨_, a, w₁, _, hp₁, hp₂, -⟩ := runs_bind.mp hp
  obtain ⟨_, b, v₁, _, hq₁, hq₂, -⟩ := runs_bind.mp hq
  obtain ⟨hab, halike₁⟩ := hpq halike hp₁ hq₁
  exact hfg a b hab halike₁ hp₂ hq₂

/-- Programs that end in the same successes and failures match if what follows a success does. -/
theorem matches_onSuccess {p q : Program String (Except Failure α)}
    {f : α → Program String (Except Failure γ)} {g : α → Program String (Except Failure δ)}
    {S : Except Failure γ → Except Failure δ → Prop} (hpq : Matches s Eq p q)
    (herror : ∀ e, S (.error e) (.error e)) (hfg : ∀ a, Matches s S (f a) (g a)) :
    Matches s S (p.onSuccess f) (q.onSuccess g) := by
  refine matches_bind hpq ?_
  rintro (e | a) _ rfl
  · exact matches_done (herror e)
  · exact hfg a

/-- Calls match if they are answered alike and programs that match follow. -/
theorem matches_call {c c' : Call String} {next : c.Reply → Program String γ}
    {next' : c'.Reply → Program String δ}
    (h : ∀ w v, AlikeTo s w v → AlikeTo s (answer c w).2 (answer c' v).2 ∧
      Matches s S (next (answer c w).1) (next' (answer c' v).1)) :
    Matches s S (.call c next) (.call c' next') := by
  intro w v w' v' trace trace' a b halike hp hq
  obtain ⟨reply, w₁, _, ⟨u, hu, -, hw⟩, hp, -⟩ := runs_call.mp hp
  obtain ⟨reply', v₁, _, ⟨x, hx, -, hv⟩, hq, -⟩ := runs_call.mp hq
  obtain ⟨hafter, hnext⟩ := h u x (hu.of_id.symm.trans (halike.trans hx.of_id))
  rw [hw, hv] at hafter hnext
  exact hnext hafter hp hq

end Program

/-! ### Alike to a service -/

namespace Memory.World

theorem AlikeTo.eq_nil_iff (h : AlikeTo s w v) :
    w.hooksFor (some s.callbackUrl) name r = [] ↔ v.hooksFor (some s.callbackUrl) name r = [] := by
  have hsame := h.hooks _ rfl name r
  constructor
  · intro hnil
    rwa [hnil, List.map_nil, eq_comm, List.map_eq_nil_iff] at hsame
  · intro hnil
    rwa [hnil, List.map_nil, List.map_eq_nil_iff] at hsame

/-- Where the hook of a service is created, so it is in worlds that are alike to the service. -/
theorem AlikeTo.createHook (h : AlikeTo s w v) (client : String) (repo : RepoName) :
    AlikeTo s (answer (.createHook client repo s.hookSpec) w).2
      (answer (.createHook client repo s.hookSpec) v).2 := by
  refine h.answer (h.store_answer _) ?_
  rintro _ rfl name r
  simp only [hooksFor_createHook, h.failsAt_iff, h.eq_nil_iff]
  split
  · rfl
  · exact h.hooks _ rfl name r

/-- There the provider gives the same answer, the number aside. -/
theorem AlikeTo.createHook_reply (h : AlikeTo s w v) (client : String) (repo : RepoName) :
    (∃ e, (answer (.createHook client repo s.hookSpec) w).1 = .error e ∧
      (answer (.createHook client repo s.hookSpec) v).1 = .error e) ∨
    ∃ hook hook', (answer (.createHook client repo s.hookSpec) w).1 = .ok hook ∧
      (answer (.createHook client repo s.hookSpec) v).1 = .ok hook' := by
  rw [createHook_reply_of_hooksFor, createHook_reply_of_hooksFor]
  simp only [Service.url?_hookSpec, h.failsAt_iff, h.eq_nil_iff]
  by_cases hf : v.FailsAt client repo
  · simp only [if_pos hf]
    exact .inl ⟨_, rfl, rfl⟩
  · simp only [if_neg hf]
    by_cases hnil : v.hooksFor (some s.callbackUrl) client repo.fullName = []
    · simp only [if_pos hnil]
      exact .inr ⟨_, _, rfl, rfl⟩
    · simp only [if_neg hnil]
      exact .inl ⟨_, rfl, rfl⟩

/-- The store and the chat server cannot tell worlds apart that are alike to a service, as long as no
other service is looked up. -/
theorem AlikeTo.reply_eq (h : AlikeTo s w v) {c : Call String} (hp : c.isProvider = false)
    (hload : ∀ id, c = .load id → id = s.id) : (answer c w).1 = (answer c v).1 := by
  cases c with
  | load id => exact congrArg Except.ok (h.store id (hload id rfl))
  | join room => rw [join_reply, join_reply, Chat.admits, Chat.admits, h.rooms]
  | send room m => rw [send_reply, send_reply, Chat.admits, Chat.admits, h.rooms]
  | save | forget => rfl
  | listHooks | createHook | deleteHook => cases hp

end Memory.World

namespace Program

variable {γ δ : Type} {S : γ → δ → Prop}

/-- A call to the store or the chat server matches itself, as long as no other service is looked
up. -/
theorem matches_call_self {c : Call String} {next : c.Reply → Program String γ}
    {next' : c.Reply → Program String δ} (hp : c.isProvider = false)
    (hload : ∀ id, c = .load id → id = s.id)
    (h : ∀ reply, Matches s S (next reply) (next' reply)) :
    Matches s S (.call c next) (.call c next') := by
  obtain ⟨hc, hd⟩ := Call.changes_of_not_isProvider hp
  refine matches_call fun w v halike => ⟨halike.answer_same hc hd, ?_⟩
  rw [halike.reply_eq hp hload]
  exact h _

end Program

/-! ## Declarations -/

/-! ### The first phase -/

namespace Service

/-- Whether a hook is there or created does not depend on numbers. -/
theorem matches_install (s : Service) (client repo : String) :
    Matches s Eq (s.install client repo) (s.install client repo) := by
  unfold install
  split
  · exact matches_done rfl
  · next repo hrepo =>
    refine matches_call fun w v halike => ⟨halike.createHook client repo, ?_⟩
    rcases halike.createHook_reply client repo with ⟨e, hw, hv⟩ | ⟨hook, hook', hw, hv⟩
    · rw [hw, hv]
      exact matches_done rfl
    · rw [hw, hv]
      exact matches_done rfl

end Service

namespace Reconcile

variable {old : Option Service}

theorem matches_installAll (report : Prepared) (repos : List String) :
    Matches s Eq (installAll s client report repos) (installAll s client report repos) := by
  induction repos generalizing report with
  | nil => exact matches_done rfl
  | cons repo rest ih =>
    refine matches_onSuccess (s.matches_install client repo) (fun e => rfl) fun installed => ?_
    cases installed with
    | created => exact ih _
    | alreadyThere => exact ih _

theorem matches_joinAll (report : Prepared) (rooms : List String) :
    Matches s Eq (joinAll report rooms) (joinAll (C := String) report rooms) := by
  induction rooms generalizing report with
  | nil => exact matches_done rfl
  | cons room rest ih =>
    refine matches_call_self rfl (by rintro id ⟨⟩) fun reply => ?_
    cases reply with
    | ok => exact ih _
    | error e => exact matches_done rfl

theorem matches_prepare :
    Matches s Eq (prepare credentials s old) (prepare credentials s old) := by
  unfold prepare
  split
  · exact matches_done rfl
  · dsimp only
    split
    · exact matches_done rfl
    · exact matches_onSuccess (matches_installAll _ _) (fun e => rfl) fun report =>
        matches_joinAll report _

end Reconcile

/-! ### The second phase -/

namespace Service

/-- What comes of taking the hook of a service off a repository. -/
def removal (s : Service) (name : String) (repo : RepoName) (w : World) : Except Failure UInt64 :=
  if w.FailsAt name repo then .error (Provider.outage repo)
  else match (w.hooksFor (some s.callbackUrl) name repo.fullName).head? with
    | none => .error (.hookNotFound repo.fullName s.callbackUrl)
    | some hook => .ok hook.id

/-- What it leaves of the part of the world that the service depends on. -/
structure Withdrawn (s : Service) (name : String) (repo : RepoName) (w w' : World) : Prop where
  store : w'.store.get? s.id = w.store.get? s.id
  hooks : ∀ n r, w'.hooksFor (some s.callbackUrl) n r =
    if (name = n ∧ Text.asciiLower r = repo.key) ∧ ¬w.FailsAt name repo then
      (w.hooksFor (some s.callbackUrl) n r).tail
    else w.hooksFor (some s.callbackUrl) n r
  rooms : w'.chat.failing = w.chat.failing
  repos : ∀ n, (w'.provider n).failing = (w.provider n).failing

/-- Numbers aside, the same comes of it in worlds that are alike. -/
theorem removal_of_alike (h : AlikeTo s w v) :
    (s.removal name repo w).map (fun _ => (0 : UInt64)) =
      (s.removal name repo v).map (fun _ => (0 : UInt64)) := by
  have hhead := congrArg List.head? (h.hooks _ rfl name repo.fullName)
  rw [List.head?_map, List.head?_map] at hhead
  simp only [removal, h.failsAt_iff]
  split
  · rfl
  · rcases hw : (w.hooksFor (some s.callbackUrl) name repo.fullName).head? with _ | hook <;>
      rcases hv : (v.hooksFor (some s.callbackUrl) name repo.fullName).head? with _ | hook'
    · rfl
    · rw [hw, hv] at hhead
      cases hhead
    · rw [hw, hv] at hhead
      cases hhead
    · rfl

theorem Withdrawn.alike (hw : s.Withdrawn name repo w w') (hv : s.Withdrawn name repo v v')
    (h : AlikeTo s w v) : AlikeTo s w' v' := by
  refine ⟨?_, ?_, ?_, fun n => ?_⟩
  · rintro _ rfl
    rw [hw.store, hv.store, h.store _ rfl]
  · rintro _ rfl n r
    rw [hw.hooks, hv.hooks]
    simp only [h.failsAt_iff]
    split
    · rw [List.map_tail, List.map_tail, h.hooks _ rfl]
    · exact h.hooks _ rfl n r
  · rw [hw.rooms, hv.rooms, h.rooms]
  · rw [hw.repos, hv.repos, h.repos]

/-- Where no hook of the service can be taken off, nothing is. -/
theorem withdrawn_of_same (h : SameTo s w w') (hnone : w.FailsAt name repo ∨
    w.hooksFor (some s.callbackUrl) name repo.fullName = []) : s.Withdrawn name repo w w' := by
  refine ⟨(h.store _ rfl).symm, fun n r => ?_, h.rooms.symm, fun n => (h.repos n).symm⟩
  rw [h.hooksFor_eq rfl]
  split
  · next hk =>
    obtain ⟨⟨rfl, hk⟩, hup⟩ := hk
    rw [hooksFor_congr hk, hnone.resolve_left hup]
    rfl
  · rfl

/-- Where the first hook of the service is deleted by its number, it alone is taken off. -/
theorem withdrawn_deleteHook (hw : SameTo s w v) (hv : v.Distinct) (hup : ¬w.FailsAt name repo)
    {hook : Hook}
    (hfirst : (w.hooksFor (some s.callbackUrl) name repo.fullName).head? = some hook) :
    (answer (.deleteHook name repo hook.id) v).1 = .ok () ∧
      s.Withdrawn name repo w (answer (.deleteHook name repo hook.id) v).2 := by
  have hup' : ¬v.FailsAt name repo := hw.failsAt_iff.not.mp hup
  obtain ⟨rest, hsplit⟩ : ∃ rest, w.hooksFor (some s.callbackUrl) name repo.fullName = hook :: rest :=
    ⟨_, List.eq_cons_of_mem_head? hfirst⟩
  constructor
  · have hm : hook ∈ v.hooksFor (some s.callbackUrl) name repo.fullName := by
      rw [hw.hooksFor_eq rfl, hsplit]
      exact List.mem_cons_self
    rw [deleteHook_reply, if_neg hup', if_pos ⟨hook, (List.mem_filter.mp hm).1, rfl⟩]
  · refine ⟨?_, fun n r => ?_, ?_, fun n => ?_⟩
    · rw [store_answer, hw.store _ rfl]
    · rw [hooksFor_deleteHook, hw.hooksFor_eq rfl]
      by_cases hk : name = n ∧ Text.asciiLower r = repo.key
      · obtain ⟨rfl, hk⟩ := hk
        have hd : ((v.hooksFor (some s.callbackUrl) name repo.fullName).map (·.id)).Nodup :=
          (hv name repo.fullName).sublist (List.filter_sublist.map _)
        rw [hw.hooksFor_eq rfl, hsplit] at hd
        rw [if_pos ⟨rfl, hup', hk⟩, if_pos ⟨⟨rfl, hk⟩, hup⟩, hooksFor_congr hk, hsplit]
        exact filter_id_ne_of_find? (p := fun _ => true) hd rfl
      · rw [if_neg fun h => hk ⟨h.1, h.2.2⟩, if_neg fun h => hk h.1]
    · rw [rooms_answer, hw.rooms]
    · rw [failing_answer, hw.repos]

/-- In company, a listing shows the hooks of the service as they are, and changes nothing of them. -/
theorem listHooks_company {listed : Except Failure (List Hook)}
    (hl : s.company (.listHooks name repo) w listed w') : SameTo s w w' ∧
      ((w.FailsAt name repo ∧ listed = .error (Provider.outage repo)) ∨
        ¬w.FailsAt name repo ∧ ∃ hooks, listed = .ok hooks ∧
          (hooks.find? fun h => h.callbackUrl? = some s.callbackUrl) =
            (w.hooksFor (some s.callbackUrl) name repo.fullName).head?) := by
  obtain ⟨v, hv, -, ha⟩ := hl
  obtain ⟨rfl, rfl⟩ : (answer (.listHooks name repo) v).1 = listed ∧
      (answer (.listHooks name repo) v).2 = w' := ⟨congrArg Prod.fst ha, congrArg Prod.snd ha⟩
  refine ⟨hv.trans (agree_answer (fun _ _ => rfl) fun _ _ _ _ => hooksFor_answer rfl rfl), ?_⟩
  rw [listHooks_reply]
  by_cases hf : w.FailsAt name repo
  · exact .inl ⟨hf, if_pos (hv.failsAt_iff.mp hf)⟩
  · refine .inr ⟨hf, _, if_neg (hv.failsAt_iff.not.mp hf), ?_⟩
    rw [← hv.hooksFor_eq rfl, hooksFor, List.head?_filter]

/-- In company, what is taken off a repository is the first hook of the service. -/
theorem runs_uninstall_company {trace : List (Exchange String)} {result : Except Failure UInt64}
    (hclient : s.client? credentials = some name)
    (hr : Runs s.company (s.uninstall credentials repo) w trace result w') :
    result = s.removal name repo w ∧ s.Withdrawn name repo w w' := by
  cases runs_uninstall hr with
  | nobody hnone => cases hnone.symm.trans hclient
  | notListed hc hl =>
    obtain rfl := Option.some.inj (hc.symm.trans hclient)
    obtain ⟨hsame, ⟨hf, he⟩ | ⟨-, hooks, he, -⟩⟩ := listHooks_company hl
    · cases he
      exact ⟨by rw [removal, if_pos hf], withdrawn_of_same hsame (.inl hf)⟩
    · cases he
  | notFound hc hl hnone =>
    obtain rfl := Option.some.inj (hc.symm.trans hclient)
    obtain ⟨hsame, ⟨-, he⟩ | ⟨hf, hooks, he, hhead⟩⟩ := listHooks_company hl
    · cases he
    · cases he
      rw [hnone, eq_comm] at hhead
      exact ⟨by rw [removal, if_neg hf, hhead],
        withdrawn_of_same hsame (.inr (List.head?_eq_none_iff.mp hhead))⟩
  | found hc hl hfirst hd =>
    obtain rfl := Option.some.inj (hc.symm.trans hclient)
    obtain ⟨hsame, ⟨-, he⟩ | ⟨hf, hooks, he, hhead⟩⟩ := listHooks_company hl
    · cases he
    · cases he
      rw [hfirst, eq_comm] at hhead
      obtain ⟨v, hv, hdistinct, ha⟩ := hd
      obtain ⟨hok, hgone⟩ := withdrawn_deleteHook (hsame.trans hv) hdistinct hf hhead
      rw [ha] at hok hgone
      obtain rfl := hok
      exact ⟨by rw [removal, if_neg hf, hhead]; rfl, hgone⟩

/-- Numbers aside, what comes of uninstalling is the same. -/
theorem matches_uninstall (s : Service) (credentials : Credentials String) (repo : RepoName) :
    Matches s (fun a b => a.map (fun _ => (0 : UInt64)) = b.map fun _ => (0 : UInt64))
      (s.uninstall credentials repo) (s.uninstall credentials repo) := by
  rcases hclient : s.client? credentials with _ | name
  · rw [client?] at hclient
    simp only [uninstall, hclient]
    exact matches_done rfl
  · intro w v w' v' trace trace' a b halike hp hq
    obtain ⟨rfl, hw⟩ := runs_uninstall_company hclient hp
    obtain ⟨rfl, hv⟩ := runs_uninstall_company hclient hq
    exact ⟨removal_of_alike halike, hw.alike hv halike⟩

end Service

namespace Reconcile

/-- The removal without the number of the hook. -/
def Removal.unnumbered (removal : Removal) : Removal :=
  { removal with result := removal.result.map fun _ => 0 }

/-- What the second phase did, without the numbers of hooks. -/
def Settled.unnumbered (settled : Settled) : Settled :=
  { settled with removals := settled.removals.map Removal.unnumbered }

variable {old : Option Service}

theorem matches_uninstallAll {done done' : List Removal} (repos : List String)
    (hdone : done.map Removal.unnumbered = done'.map Removal.unnumbered) :
    Matches s (fun a b => a.map Removal.unnumbered = b.map Removal.unnumbered)
      (uninstallAll credentials s done repos) (uninstallAll credentials s done' repos) := by
  induction repos generalizing done done' with
  | nil => exact matches_done hdone
  | cons repo rest ih =>
    refine matches_bind
      (R := fun a b => a.map (fun _ => (0 : UInt64)) = b.map fun _ => (0 : UInt64)) ?_ ?_
    · unfold uninstallNamed
      split
      · exact s.matches_uninstall credentials _
      · exact matches_done rfl
    · intro a b hab
      refine ih ?_
      simp only [List.map_append, hdone, List.map_cons, List.map_nil, Removal.unnumbered, hab]

theorem matches_settle : Matches s (fun a b => a.unnumbered = b.unnumbered)
    (settle credentials s old) (settle credentials s old) := by
  refine matches_bind (matches_uninstallAll _ rfl) fun removals removals' h => ?_
  split
  · refine matches_call_self rfl (by rintro id ⟨⟩) fun reply => matches_done ?_
    simp only [Settled.unnumbered, h]
  · refine matches_done ?_
    simp only [Settled.unnumbered, h]

end Reconcile

/-! ### The whole -/

/-- What became of a declaration, without the numbers of hooks. -/
def Configured.unnumbered (configured : Configured) : Configured :=
  { configured with settled := configured.settled.unnumbered }

/-- What comes of a declaration in company is settled by the part of the world that it depends on,
numbers aside. -/
theorem Service.matches_configure (s : Service) (credentials : Credentials String) :
    Matches s (fun a b => a.map Configured.unnumbered = b.map Configured.unnumbered)
      (s.configure credentials) (s.configure credentials) := by
  refine matches_call_self rfl (by rintro id ⟨⟩; rfl) fun loaded => ?_
  rcases loaded with e | old
  · exact matches_done rfl
  · refine matches_onSuccess Reconcile.matches_prepare (fun e => rfl) fun prepared => ?_
    refine matches_call_self rfl (by rintro id ⟨⟩) fun saved => ?_
    rcases saved with e | ⟨⟩
    · exact matches_done rfl
    · refine matches_bind Reconcile.matches_settle fun settled settled' h => matches_done ?_
      exact congrArg Except.ok (congrArg (Configured.mk old s prepared) h)

end WebhookRelay
