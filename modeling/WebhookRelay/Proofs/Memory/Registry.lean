import WebhookRelay.Memory.World
import WebhookRelay.Proofs.Hooks
import WebhookRelay.Proofs.Runs
import Mathlib.Tactic.ByContra

/-!
# What calls do to a registry

A provider in memory is seen through `Provider.hooksOn`, a world through its store and
`World.hooksOn`; the record of calls does not count. Each call has an equation that says what it is
answered with and what it leaves, and nothing further unfolds the calls. Creating adds one hook at
the end of one repository, or nothing; deleting filters the hooks of one repository; every other
call leaves all hooks alone.
-/

namespace WebhookRelay.Memory

/-! ## One provider -/

namespace Provider

variable {p : Provider} {repo : RepoName} {spec : HookSpec} {id : UInt64} {r r' : String}

/-- The provider with one more call on record. -/
def noting (p : Provider) (call : Recorded) : Provider := { p with calls := p.calls ++ [call] }

/-- What calls for a failing repository are answered with. -/
def outage (repo : RepoName) : Failure :=
  .refused 500 s!"Simulated failure for {repo.fullName}" []

/-- Whether a provider creates a hook when it is asked to: the repository does not fail, and no hook
on it reports to the same URL. -/
def Accepts (p : Provider) (repo : RepoName) (spec : HookSpec) : Prop :=
  repo.key ∉ p.failing ∧ ∀ h ∈ p.hooksOn repo.fullName, h.callbackUrl? ≠ spec.url?

@[simp] theorem hooksOn_noting (call : Recorded) : (p.noting call).hooksOn r = p.hooksOn r := rfl

theorem hooksOn_setHooks (p : Provider) (repo r : String) (hooks : List Hook) :
    (p.setHooks repo hooks).hooksOn r =
      if Text.asciiLower r = Text.asciiLower repo then hooks else p.hooksOn r := by
  simp only [hooksOn, setHooks, Table.get?_insert, eq_comm (a := Text.asciiLower repo)]
  split <;> rfl

/-- The hooks on a repository depend on its key only. -/
theorem hooksOn_congr (h : Text.asciiLower r = Text.asciiLower r') :
    p.hooksOn r = p.hooksOn r' := by
  rw [hooksOn, hooksOn, h]

/-! ### The calls -/

theorem list_of_failing (h : repo.key ∈ p.failing) :
    p.list repo = (.error (outage repo), p.noting (.list repo.fullName)) := by
  rw [RepoName.key] at h
  simp only [list, record, if_pos h]
  rfl

theorem list_of_not_failing (h : repo.key ∉ p.failing) :
    p.list repo = (.ok (p.hooksOn repo.fullName), p.noting (.list repo.fullName)) := by
  rw [RepoName.key] at h
  simp only [list, record, if_neg h]
  rfl

theorem create_of_failing (h : repo.key ∈ p.failing) :
    p.create repo spec = (.error (outage repo), p.noting (.create repo.fullName)) := by
  rw [RepoName.key] at h
  simp only [create, record, if_pos h]
  rfl

theorem create_of_taken (h : repo.key ∉ p.failing)
    (ht : ∃ h ∈ p.hooksOn repo.fullName, h.callbackUrl? = spec.url?) :
    p.create repo spec = (.error duplicate, p.noting (.create repo.fullName)) := by
  rw [RepoName.key] at h
  have ht' : ((p.noting (.create repo.fullName)).hooksOn repo.fullName).any
      (fun h => h.callbackUrl? = spec.url?) = true := by
    simpa using ht
  simp only [create, record, if_neg h]
  exact if_pos ht'

theorem create_of_accepts (h : p.Accepts repo spec) :
    p.create repo spec = (.ok (spec.install p.nextId),
      { (p.noting (.create repo.fullName)).setHooks repo.fullName
          (p.hooksOn repo.fullName ++ [spec.install p.nextId]) with nextId := p.nextId + 1 }) := by
  obtain ⟨hf, hn⟩ := h
  rw [RepoName.key] at hf
  have hn' : ¬((p.noting (.create repo.fullName)).hooksOn repo.fullName).any
      (fun h => h.callbackUrl? = spec.url?) = true := by
    simpa using hn
  simp only [create, record, if_neg hf]
  exact if_neg hn'

theorem delete_of_failing (h : repo.key ∈ p.failing) :
    p.delete repo id = (.error (outage repo), p.noting (.delete repo.fullName id)) := by
  rw [RepoName.key] at h
  simp only [delete, record, if_pos h]
  rfl

theorem delete_of_mem (h : repo.key ∉ p.failing) (hm : ∃ h ∈ p.hooksOn repo.fullName, h.id = id) :
    p.delete repo id = (.ok (), (p.noting (.delete repo.fullName id)).setHooks repo.fullName
      ((p.hooksOn repo.fullName).filter (·.id ≠ id))) := by
  rw [RepoName.key] at h
  obtain ⟨x, hx, hid⟩ := hm
  have hlt : ((p.hooksOn repo.fullName).filter (·.id ≠ id)).length <
      (p.hooksOn repo.fullName).length :=
    List.length_filter_lt_length_iff_exists.mpr ⟨x, hx, by simp [hid]⟩
  simp only [delete, record, if_neg h]
  exact if_neg (Nat.ne_of_lt hlt)

theorem delete_of_not_mem (h : repo.key ∉ p.failing)
    (hm : ∀ h ∈ p.hooksOn repo.fullName, h.id ≠ id) :
    p.delete repo id =
      (.error (.refused 404 "Not Found" []), p.noting (.delete repo.fullName id)) := by
  rw [RepoName.key] at h
  have heq : (p.hooksOn repo.fullName).filter (·.id ≠ id) = p.hooksOn repo.fullName :=
    List.filter_eq_self.mpr fun x hx => by simp [hm x hx]
  simp only [delete, record, if_neg h]
  exact if_pos (congrArg List.length heq)

theorem isHookExists_duplicate : duplicate.isHookExists = true := by decide

/-! ### What is left to be seen -/

@[simp] theorem hooksOn_list : (p.list repo).2.hooksOn r = p.hooksOn r := by
  by_cases h : repo.key ∈ p.failing
  · rw [list_of_failing h, hooksOn_noting]
  · rw [list_of_not_failing h, hooksOn_noting]

/-- A repository gains the hook that is created on it, at the end. -/
theorem hooksOn_create_of_accepts (h : p.Accepts repo spec) :
    (p.create repo spec).2.hooksOn r =
      if Text.asciiLower r = repo.key then p.hooksOn r ++ [spec.install p.nextId]
      else p.hooksOn r := by
  rw [create_of_accepts h]
  show ((p.noting (.create repo.fullName)).setHooks repo.fullName _).hooksOn r = _
  rw [hooksOn_setHooks, hooksOn_noting, RepoName.key]
  split
  · next hk => rw [hooksOn_congr hk]
  · rfl

/-- A hook that is not accepted leaves no trace. -/
theorem create_of_not_accepts (h : ¬p.Accepts repo spec) :
    (∃ e, (p.create repo spec).1 = .error e) ∧
      (p.create repo spec).2 = p.noting (.create repo.fullName) := by
  by_cases hf : repo.key ∈ p.failing
  · rw [create_of_failing hf]
    exact ⟨⟨_, rfl⟩, rfl⟩
  · have ht : ∃ h ∈ p.hooksOn repo.fullName, h.callbackUrl? = spec.url? :=
      Classical.byContradiction fun hn => h ⟨hf, fun x hx e => hn ⟨x, hx, e⟩⟩
    rw [create_of_taken hf ht]
    exact ⟨⟨_, rfl⟩, rfl⟩

/-- A repository loses the hooks of the number that is deleted, unless it fails. -/
theorem hooksOn_delete : (p.delete repo id).2.hooksOn r =
    if repo.key ∉ p.failing ∧ Text.asciiLower r = repo.key then (p.hooksOn r).filter (·.id ≠ id)
    else p.hooksOn r := by
  by_cases hf : repo.key ∈ p.failing
  · rw [delete_of_failing hf, hooksOn_noting, if_neg fun h => h.1 hf]
  · by_cases hm : ∃ h ∈ p.hooksOn repo.fullName, h.id = id
    · rw [delete_of_mem hf hm, hooksOn_setHooks, hooksOn_noting, ← RepoName.key]
      by_cases hk : Text.asciiLower r = repo.key
      · have hk' : Text.asciiLower r = Text.asciiLower repo.fullName := hk
        rw [if_pos hk, if_pos ⟨hf, hk⟩, hooksOn_congr hk']
      · rw [if_neg hk, if_neg fun h => hk h.2]
    · have hm' : ∀ h ∈ p.hooksOn repo.fullName, h.id ≠ id := fun x hx e => hm ⟨x, hx, e⟩
      rw [delete_of_not_mem hf hm', hooksOn_noting]
      split
      · next hk =>
        have hk' : Text.asciiLower r = Text.asciiLower repo.fullName := hk.2
        rw [hooksOn_congr hk']
        exact (List.filter_eq_self.mpr fun x hx => by simp [hm' x hx]).symm
      · rfl

@[simp] theorem failing_list : (p.list repo).2.failing = p.failing := by
  by_cases h : repo.key ∈ p.failing
  · rw [list_of_failing h]
    rfl
  · rw [list_of_not_failing h]
    rfl

@[simp] theorem failing_create : (p.create repo spec).2.failing = p.failing := by
  by_cases h : p.Accepts repo spec
  · rw [create_of_accepts h]
    rfl
  · rw [(create_of_not_accepts h).2]
    rfl

@[simp] theorem failing_delete : (p.delete repo id).2.failing = p.failing := by
  by_cases hf : repo.key ∈ p.failing
  · rw [delete_of_failing hf]
    rfl
  · by_cases hm : ∃ h ∈ p.hooksOn repo.fullName, h.id = id
    · rw [delete_of_mem hf hm]
      rfl
    · rw [delete_of_not_mem hf fun x hx e => hm ⟨x, hx, e⟩]
      rfl

end Provider

/-! ## The world -/

namespace World

variable {w : World} {client name r : String} {repo : RepoName} {spec : HookSpec} {id : UInt64}

/-- The hooks on a repository at a provider. -/
def hooksOn (w : World) (name r : String) : List Hook := (w.provider name).hooksOn r

/-- Whether a repository fails at a provider. -/
def FailsAt (w : World) (name : String) (repo : RepoName) : Prop :=
  repo.key ∈ (w.provider name).failing

instance : Decidable (w.FailsAt name repo) :=
  inferInstanceAs (Decidable (repo.key ∈ (w.provider name).failing))

theorem hooksOn_congr {r' : String} (h : Text.asciiLower r = Text.asciiLower r') :
    w.hooksOn name r = w.hooksOn name r' :=
  Provider.hooksOn_congr h

theorem provider_setProvider (p : Provider) :
    (w.setProvider client p).provider name = if client = name then p else w.provider name := by
  simp only [provider, setProvider, Table.get?_insert]
  split <;> rfl

/-- The store is changed by saving and forgetting alone. -/
theorem store_answer (c : Call String) (w : World) :
    (answer c w).2.store =
      match c with
      | .save s => w.store.insert s.id s
      | .forget id => w.store.erase id
      | _ => w.store := by
  cases c <;> rfl

/-- A provider is changed by the calls it gets itself. -/
theorem provider_answer (c : Call String) (w : World) (name : String) :
    (answer c w).2.provider name =
      match c with
      | .listHooks client repo =>
        if client = name then ((w.provider client).list repo).2 else w.provider name
      | .createHook client repo spec =>
        if client = name then ((w.provider client).create repo spec).2 else w.provider name
      | .deleteHook client repo id =>
        if client = name then ((w.provider client).delete repo id).2 else w.provider name
      | _ => w.provider name := by
  cases c with
  | listHooks => exact provider_setProvider _
  | createHook => exact provider_setProvider _
  | deleteHook => exact provider_setProvider _
  | _ => rfl

/-- No call changes which repositories fail. -/
theorem failing_answer (c : Call String) (w : World) (name : String) :
    ((answer c w).2.provider name).failing = (w.provider name).failing := by
  rw [provider_answer]
  cases c with
  | listHooks => dsimp only; split <;> simp_all
  | createHook => dsimp only; split <;> simp_all
  | deleteHook => dsimp only; split <;> simp_all
  | _ => rfl

/-- Nor which rooms do. -/
theorem rooms_answer (c : Call String) (w : World) :
    (answer c w).2.chat.failing = w.chat.failing := by
  cases c with
  | join room =>
    show (w.chat.join room).2.failing = w.chat.failing
    unfold Chat.join
    split <;> rfl
  | send room m =>
    show (w.chat.send room m).2.failing = w.chat.failing
    unfold Chat.send
    split <;> rfl
  | _ => rfl

/-- And no program does. -/
theorem failing_run {α : Type} (p : Program String α) (w : World) (name : String) :
    ((p.run answer w).2.provider name).failing = (w.provider name).failing := by
  induction p generalizing w with
  | done a => rfl
  | call c next ih => exact (ih _ _).trans (failing_answer c w name)

theorem rooms_run {α : Type} (p : Program String α) (w : World) :
    (p.run answer w).2.chat.failing = w.chat.failing := by
  induction p generalizing w with
  | done a => rfl
  | call c next ih => exact (ih _ _).trans (rooms_answer c w)

/-! ### Hooks -/

/-- Hooks are changed by creating and deleting alone. -/
theorem hooksOn_answer {c : Call String} (hc : c.isCreate = false) (hd : c.isDelete = false) :
    (answer c w).2.hooksOn name r = w.hooksOn name r := by
  rw [hooksOn, provider_answer]
  cases c with
  | createHook => cases hc
  | deleteHook => cases hd
  | listHooks client repo =>
    dsimp only
    split
    · next h => rw [Provider.hooksOn_list, h, hooksOn]
    · rfl
  | _ => rfl

theorem hooksOn_createHook_of_accepts (h : (w.provider client).Accepts repo spec) :
    (answer (.createHook client repo spec) w).2.hooksOn name r =
      if client = name ∧ Text.asciiLower r = repo.key then
        w.hooksOn name r ++ [spec.install (w.provider client).nextId]
      else w.hooksOn name r := by
  rw [hooksOn, provider_answer]
  by_cases hn : client = name
  · subst hn
    simp [Provider.hooksOn_create_of_accepts h, hooksOn]
  · simp [hn, hooksOn]

theorem hooksOn_createHook_of_not_accepts (h : ¬(w.provider client).Accepts repo spec) :
    (answer (.createHook client repo spec) w).2.hooksOn name r = w.hooksOn name r := by
  rw [hooksOn, provider_answer]
  by_cases hn : client = name
  · subst hn
    simp [Provider.create_of_not_accepts h, hooksOn]
  · simp [hn, hooksOn]

theorem hooksOn_deleteHook :
    (answer (.deleteHook client repo id) w).2.hooksOn name r =
      if client = name ∧ ¬w.FailsAt client repo ∧ Text.asciiLower r = repo.key then
        (w.hooksOn name r).filter (·.id ≠ id)
      else w.hooksOn name r := by
  rw [hooksOn, provider_answer]
  by_cases hn : client = name
  · subst hn
    simp [Provider.hooksOn_delete, hooksOn, FailsAt]
  · simp [hn, hooksOn]

/-! ### Counting hooks -/

/-- How many hooks on a repository report to a URL. -/
def tally (w : World) (name url r : String) : Nat := (w.hooksOn name r).countP (Hook.reportsTo url)

theorem tally_congr {url r' : String} (h : Text.asciiLower r = Text.asciiLower r') :
    w.tally name url r = w.tally name url r' := by
  rw [tally, tally, hooksOn_congr h]

theorem tally_answer {c : Call String} (hc : c.isCreate = false) (hd : c.isDelete = false)
    (url : String) : (answer c w).2.tally name url r = w.tally name url r := by
  rw [tally, tally, hooksOn_answer hc hd]

theorem tally_eq_zero {url : String} :
    w.tally name url r = 0 ↔ ∀ h ∈ w.hooksOn name r, h.callbackUrl? ≠ some url := by
  simp [tally, List.countP_eq_zero]

theorem tally_pos {url : String} :
    0 < w.tally name url r ↔ ∃ h ∈ w.hooksOn name r, h.callbackUrl? = some url := by
  simp [tally, List.countP_pos_iff]

/-! ### Replies -/

/-- A room is joined just when it takes part. -/
theorem join_reply (room : String) (w : World) :
    (answer (.join room) w).1 = w.chat.admits room := by
  rw [answer, Chat.join]
  rcases w.chat.admits room with e | ⟨⟩
  · rfl
  · rfl

/-- And so is a message sent to it. -/
theorem send_reply (room : String) (m : Message) (w : World) :
    (answer (.send room m) w).1 = w.chat.admits room := by
  rw [answer, Chat.send]
  rcases w.chat.admits room with e | ⟨⟩
  · rfl
  · rfl

theorem listHooks_reply : (answer (.listHooks client repo) w).1 =
    if w.FailsAt client repo then .error (Provider.outage repo)
    else .ok (w.hooksOn client repo.fullName) := by
  show ((w.provider client).list repo).1 = _
  by_cases hf : w.FailsAt client repo
  · rw [if_pos hf, Provider.list_of_failing hf]
  · rw [if_neg hf, Provider.list_of_not_failing hf]
    rfl

theorem deleteHook_reply : (answer (.deleteHook client repo id) w).1 =
    if w.FailsAt client repo then .error (Provider.outage repo)
    else if ∃ h ∈ w.hooksOn client repo.fullName, h.id = id then .ok ()
    else .error (.refused 404 "Not Found" []) := by
  show ((w.provider client).delete repo id).1 = _
  by_cases hf : w.FailsAt client repo
  · rw [if_pos hf, Provider.delete_of_failing hf]
  · rw [if_neg hf]
    by_cases hm : ∃ h ∈ w.hooksOn client repo.fullName, h.id = id
    · rw [if_pos hm, Provider.delete_of_mem hf hm]
    · rw [if_neg hm, Provider.delete_of_not_mem hf fun x hx e => hm ⟨x, hx, e⟩]

/-- A listing that succeeds shows the hooks that are there. -/
theorem listHooks_eq_ok {hooks : List Hook}
    (h : (answer (.listHooks client repo) w).1 = .ok hooks) :
    ¬w.FailsAt client repo ∧ hooks = w.hooksOn client repo.fullName := by
  rw [listHooks_reply] at h
  split at h
  · cases h
  · next hf =>
    cases h
    exact ⟨hf, rfl⟩

theorem createHook_reply : (answer (.createHook client repo spec) w).1 =
    if w.FailsAt client repo then .error (Provider.outage repo)
    else if ∃ h ∈ w.hooksOn client repo.fullName, h.callbackUrl? = spec.url? then
      .error Provider.duplicate
    else .ok (spec.install (w.provider client).nextId) := by
  show ((w.provider client).create repo spec).1 = _
  by_cases hf : w.FailsAt client repo
  · rw [if_pos hf, Provider.create_of_failing hf]
  · rw [if_neg hf]
    by_cases ht : ∃ h ∈ w.hooksOn client repo.fullName, h.callbackUrl? = spec.url?
    · rw [if_pos ht, Provider.create_of_taken hf ht]
    · rw [if_neg ht, Provider.create_of_accepts ⟨hf, fun x hx e => ht ⟨x, hx, e⟩⟩]

/-- Only of a hook that is there a provider says that it is. -/
theorem createHook_eq_exists {e : Failure}
    (h : (answer (.createHook client repo spec) w).1 = .error e) (he : e.isHookExists = true) :
    ∃ x ∈ w.hooksOn client repo.fullName, x.callbackUrl? = spec.url? := by
  rw [createHook_reply] at h
  split at h
  · cases h
    cases he
  · split at h
    · next ht => exact ht
    · cases h

/-- A hook is created just when the provider accepts it. -/
theorem createHook_eq_ok {hook : Hook}
    (h : (answer (.createHook client repo spec) w).1 = .ok hook) :
    (w.provider client).Accepts repo spec := by
  rw [createHook_reply] at h
  split at h
  · cases h
  · next hf =>
    split at h
    · cases h
    · next ht => exact ⟨hf, fun x hx e => ht ⟨x, hx, e⟩⟩

end World

end WebhookRelay.Memory
