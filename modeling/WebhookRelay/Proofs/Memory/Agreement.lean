import WebhookRelay.Proofs.Memory.Registry
import Mathlib.Data.List.Basic

/-!
# Worlds that agree

Two worlds may agree on a part of them: on what is stored under some ids, on the hooks for some URLs,
and on what fails (`World.Agree`). The hooks may be looked at through a view that leaves something
out, such as their numbers. What calls do to the hooks for one URL has an equation for each call
(`World.hooksFor`), so that agreement can be followed from call to call without a look at other hooks.
-/

namespace WebhookRelay.Memory.World

open Program

variable {client name r : String} {repo : RepoName} {w v v' : World} {view : Hook → Hook}
  {ids : String → Prop} {urls : Option String → Prop}

/-- The hooks on a repository that report to a URL, or to none. -/
def hooksFor (w : World) (url : Option String) (name r : String) : List Hook :=
  (w.hooksOn name r).filter (·.callbackUrl? = url)

/-- Whether two worlds agree on what is stored under some ids, on the hooks for some URLs as far as
they are looked at, and on what fails. -/
structure Agree (view : Hook → Hook) (ids : String → Prop) (urls : Option String → Prop)
    (w v : World) : Prop where
  store : ∀ id, ids id → w.store.get? id = v.store.get? id
  hooks : ∀ url, urls url → ∀ name r,
    (w.hooksFor url name r).map view = (v.hooksFor url name r).map view
  rooms : w.chat.failing = v.chat.failing
  repos : ∀ name, (w.provider name).failing = (v.provider name).failing

namespace Agree

theorem refl (w : World) : Agree view ids urls w w :=
  ⟨fun _ _ => rfl, fun _ _ _ _ => rfl, rfl, fun _ => rfl⟩

theorem symm (h : Agree view ids urls w v) : Agree view ids urls v w :=
  ⟨fun id hid => (h.store id hid).symm, fun url hu name r => (h.hooks url hu name r).symm,
    h.rooms.symm, fun name => (h.repos name).symm⟩

theorem trans (h : Agree view ids urls w v) (h' : Agree view ids urls v v') :
    Agree view ids urls w v' :=
  ⟨fun id hid => (h.store id hid).trans (h'.store id hid),
    fun url hu name r => (h.hooks url hu name r).trans (h'.hooks url hu name r),
    h.rooms.trans h'.rooms, fun name => (h.repos name).trans (h'.repos name)⟩

/-- Hooks that are the same are so in every respect. -/
theorem of_id (h : Agree id ids urls w v) : Agree view ids urls w v := by
  refine ⟨h.store, fun url hu name r => ?_, h.rooms, h.repos⟩
  have hsame := h.hooks url hu name r
  rw [List.map_id, List.map_id] at hsame
  rw [hsame]

/-- They are the same hooks. -/
theorem hooksFor_eq (h : Agree id ids urls w v) {url : Option String} (hu : urls url) :
    v.hooksFor url name r = w.hooksFor url name r := by
  have hsame := h.hooks url hu name r
  rwa [List.map_id, List.map_id, eq_comm] at hsame

theorem failsAt_iff (h : Agree view ids urls w v) : w.FailsAt name repo ↔ v.FailsAt name repo := by
  rw [FailsAt, FailsAt, h.repos]

end Agree

/-! ## What calls do to it -/

theorem hooksFor_congr {url : Option String} {r' : String}
    (h : Text.asciiLower r = Text.asciiLower r') : w.hooksFor url name r = w.hooksFor url name r' := by
  rw [hooksFor, hooksFor, hooksOn_congr h]

theorem hooksFor_eq_nil_iff {url : Option String} :
    w.hooksFor url name r = [] ↔ ∀ h ∈ w.hooksOn name r, h.callbackUrl? ≠ url := by
  simp [hooksFor, List.filter_eq_nil_iff]

theorem hooksFor_answer {c : Call String} {url : Option String} (hc : c.isCreate = false)
    (hd : c.isDelete = false) : (answer c w).2.hooksFor url name r = w.hooksFor url name r := by
  rw [hooksFor, hooksFor, hooksOn_answer hc hd]

theorem hooksFor_deleteHook {id : UInt64} {url : Option String} :
    (answer (.deleteHook client repo id) w).2.hooksFor url name r =
      if client = name ∧ ¬w.FailsAt client repo ∧ Text.asciiLower r = repo.key then
        (w.hooksFor url name r).filter (·.id ≠ id)
      else w.hooksFor url name r := by
  rw [hooksFor, hooksOn_deleteHook, hooksFor]
  split
  · exact List.filter_comm _ _ _
  · rfl

/-- A provider creates a hook just when the repository does not fail and has none for its URL. -/
theorem accepts_iff {spec : HookSpec} : (w.provider client).Accepts repo spec ↔
    ¬w.FailsAt client repo ∧ w.hooksFor spec.url? client repo.fullName = [] := by
  rw [hooksFor_eq_nil_iff]
  rfl

theorem hooksFor_createHook {spec : HookSpec} {url : Option String} :
    (answer (.createHook client repo spec) w).2.hooksFor url name r =
      if (client = name ∧ Text.asciiLower r = repo.key ∧ spec.url? = url) ∧
          ¬w.FailsAt client repo ∧ w.hooksFor url name r = [] then
        [spec.install (w.provider client).nextId]
      else w.hooksFor url name r := by
  by_cases ha : (w.provider client).Accepts repo spec
  · rw [hooksFor, hooksOn_createHook_of_accepts ha]
    obtain ⟨hup, hfree⟩ := accepts_iff.mp ha
    by_cases hk : client = name ∧ Text.asciiLower r = repo.key
    · obtain ⟨rfl, hk⟩ := hk
      have hsame : w.hooksOn client r = w.hooksOn client repo.fullName := hooksOn_congr hk
      rw [if_pos ⟨rfl, hk⟩, List.filter_append, ← hooksFor]
      by_cases hu : spec.url? = url
      · subst hu
        have hnil : w.hooksFor spec.url? client r = [] := (hooksFor_congr hk).trans hfree
        simp [hk, hup, hnil]
      · simp [hu]
    · rw [if_neg hk, if_neg fun h => hk ⟨h.1.1, h.1.2.1⟩, ← hooksFor]
  · rw [hooksFor, hooksOn_createHook_of_not_accepts ha, ← hooksFor, if_neg]
    rintro ⟨⟨rfl, hk, rfl⟩, hup, hnil⟩
    exact ha (accepts_iff.mpr ⟨hup, (hooksFor_congr hk).symm.trans hnil⟩)

theorem createHook_reply_of_hooksFor {spec : HookSpec} :
    (answer (.createHook client repo spec) w).1 =
      if w.FailsAt client repo then .error (Provider.outage repo)
      else if w.hooksFor spec.url? client repo.fullName = [] then
        .ok (spec.install (w.provider client).nextId)
      else .error Provider.duplicate := by
  rw [createHook_reply]
  by_cases hf : w.FailsAt client repo
  · rw [if_pos hf, if_pos hf]
  · rw [if_neg hf, if_neg hf]
    by_cases hnil : w.hooksFor spec.url? client repo.fullName = []
    · have hfree := hooksFor_eq_nil_iff.mp hnil
      rw [if_pos hnil, if_neg fun ⟨h, hm, hu⟩ => hfree h hm hu]
    · have htaken := mt hooksFor_eq_nil_iff.mpr hnil
      push Not at htaken
      rw [if_neg hnil, if_pos htaken]

/-- Worlds that agree still do so after calls that do the same to their stores and hooks. -/
theorem Agree.answer {c c' : Call String} (h : Agree view ids urls w v)
    (hstore : ∀ id, ids id → (answer c w).2.store.get? id = (answer c' v).2.store.get? id)
    (hhooks : ∀ url, urls url → ∀ name r, ((answer c w).2.hooksFor url name r).map view =
      ((answer c' v).2.hooksFor url name r).map view) :
    Agree view ids urls (answer c w).2 (answer c' v).2 := by
  refine ⟨hstore, hhooks, ?_, fun name => ?_⟩
  · rw [rooms_answer, rooms_answer, h.rooms]
  · rw [failing_answer, failing_answer, h.repos]

/-- A world agrees with what a call leaves of it that does not touch what is looked at. -/
theorem agree_answer {c : Call String}
    (hstore : ∀ id, ids id → (answer c w).2.store.get? id = w.store.get? id)
    (hhooks : ∀ url, urls url → ∀ name r, (answer c w).2.hooksFor url name r = w.hooksFor url name r) :
    Agree view ids urls w (answer c w).2 := by
  refine ⟨fun id hid => (hstore id hid).symm, fun url hu name r => ?_, (rooms_answer c w).symm,
    fun name => (failing_answer c w name).symm⟩
  rw [hhooks url hu name r]

/-- One call does the same to stores. -/
theorem Agree.store_answer (h : Agree view ids urls w v) (c : Call String) (id : String)
    (hid : ids id) : (World.answer c w).2.store.get? id = (World.answer c v).2.store.get? id := by
  rw [World.store_answer, World.store_answer]
  have hsame := h.store id hid
  cases c with
  | save => simp only [Table.get?_insert, hsame]
  | forget => simp only [Table.get?_erase, hsame]
  | _ => exact hsame

/-- Worlds still agree after a call that changes no hooks. -/
theorem Agree.answer_same (h : Agree view ids urls w v) {c : Call String}
    (hc : c.isCreate = false) (hd : c.isDelete = false) :
    Agree view ids urls (World.answer c w).2 (World.answer c v).2 := by
  refine h.answer (h.store_answer c) fun url hu name r => ?_
  rw [hooksFor_answer hc hd, hooksFor_answer hc hd]
  exact h.hooks url hu name r

end WebhookRelay.Memory.World
