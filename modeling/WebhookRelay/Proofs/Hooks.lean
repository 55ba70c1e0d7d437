import WebhookRelay.Hook

/-!
# Whose hook it is

A hook belongs to whoever its callback URL names. The hook that a provider makes of a specification
reports to the URL of the specification (`HookSpec.callbackUrl?_install`), and the specification of
a service names the URL of the service (`Service.url?_hookSpec`). Two hooks that differ in nothing
but the number the provider gave them are equal once the number is taken off (`Hook.unnumbered`).
-/

namespace WebhookRelay

/-! ## Tables made of lists -/

theorem Entries.find?_map {α β : Type} (f : α → β) (key : String) (entries : List (String × α)) :
    Entries.find? key (entries.map fun e => (e.1, f e.2)) = (Entries.find? key entries).map f := by
  induction entries with
  | nil => rfl
  | cons e rest ih =>
    by_cases h : e.1 = key
    · simp [Entries.find?, h]
    · simp [Entries.find?, h, ih]

theorem Entries.find?_eq_none {α : Type} {key : String} {entries : List (String × α)}
    (h : key ∉ entries.map Prod.fst) : Entries.find? key entries = none := by
  induction entries with
  | nil => rfl
  | cons e rest ih =>
    obtain ⟨hne, hrest⟩ := not_or.mp (fun hm => h (List.mem_cons.mpr hm))
    simp [Entries.find?, Ne.symm hne, ih hrest]

/-- Entries that go into a table one by one are found there, before what was there already. -/
theorem Table.get?_foldl_insert {α : Type} {entries : List (String × α)}
    (hn : (entries.map Prod.fst).Nodup) (t : Table α) (key : String) :
    (entries.foldl (fun t e => t.insert e.1 e.2) t).get? key =
      (Entries.find? key entries).or (t.get? key) := by
  induction entries generalizing t with
  | nil => rfl
  | cons e rest ih =>
    obtain ⟨hne, hrest⟩ := List.nodup_cons.mp hn
    rw [List.foldl_cons, ih hrest, Table.get?_insert]
    by_cases h : e.1 = key
    · subst h
      simp [Entries.find?, Entries.find?_eq_none hne]
    · simp [Entries.find?, h]

/-- A table of changed values holds what the table holds, changed. -/
theorem Table.get?_ofList_map {α β : Type} (f : α → β) (t : Table α) (key : String) :
    (Table.ofList (t.entries.map fun e => (e.1, f e.2))).get? key = (t.get? key).map f := by
  have hn : ((t.entries.map fun e => (e.1, f e.2)).map Prod.fst).Nodup := by
    rw [List.map_map]
    exact t.nodup
  rw [Table.ofList, Table.get?_foldl_insert hn, Entries.find?_map, Table.get?_empty, Option.or_none,
    Table.get?]

/-! ## Callback URLs -/

/-- Whether a hook reports to a URL. -/
def Hook.reportsTo (url : String) (h : Hook) : Bool := h.callbackUrl? = some url

@[simp] theorem Hook.reportsTo_iff {url : String} {h : Hook} :
    h.reportsTo url = true ↔ h.callbackUrl? = some url := by
  simp [Hook.reportsTo]

/-- The hook without its number. -/
def Hook.unnumbered (h : Hook) : Hook := { h with id := 0 }

/-- A hook reports to the URL it was asked for with. -/
@[simp] theorem HookSpec.callbackUrl?_install (spec : HookSpec) (id : UInt64) :
    (spec.install id).callbackUrl? = spec.url? := by
  rw [Hook.callbackUrl?, HookSpec.install, Table.get?_ofList_map, HookSpec.url?]
  rcases spec.config.get? "url" with _ | u <;> rfl

@[simp] theorem HookSpec.unnumbered_install (spec : HookSpec) (id : UInt64) :
    (spec.install id).unnumbered = spec.install 0 := rfl

/-- The hook of a service reports to the service. -/
@[simp] theorem Service.url?_hookSpec (s : Service) : s.hookSpec.url? = some s.callbackUrl := by
  have hu : (Table.ofList [("content_type", "json"), ("url", s.callbackUrl)]).get? "url" =
      some s.callbackUrl := by
    simp [Table.ofList]
  rw [HookSpec.url?, Service.hookSpec]
  rcases s.secret with _ | secret
  · exact hu
  · have hne : ¬"secret" = "url" := by decide
    show (Table.insert _ "secret" secret).get? "url" = _
    rw [Table.get?_insert, if_neg hne, hu]

/-! ## Numbers -/

/-- Where no number stands twice, the number of the first hook of a kind takes out that hook. -/
theorem filter_id_ne_of_find? {p : Hook → Bool} {hooks : List Hook} {hook : Hook}
    (hn : (hooks.map (·.id)).Nodup) (hf : hooks.find? p = some hook) :
    hooks.filter (·.id ≠ hook.id) = hooks.eraseP p := by
  induction hooks with
  | nil => cases hf
  | cons x rest ih =>
    rw [List.map_cons, List.nodup_cons, List.mem_map, not_exists] at hn
    obtain ⟨hx, hrest⟩ := hn
    rcases hp : p x with _ | _
    · rw [List.find?_cons_of_neg (by simp [hp])] at hf
      have hne : x.id ≠ hook.id := fun e => hx hook ⟨List.mem_of_find?_eq_some hf, e.symm⟩
      rw [List.eraseP_cons_of_neg (by simp [hp]), List.filter_cons_of_pos (by simp [hne]),
        ih hrest hf]
    · rw [List.find?_cons_of_pos hp] at hf
      obtain rfl : x = hook := Option.some.inj hf
      have hkeep : rest.filter (·.id ≠ x.id) = rest :=
        List.filter_eq_self.mpr fun y hy => by simpa using fun e => hx y ⟨hy, e⟩
      rw [List.eraseP_cons_of_pos hp, List.filter_cons_of_neg (by simp), hkeep]

end WebhookRelay
