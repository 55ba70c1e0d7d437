import WebhookRelay.Proofs.Interleaving
import WebhookRelay.Proofs.Traffic.Company
import WebhookRelay.Proofs.Traffic.Isolation

/-!
# Declarations of different services commute

Declarations of services with different ids and different URLs are under way side by side, one call
of one of them at a time. Each leaves alone what the others depend on
(`Service.Underway.leaves_alone`), so to each the others are company, and what comes of it is what
comes of it in any other company (`Service.runs_company_of_interleaves`); being alone, before or after
the others, is one of them.

They do share things: rooms, repositories, and the count that hooks are numbered by. So hooks get
other numbers, and those for different URLs may stand in another order on a repository; nothing else
depends on who comes first (`Service.configure_commutes`).
-/

namespace WebhookRelay

open Program Memory Memory.World

variable {credentials : Credentials String} {s : Service} {services : List Service}
  {n : String → Nat} {w w₁ w' : World} {ids : String → Prop} {urls : Option String → Prop}
  {view : Hook → Hook}

/-! ## Counting hooks -/

/-- How many hooks have been put on each provider after one more exchange. -/
def counted (n : String → Nat) (x : Exchange String) (name : String) : Nat :=
  n name + (creates name x).toNat

theorem counted_add (x : Exchange String) (log : List (Exchange String)) (name : String) :
    counted n x name + log.countP (creates name) = n name + (x :: log).countP (creates name) := by
  rw [counted, countP_cons_toNat, Nat.add_assoc]

namespace Service

/-! ## A declaration under way -/

/-- What is known of a declaration under way: it makes the calls of a declaration, and what it takes
off by a number it was shown as its own, and is that, or gone. -/
structure Underway {α : Type} (credentials : Credentials String) (s : Service) (n : String → Nat)
    (w : World) (p : Program String α) : Prop where
  makes : p.Makes (Call.Declares credentials s)
  aims : ∃ past, p.Aims s.callbackUrl past ∧ ∀ x ∈ past, ∀ name repo id,
    x.Shows s.callbackUrl name repo id → (w.provider name).Means (n name) s.callbackUrl repo id

theorem underway_configure : s.Underway credentials n w (s.configure credentials) :=
  ⟨makes_configure, [], aims_configure, fun _ hx => nomatch hx⟩

namespace Underway

variable {α : Type} {p : Program String α} {c : Call String} {next : c.Reply → Program String α}

/-- A call of another declaration does not change this. -/
theorem beside (h : s.Underway credentials n w p) (hnum : ∀ name, (w.provider name).Numbered (n name))
    (c : Call String)
    (hn : ∀ name, counted n ⟨c, (answer c w).1⟩ name < UInt64.size) :
    s.Underway credentials (counted n ⟨c, (answer c w).1⟩) (answer c w).2 p := by
  obtain ⟨past, haims, hmeans⟩ := h.aims
  refine ⟨h.makes, past, haims, fun x hx name repo id hs => ?_⟩
  exact (hmeans x hx name repo id hs).of_moves (hnum name) (moves_of_conduct (.met c w) name)
    (hn name)

/-- Nor does a call of its own. -/
theorem after (h : s.Underway credentials n w (.call c next))
    (hnum : ∀ name, (w.provider name).Numbered (n name))
    (hn : ∀ name, counted n ⟨c, (answer c w).1⟩ name < UInt64.size) :
    s.Underway credentials (counted n ⟨c, (answer c w).1⟩) (answer c w).2
      (next (answer c w).1) := by
  obtain ⟨past, haims, hmeans⟩ := h.aims
  refine ⟨h.makes.2 _, past ++ [⟨c, (answer c w).1⟩], haims.2 _, fun x hx name repo id hs => ?_⟩
  have hshown : (w.provider name).Means (n name) s.callbackUrl repo id := by
    rcases List.mem_append.mp hx with hx | hx
    · exact hmeans x hx name repo id hs
    · obtain rfl := List.mem_singleton.mp hx
      exact Traffic.means_of_shows (.met c w) (hnum name) hs
  exact hshown.of_moves (hnum name) (moves_of_conduct (.met c w) name) (hn name)

/-- A declaration under way leaves alone what it is not for. -/
theorem leaves_alone (h : s.Underway credentials n w (.call c next)) (hid : ¬ids s.id)
    (hurl : ¬urls (some s.callbackUrl)) : Agree view ids urls w (answer c w).2 := by
  have hdeclares := h.makes.1
  refine agree_answer (fun id hid' => ?_) fun url hu name r => ?_
  · rw [store_answer]
    cases c with
    | save service =>
      obtain rfl : service = s := hdeclares
      refine (Table.get?_insert _ _ _ _).trans (if_neg ?_)
      rintro rfl
      exact hid hid'
    | forget id' =>
      obtain rfl : id' = s.id := hdeclares
      refine (Table.get?_erase _ _ _).trans (if_neg ?_)
      rintro rfl
      exact hid hid'
    | _ => rfl
  · cases c with
    | createHook client repo spec =>
      obtain ⟨-, -, rfl⟩ := hdeclares
      rw [hooksFor_createHook, if_neg]
      rintro ⟨⟨-, -, rfl⟩, -⟩
      rw [url?_hookSpec] at hu
      exact hurl hu
    | deleteHook client repo id =>
      obtain ⟨past, ⟨⟨x, hx, hs⟩, -⟩, hmeans⟩ := h.aims
      rw [hooksFor_deleteHook]
      split
      · next hk =>
        obtain ⟨rfl, -, hk⟩ := hk
        refine List.filter_eq_self.mpr fun hook hm => ?_
        obtain ⟨hm, hurl'⟩ := List.mem_filter.mp hm
        have hmean := (hmeans x hx client repo id hs).2
        simp only [ne_eq, decide_eq_true_eq] at hurl' ⊢
        intro he
        rw [World.hooksOn_congr hk] at hm
        rw [← hurl', hmean hook hm he] at hu
        exact hurl hu
      · rfl
    | _ => exact hooksFor_answer rfl rfl

end Underway

/-! ## In company -/

/-- What is done in a world may be done in one that is the same to the service. -/
theorem runs_company_of_same {α : Type} {p : Program String α} {trace : List (Exchange String)}
    {a : α} (hsame : SameTo s w w₁) (hr : Runs s.company p w₁ trace a w') :
    ∃ w₂, Runs s.company p w trace a w₂ ∧ SameTo s w₂ w' := by
  cases hr with
  | done a => exact ⟨w, .done a w, hsame⟩
  | call hc hr =>
    obtain ⟨v, hv, hd, ha⟩ := hc
    exact ⟨w', .call ⟨v, hsame.trans hv, hd, ha⟩ hr, .refl w'⟩

/-! ## Side by side -/

/-- What is known of declarations that are under way side by side. -/
structure Abreast {α : Type} (credentials : Credentials String) (services : List Service)
    (n : String → Nat) (w : World) (ps : List (Program String α)) : Prop where
  /-- the providers have numbered their hooks -/
  numbered : ∀ name, (w.provider name).Numbered (n name)
  /-- each program is a declaration of its service -/
  underway : ∀ (i : Nat) (p : Program String α), ps[i]? = some p →
    ∃ s : Service, services[i]? = some s ∧ s.Underway credentials n w p

namespace Abreast

variable {α : Type} {ps : List (Program String α)} {c : Call String} {i : Nat}
  {next : c.Reply → Program String α}

/-- So it is after one of them has made its next call, as long as there are numbers. -/
theorem turn (h : Abreast credentials services n w ps) (hp : ps[i]? = some (.call c next))
    (hn : ∀ name, counted n ⟨c, (answer c w).1⟩ name < UInt64.size) :
    Abreast credentials services (counted n ⟨c, (answer c w).1⟩) (answer c w).2
      (ps.set i (next (answer c w).1)) := by
  refine ⟨fun name => ?_, fun j p hj => ?_⟩
  · exact (h.numbered name).of_moves (moves_of_conduct (.met c w) name) (hn name)
  · rw [List.getElem?_set] at hj
    split at hj
    · next hij =>
      subst hij
      split at hj
      · cases hj
        obtain ⟨s, hs, hunderway⟩ := h.underway i _ hp
        exact ⟨s, hs, hunderway.after h.numbered hn⟩
      · cases hj
    · obtain ⟨s, hs, hunderway⟩ := h.underway j p hj
      exact ⟨s, hs, hunderway.beside h.numbered c hn⟩

end Abreast

/-- The services have different ids and different URLs. -/
structure Apart (services : List Service) : Prop where
  ids : (services.map (·.id)).Nodup
  urls : (services.map (·.callbackUrl)).Nodup

theorem ne_of_nodup_map {β : Type} {f : Service → β} {i j : Nat} {t : Service}
    (h : (services.map f).Nodup) (hs : services[i]? = some s) (ht : services[j]? = some t)
    (hij : i ≠ j) : f s ≠ f t := by
  intro he
  obtain ⟨hi, -⟩ := List.getElem?_eq_some_iff.mp hs
  refine hij ((List.getElem?_inj (by rwa [List.length_map]) h).mp ?_)
  rw [List.getElem?_map, List.getElem?_map, hs, ht, Option.map_some, Option.map_some, he]

theorem Apart.ne {i j : Nat} {t : Service} (h : Apart services) (hs : services[i]? = some s)
    (ht : services[j]? = some t) (hij : i ≠ j) : s.id ≠ t.id ∧ s.callbackUrl ≠ t.callbackUrl :=
  ⟨ne_of_nodup_map h.ids hs ht hij, ne_of_nodup_map h.urls hs ht hij⟩

theorem Apart.perm {order : List Service} (h : Apart services) (hp : order.Perm services) :
    Apart order :=
  ⟨(hp.map _).nodup_iff.mpr h.ids, (hp.map _).nodup_iff.mpr h.urls⟩

/-- **Others are company.** What comes of each of the declarations that are run side by side may come
of it in company, and what none of them is for is left alone. -/
theorem runs_company_of_interleaves {α : Type} {ps qs : List (Program String α)}
    {log : List (Exchange String)} (hapart : Apart services)
    (hi : Interleaves answer ps w log qs w') (h : Abreast credentials services n w ps)
    (hn : ∀ name, n name + log.countP (creates name) < UInt64.size) :
    (∀ (i : Nat) (s : Service) (p : Program String α) (a : α), services[i]? = some s →
      ps[i]? = some p → qs[i]? = some (.done a) →
      ∃ trace w₁, Runs s.company p w trace a w₁ ∧ SameTo s w₁ w') ∧
    ∀ (view : Hook → Hook) (ids : String → Prop) (urls : Option String → Prop),
      (∀ s ∈ services, ¬ids s.id ∧ ¬urls (some s.callbackUrl)) → Agree view ids urls w w' := by
  induction hi generalizing n with
  | rest ps w =>
    refine ⟨fun i s p a _ hp hq => ?_, fun _ _ _ _ => .refl w⟩
    obtain rfl := Option.some.inj (hp.symm.trans hq)
    exact ⟨[], w, .done a w, .refl w⟩
  | @turn i c next ps qs w w' log hp _ ih =>
    obtain ⟨s, hs, hunderway⟩ := h.underway i _ hp
    have hn₁ : ∀ name, counted n ⟨c, (answer c w).1⟩ name + log.countP (creates name) <
        UInt64.size := fun name => (counted_add _ log name).symm ▸ hn name
    obtain ⟨heach, hnone⟩ := ih
      (h.turn hp fun name => Nat.lt_of_le_of_lt (Nat.le_add_right _ _) (hn₁ name)) hn₁
    constructor
    · intro j t p a ht hp' hq
      by_cases hij : i = j
      · -- the call is one of its own
        subst hij
        obtain rfl := Option.some.inj (hs.symm.trans ht)
        obtain rfl := Option.some.inj (hp.symm.trans hp')
        obtain ⟨hlt, -⟩ := List.getElem?_eq_some_iff.mp hp
        obtain ⟨trace, w₁, hr, hsame⟩ := heach i s _ a hs (List.getElem?_set_self hlt) hq
        refine ⟨_, w₁, .call ⟨w, .refl w, fun name => (h.numbered name).distinct, rfl⟩ hr, hsame⟩
      · obtain ⟨hid, hurl⟩ := hapart.ne hs ht hij
        have hleft : SameTo t w (answer c w).2 :=
          hunderway.leaves_alone hid fun e => hurl (Option.some.inj e)
        obtain ⟨trace, w₁, hr, hsame⟩ :=
          heach j t p a ht ((List.getElem?_set_ne hij).trans hp') hq
        obtain ⟨w₂, hr, hsame₂⟩ := runs_company_of_same hleft hr
        exact ⟨trace, w₂, hr, hsame₂.trans hsame⟩
    · intro view ids urls hforeign
      obtain ⟨hid, hurl⟩ := hforeign s (List.mem_of_getElem? hs)
      exact (hunderway.leaves_alone hid hurl).trans (hnone view ids urls hforeign)

/-! ## Any order -/

variable {order : List Service} {outcomes results : List (Except Failure Configured)}
  {log log₁ log₂ : List (Exchange String)} {w₂ : World}

theorem abreast_configure (hmade : ∀ name, (w.provider name).Made (n name))
    (hn : ∀ name, n name < UInt64.size) :
    Abreast credentials services n w (services.map (·.configure credentials)) := by
  refine ⟨fun name => (hmade name).numbered (hn name), fun i p hp => ?_⟩
  rw [List.getElem?_map, Option.map_eq_some_iff] at hp
  obtain ⟨s, hs, rfl⟩ := hp
  exact ⟨s, hs, underway_configure⟩

/-- What has become of declarations that were run side by side until all had ended. -/
structure Ended (credentials : Credentials String) (services : List Service)
    (outcomes : List (Except Failure Configured)) (w w' : World) : Prop where
  /-- each has an outcome -/
  length_eq : outcomes.length = services.length
  /-- it may come of the declaration in company -/
  company : ∀ s a, (s, a) ∈ services.zip outcomes →
    ∃ trace w₁, Runs s.company (s.configure credentials) w trace a w₁ ∧ SameTo s w₁ w'
  /-- what none of them is for is left alone -/
  others : ∀ (view : Hook → Hook) (ids : String → Prop) (urls : Option String → Prop),
    (∀ s ∈ services, ¬ids s.id ∧ ¬urls (some s.callbackUrl)) → Agree view ids urls w w'

theorem ended_of_interleaves (hapart : Apart services)
    (hmade : ∀ name, (w.provider name).Made (n name))
    (hi : Interleaves answer (services.map (·.configure credentials)) w log (outcomes.map .done) w')
    (hn : ∀ name, n name + log.countP (creates name) < UInt64.size) :
    Ended credentials services outcomes w w' := by
  have h : Abreast credentials services n w (services.map (·.configure credentials)) :=
    abreast_configure hmade fun name => Nat.lt_of_le_of_lt (Nat.le_add_right _ _) (hn name)
  obtain ⟨heach, hnone⟩ := runs_company_of_interleaves hapart hi h hn
  refine ⟨?_, fun s a hm => ?_, hnone⟩
  · have hlen := hi.length_eq
    rwa [List.length_map, List.length_map] at hlen
  · obtain ⟨i, hz⟩ := List.mem_iff_getElem?.mp hm
    obtain ⟨hs, ha⟩ := List.getElem?_zip_eq_some.mp hz
    refine heach i s _ a hs ?_ ?_
    · rw [List.getElem?_map, hs, Option.map_some]
    · rw [List.getElem?_map, ha, Option.map_some]

namespace Ended

theorem exists_outcome (h : Ended credentials services outcomes w w') (hs : s ∈ services) :
    ∃ a, (s, a) ∈ services.zip outcomes := by
  obtain ⟨i, hi, rfl⟩ := List.mem_iff_getElem.mp hs
  exact ⟨_, List.mem_iff_getElem.mpr ⟨i, by simp [h.length_eq, hi], List.getElem_zip⟩⟩

/-- Two ways of doing the same are alike to each of the services, in what it was told and in what it
finds. -/
theorem alike (h₁ : Ended credentials services outcomes w w₁)
    (h₂ : Ended credentials order results w w₂) {a b : Except Failure Configured}
    (ha : (s, a) ∈ services.zip outcomes) (hb : (s, b) ∈ order.zip results) :
    a.map Configured.unnumbered = b.map Configured.unnumbered ∧ AlikeTo s w₁ w₂ := by
  obtain ⟨_, v₁, hr₁, hs₁⟩ := h₁.company s a ha
  obtain ⟨_, v₂, hr₂, hs₂⟩ := h₂.company s b hb
  obtain ⟨hab, hv⟩ := s.matches_configure credentials (.refl w) hr₁ hr₂
  exact ⟨hab, hs₁.of_id.symm.trans (hv.trans hs₂.of_id)⟩

/-- So they are alike in all. -/
theorem agree (h₁ : Ended credentials services outcomes w w₁)
    (h₂ : Ended credentials order results w w₂) (hperm : order.Perm services) :
    Agree Hook.unnumbered (fun _ => True) (fun _ => True) w₁ w₂ := by
  have halike : ∀ s ∈ services, AlikeTo s w₁ w₂ := by
    intro s hs
    obtain ⟨a, ha⟩ := h₁.exists_outcome hs
    obtain ⟨b, hb⟩ := h₂.exists_outcome (hperm.mem_iff.mpr hs)
    exact (h₁.alike h₂ ha hb).2
  have hothers : ∀ (ids : String → Prop) (urls : Option String → Prop),
      (∀ s ∈ services, ¬ids s.id ∧ ¬urls (some s.callbackUrl)) →
        Agree Hook.unnumbered ids urls w₁ w₂ := by
    intro ids urls hforeign
    have hw₁ := h₁.others Hook.unnumbered ids urls hforeign
    have hw₂ := h₂.others Hook.unnumbered ids urls fun s hs => hforeign s (hperm.mem_iff.mp hs)
    exact hw₁.symm.trans hw₂
  have hnothing := hothers (fun _ => False) (fun _ => False) fun s _ => ⟨fun h => h, fun h => h⟩
  refine ⟨fun id _ => ?_, fun url _ => ?_, hnothing.rooms, hnothing.repos⟩
  · by_cases hid : ∃ s ∈ services, s.id = id
    · obtain ⟨s, hs, rfl⟩ := hid
      exact (halike s hs).store s.id rfl
    · refine (hothers (· = id) (fun _ => False) fun s hs => ⟨?_, fun h => h⟩).store id rfl
      rintro rfl
      exact hid ⟨s, hs, rfl⟩
  · by_cases hurl : ∃ s ∈ services, some s.callbackUrl = url
    · obtain ⟨s, hs, rfl⟩ := hurl
      exact (halike s hs).hooks _ rfl
    · refine (hothers (fun _ => False) (· = url) fun s hs => ⟨fun h => h, ?_⟩).hooks url rfl
      rintro rfl
      exact hurl ⟨s, hs, rfl⟩

end Ended

/-- **Declarations of different services commute.** Services have different ids and different URLs,
and the providers have come about in any way, with fewer than 2 ^ 64 hooks put on any of them in all.
The services are declared side by side, one call of one of them at a time, in any order, until all
have ended; or they are declared one after the other, in any order. Then each declaration has the
same outcome both ways, numbers of hooks aside; the same is stored in the end, and on every
repository the hooks for each URL are the same and in the same order, numbers aside. -/
theorem configure_commutes (hids : (services.map (·.id)).Nodup)
    (hurls : (services.map (·.callbackUrl)).Nodup) (hperm : order.Perm services)
    (hmade : ∀ name, (w.provider name).Made (n name))
    (hside : Interleaves answer (services.map (·.configure credentials)) w log₁
      (outcomes.map .done) w₁)
    (hturn : Runs (Handler.conduct answer) (inOrder (order.map (·.configure credentials))) w log₂
      results w₂)
    (hn₁ : ∀ name, n name + log₁.countP (creates name) < UInt64.size)
    (hn₂ : ∀ name, n name + log₂.countP (creates name) < UInt64.size) :
    outcomes.length = services.length ∧ results.length = order.length ∧
      (∀ s a b, (s, a) ∈ services.zip outcomes → (s, b) ∈ order.zip results →
        a.map Configured.unnumbered = b.map Configured.unnumbered) ∧
      (∀ id, w₁.store.get? id = w₂.store.get? id) ∧
      ∀ name r url, ((w₁.hooksOn name r).filter (·.callbackUrl? = url)).map Hook.unnumbered =
        ((w₂.hooksOn name r).filter (·.callbackUrl? = url)).map Hook.unnumbered := by
  have hapart : Apart services := ⟨hids, hurls⟩
  have h₁ := ended_of_interleaves hapart hmade hside hn₁
  have h₂ := ended_of_interleaves (hapart.perm hperm) hmade (interleaves_inOrder hturn) hn₂
  have hagree := h₁.agree h₂ hperm
  refine ⟨h₁.length_eq, h₂.length_eq, fun s a b ha hb => (h₁.alike h₂ ha hb).1, ?_, ?_⟩
  · exact fun id => hagree.store id trivial
  · exact fun name r url => hagree.hooks url trivial name r

/-- A world in which one repository fails. -/
def faltering : World := ({} : World).setProvider "main" (({} : Provider).fail "acme/b")

/-- Two services that share a repository; one of them also needs the one that fails. -/
def sharing : List Service := [watching "one" "u" ["acme/a", "acme/b"], watching "two" "v" ["acme/a"]]

/-- Whether they take turns or the second goes first, they have the same outcomes, and the same is
stored in the end. -/
theorem configure_commutes_sharing : ∃ log outcomes results w₁ w₂,
    Interleaves answer (sharing.map (·.configure soleUser)) faltering log (outcomes.map .done) w₁ ∧
      (inOrder (sharing.reverse.map (·.configure soleUser))).run answer faltering = (results, w₂) ∧
      (∀ s a b, (s, a) ∈ sharing.zip outcomes → (s, b) ∈ sharing.reverse.zip results →
        a.map Configured.unnumbered = b.map Configured.unnumbered) ∧
      ∀ id, w₁.store.get? id = w₂.store.get? id := by
  obtain ⟨log, hside, hlen⟩ := interleaves_interleave answer [0, 1, 0, 1, 0, 1, 1]
    (sharing.map (·.configure soleUser)) faltering
  have hdone : (interleave answer [0, 1, 0, 1, 0, 1, 1] (sharing.map (·.configure soleUser))
      faltering).1.all isDone = true := by decide +kernel
  obtain ⟨outcomes, he⟩ := exists_eq_map_done hdone
  rw [he] at hside
  have hturn := runs_run answer (inOrder (sharing.reverse.map (·.configure soleUser))) faltering
  have hlen₂ : ((inOrder (sharing.reverse.map (·.configure soleUser))).exchanges answer
      faltering).length ≤ 10 := by decide +kernel
  have hmade : ∀ name, (faltering.provider name).Made 0 := by
    intro name
    rw [faltering, World.provider_setProvider]
    split
    · exact .broken .fresh _
    · exact .fresh
  have hsize : 10 < UInt64.size := by decide
  have hbound : ∀ (log : List (Exchange String)), log.length ≤ 10 → ∀ name,
      0 + log.countP (creates name) < UInt64.size := by
    intro log hlog name
    have hcount := List.countP_le_length (p := creates name) (l := log)
    omega
  obtain ⟨-, -, houtcome, hstore, -⟩ := configure_commutes (by decide) (by decide)
    (List.reverse_perm _) hmade hside hturn (hbound _ (Nat.le_trans hlen (by decide)))
    (hbound _ hlen₂)
  exact ⟨log, outcomes, _, _, _, hside, rfl, houtcome, hstore⟩

end Service

end WebhookRelay
