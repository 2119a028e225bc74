import StateHolders.Proofs.Registry.Resolution
import StateHolders.Session

/-!
# What a session calls and replies

A session calls one supplier for each request that an entry serves, and none otherwise. So the
calls of a binding are counted by the requests that select it, and the reply to a request depends
on the earlier requests only through the number of those that select the same binding. Two
adjacent requests that select different bindings can therefore change places.
-/

namespace StateHolders

/-! ## The binding that a request selects -/

namespace Registry

/-- The name of the entry that serves a request. -/
def servingName? (r : Registry) (d : Descriptor) : Option String :=
  (r.lookup d).map fun served => served.1.name

/-- The position of the entry that serves a request. -/
def position? (r : Registry) (d : Descriptor) : Option Nat :=
  (r.servingName? d).bind r.index.get?

/-- How many of the requests select the binding at a position. -/
def timesSelected (r : Registry) (requests : List Descriptor) (position : Nat) : Nat :=
  requests.countP fun d => r.position? d == some position

variable {r : Registry}

theorem servingName?_eq_some_iff (r : Registry) (d : Descriptor) (name : String) :
    r.servingName? d = some name ↔ ∃ e m, r.lookup d = some (e, m) ∧ e.name = name := by
  rw [servingName?, Option.map_eq_some_iff]
  constructor
  · rintro ⟨⟨e, m⟩, hl, hname⟩
    exact ⟨e, m, hl, hname⟩
  · rintro ⟨e, m, hl, hname⟩
    exact ⟨(e, m), hl, hname⟩

namespace Sound

/-- What serves a request is an entry. -/
theorem mem_of_lookup (h : r.Sound) {d : Descriptor} {e : Entry} {m : Match}
    (hl : r.lookup d = some (e, m)) : e ∈ r.entries := by
  cases m with
  | exact => exact ((h.lookup_eq_exact_iff d e).mp hl).1
  | broader =>
    obtain ⟨-, before, after, hsplit, -⟩ := (h.lookup_eq_broader_iff_ancestor d e).mp hl
    rw [hsplit]
    simp

/-- The position of a request is the one of the entry that serves it. -/
theorem position?_eq_some_iff (h : r.Sound) (d : Descriptor) (position : Nat) :
    r.position? d = some position ↔
      ∃ e m, r.entries[position]? = some e ∧ r.lookup d = some (e, m) := by
  rw [position?, Option.bind_eq_some_iff]
  constructor
  · rintro ⟨name, hs, hp⟩
    obtain ⟨e, m, hl, hname⟩ := (r.servingName?_eq_some_iff d name).mp hs
    obtain ⟨f, hf, hfname⟩ := (h.get?_index_iff name position).mp hp
    have hef : e = f :=
      h.eq_of_name_eq (h.mem_of_lookup hl) (List.mem_of_getElem? hf) (hname.trans hfname.symm)
    exact ⟨e, m, hef ▸ hf, hl⟩
  · rintro ⟨e, m, he, hl⟩
    exact ⟨e.name, (r.servingName?_eq_some_iff d e.name).mpr ⟨e, m, hl, rfl⟩,
      (h.get?_index_iff e.name position).mpr ⟨e, he, rfl⟩⟩

theorem position?_eq_none_iff (h : r.Sound) (d : Descriptor) :
    r.position? d = none ↔ r.lookup d = none := by
  constructor
  · intro hp
    cases hl : r.lookup d with
    | none => rfl
    | some served =>
      obtain ⟨e, m⟩ := served
      obtain ⟨position, he⟩ := List.mem_iff_getElem?.mp (h.mem_of_lookup hl)
      rw [(h.position?_eq_some_iff d position).mpr ⟨e, m, he, hl⟩] at hp
      cases hp
  · intro hl
    rw [position?, servingName?, hl]
    rfl

/-- A request selects a position exactly if the entry there serves it by its name. -/
theorem position?_eq_iff_servingName? (h : r.Sound) {position : Nat} {e : Entry}
    (he : r.entries[position]? = some e) (d : Descriptor) :
    r.position? d = some position ↔ r.servingName? d = some e.name := by
  rw [h.position?_eq_some_iff, servingName?_eq_some_iff]
  constructor
  · rintro ⟨f, m, hf, hl⟩
    rw [he] at hf
    exact ⟨f, m, hl, by rw [Option.some.inj hf]⟩
  · rintro ⟨f, m, hl, hname⟩
    have hfe := h.eq_of_name_eq (h.mem_of_lookup hl) (List.mem_of_getElem? he) hname
    exact ⟨f, m, hfe ▸ he, hl⟩

/-- The requests that select a position are those that its entry serves by its name. -/
theorem timesSelected_eq_countP (h : r.Sound) {position : Nat} {e : Entry}
    (he : r.entries[position]? = some e) (requests : List Descriptor) :
    r.timesSelected requests position =
      requests.countP fun d => r.servingName? d == some e.name := by
  refine List.countP_congr fun d _ => ?_
  rw [beq_iff_eq, beq_iff_eq]
  exact h.position?_eq_iff_servingName? he d

/-- Requests that select different positions are served under different names. -/
theorem servingName?_ne_of_position?_ne (h : r.Sound) {a b : Descriptor}
    (hne : ∀ position, r.position? a = some position → r.position? b ≠ some position)
    (name : String) (ha : r.servingName? a = some name) : r.servingName? b ≠ some name := by
  intro hb
  obtain ⟨e, m, hl, rfl⟩ := (r.servingName?_eq_some_iff a name).mp ha
  obtain ⟨position, he⟩ := List.mem_iff_getElem?.mp (h.mem_of_lookup hl)
  exact hne position ((h.position?_eq_iff_servingName? he a).mpr ha)
    ((h.position?_eq_iff_servingName? he b).mpr hb)

end Sound

/-! ## One request -/

/-- A request fails in one of two ways: nothing serves it, or the supplier that serves it fails. -/
theorem error_of_create {r : Registry} {calls : Calls} {d : Descriptor} {error : Error}
    (h : (r.create calls d).result = .error error) :
    (r.lookup d = none ∧ error = .unknownHolder d.name) ∨
    ∃ e m n cause, r.lookup d = some (e, m) ∧ e.supplier.outcome n = .error cause ∧
      error = .creation d.name cause := by
  cases hl : r.lookup d with
  | none =>
    rw [(create_of_lookup_eq_none hl calls).1] at h
    exact Or.inl ⟨rfl, (Except.error.inj h).symm⟩
  | some served =>
    obtain ⟨e, m⟩ := served
    rw [(create_of_lookup_eq_some hl calls).1] at h
    cases ho : e.supplier.outcome (calls.count e.name) with
    | ok holder =>
      rw [ho] at h
      cases h
    | error cause =>
      rw [ho] at h
      exact Or.inr ⟨e, m, _, cause, rfl, ho, (Except.error.inj h).symm⟩

/-- A request adds one call to the binding that serves it, and none to the others. -/
theorem count_create (r : Registry) (calls : Calls) (d : Descriptor) (name : String) :
    (r.create calls d).calls.count name =
      calls.count name + if r.servingName? d = some name then 1 else 0 := by
  cases hl : r.lookup d with
  | none =>
    rw [(create_of_lookup_eq_none hl calls).2, servingName?, hl]
    simp
  | some served =>
    obtain ⟨e, m⟩ := served
    rw [(create_of_lookup_eq_some hl calls).2, Calls.count_record, servingName?, hl]
    simp

theorem total_create (r : Registry) (calls : Calls) (d : Descriptor) :
    (r.create calls d).calls.total = calls.total + if (r.lookup d).isSome then 1 else 0 := by
  cases hl : r.lookup d with
  | none => rw [(create_of_lookup_eq_none hl calls).2]; simp
  | some served =>
    obtain ⟨e, m⟩ := served
    rw [(create_of_lookup_eq_some hl calls).2, Calls.total_record]
    simp

/-- The reply to a request depends on the calls only through those of the binding that serves
it. -/
theorem result_create_congr (r : Registry) {calls calls' : Calls} (d : Descriptor)
    (h : ∀ name, r.servingName? d = some name → calls.count name = calls'.count name) :
    (r.create calls d).result = (r.create calls' d).result := by
  cases hl : r.lookup d with
  | none =>
    rw [(create_of_lookup_eq_none hl calls).1, (create_of_lookup_eq_none hl calls').1]
  | some served =>
    obtain ⟨e, m⟩ := served
    have hcount := h e.name ((r.servingName?_eq_some_iff d e.name).mpr ⟨e, m, hl, rfl⟩)
    rw [(create_of_lookup_eq_some hl calls).1, (create_of_lookup_eq_some hl calls').1, hcount]

end Registry

/-! ## Runs -/

namespace Session

open Demand (requests)

/-- Two sessions with one registry, in which every binding was called equally often. -/
structure Agree (s t : Session) : Prop where
  /-- The registry is the same. -/
  registry : s.registry = t.registry
  /-- The calls of every binding are equal in number. -/
  count : ∀ name, s.calls.count name = t.calls.count name

theorem registry_step (s : Session) (demand : Demand) :
    (s.step demand).1.registry = s.registry := by
  cases demand with
  | create d => rfl
  | ask q => rfl

/-- No demand changes the registry. -/
theorem registry_run (s : Session) (demands : List Demand) :
    (s.run demands).1.registry = s.registry := by
  induction demands generalizing s with
  | nil => rfl
  | cons demand rest ih =>
    rw [run_cons, ih, registry_step]

/-- Every demand has its reply. -/
theorem length_run (s : Session) (demands : List Demand) :
    (s.run demands).2.length = demands.length := by
  induction demands generalizing s with
  | nil => rfl
  | cons demand rest ih =>
    rw [run_cons, List.length_cons, ih, List.length_cons]

/-- A run can be interrupted anywhere. -/
theorem run_append (s : Session) (before after : List Demand) :
    s.run (before ++ after) =
      (((s.run before).1.run after).1, (s.run before).2 ++ ((s.run before).1.run after).2) := by
  induction before generalizing s with
  | nil => rfl
  | cons demand rest ih =>
    rw [List.cons_append, run_cons, run_cons, ih]
    rfl

/-- The reply to a demand is the one that the session gives after the demands before. -/
theorem reply_run (s : Session) (before : List Demand) (demand : Demand) (after : List Demand) :
    (s.run (before ++ demand :: after)).2[before.length]? =
      some ((s.run before).1.step demand).2 := by
  rw [run_append, List.getElem?_append_right (Nat.le_of_eq (length_run s before)), length_run,
    Nat.sub_self]
  rfl

theorem requests_cons (demand : Demand) (rest : List Demand) :
    requests (demand :: rest) = requests [demand] ++ requests rest := by
  cases demand with
  | create d => rfl
  | ask q => rfl

/-- A demand adds a call to the binding that serves it, if it is a request, and no other. -/
theorem count_step (s : Session) (demand : Demand) (name : String) :
    (s.step demand).1.calls.count name = s.calls.count name +
      (requests [demand]).countP fun d => s.registry.servingName? d == some name := by
  cases demand with
  | create d =>
    have hcreate := s.registry.count_create s.calls d name
    by_cases hs : s.registry.servingName? d = some name
    · simpa [step, requests, hs] using hcreate
    · simpa [step, requests, hs] using hcreate
  | ask q => rfl

/-- After a run the calls of a binding have grown by the requests that its entry serves. -/
theorem count_run (s : Session) (demands : List Demand) (name : String) :
    (s.run demands).1.calls.count name = s.calls.count name +
      (requests demands).countP fun d => s.registry.servingName? d == some name := by
  induction demands generalizing s with
  | nil => rfl
  | cons demand rest ih =>
    rw [run_cons, ih, registry_step, count_step, requests_cons demand rest, List.countP_append,
      Nat.add_assoc]

theorem total_step (s : Session) (demand : Demand) :
    (s.step demand).1.calls.total = s.calls.total +
      (requests [demand]).countP fun d => (s.registry.lookup d).isSome := by
  cases demand with
  | create d =>
    have hcreate := s.registry.total_create s.calls d
    by_cases hs : (s.registry.lookup d).isSome = true
    · simpa [step, requests, hs] using hcreate
    · simpa [step, requests, hs] using hcreate
  | ask q => rfl

/-- After a run all calls together have grown by the requests that are served. -/
theorem total_run (s : Session) (demands : List Demand) :
    (s.run demands).1.calls.total = s.calls.total +
      (requests demands).countP fun d => (s.registry.lookup d).isSome := by
  induction demands generalizing s with
  | nil => rfl
  | cons demand rest ih =>
    rw [run_cons, ih, registry_step, total_step, requests_cons demand rest, List.countP_append,
      Nat.add_assoc]

/-- An error among the replies belongs to one of the requests. -/
theorem error_of_mem_run (s : Session) (demands : List Demand) {error : Error}
    (h : .created (.error error) ∈ (s.run demands).2) :
    ∃ d ∈ requests demands,
      (s.registry.lookup d = none ∧ error = .unknownHolder d.name) ∨
      ∃ e m n cause, s.registry.lookup d = some (e, m) ∧ e.supplier.outcome n = .error cause ∧
        error = .creation d.name cause := by
  induction demands generalizing s with
  | nil => cases h
  | cons demand rest ih =>
    rw [run_cons, List.mem_cons] at h
    rcases h with hfirst | hrest
    · cases demand with
      | create d =>
        have hresult : (s.registry.create s.calls d).result = .error error :=
          (Reply.created.inj hfirst).symm
        exact ⟨d, List.mem_cons_self, Registry.error_of_create hresult⟩
      | ask q => cases hfirst
    · obtain ⟨d, hd, herror⟩ := ih (s.step demand).1 hrest
      rw [registry_step] at herror
      refine ⟨d, ?_, herror⟩
      cases demand with
      | create first => exact List.mem_cons_of_mem first hd
      | ask q => exact hd

/-! ## Sessions that agree -/

/-- The reply to a request is the same in sessions with one registry in which the binding that
serves it was called equally often. -/
theorem reply_create_congr {s t : Session} (hr : s.registry = t.registry) {d : Descriptor}
    (h : ∀ name, s.registry.servingName? d = some name →
      s.calls.count name = t.calls.count name) :
    (s.step (.create d)).2 = (t.step (.create d)).2 := by
  rw [step, step, ← hr, s.registry.result_create_congr d h]

/-- Sessions that agree reply alike to a demand, and still agree. -/
theorem Agree.step {s t : Session} (h : Agree s t) (demand : Demand) :
    (s.step demand).2 = (t.step demand).2 ∧ Agree (s.step demand).1 (t.step demand).1 := by
  refine ⟨?_, ?_, fun name => ?_⟩
  · cases demand with
    | create d => exact reply_create_congr h.registry fun name _ => h.count name
    | ask q => rw [Session.step, Session.step, h.registry]
  · rw [registry_step, registry_step, h.registry]
  · rw [count_step, count_step, h.registry, h.count]

/-- Sessions that agree give the same replies in a run, and still agree after it. -/
theorem Agree.run {s t : Session} (h : Agree s t) (demands : List Demand) :
    (s.run demands).2 = (t.run demands).2 ∧ Agree (s.run demands).1 (t.run demands).1 := by
  induction demands generalizing s t with
  | nil => exact ⟨rfl, h⟩
  | cons demand rest ih =>
    obtain ⟨hreply, hstep⟩ := h.step demand
    obtain ⟨hreplies, hrun⟩ := ih hstep
    rw [run_cons, run_cons, hreply, hreplies]
    exact ⟨rfl, hrun⟩

/-- A request leaves the calls of a binding that does not serve it as they are. -/
theorem count_step_create_of_ne (s : Session) {d : Descriptor} {name : String}
    (h : s.registry.servingName? d ≠ some name) :
    (s.step (.create d)).1.calls.count name = s.calls.count name := by
  rw [count_step]
  simp [requests, h]

/-- Two requests that different bindings serve can change places: each has its own reply, and the
sessions after them agree. -/
theorem step_create_comm (s : Session) {a b : Descriptor}
    (h : ∀ name, s.registry.servingName? a = some name → s.registry.servingName? b ≠ some name) :
    ((s.step (.create b)).1.step (.create a)).2 = (s.step (.create a)).2 ∧
    ((s.step (.create a)).1.step (.create b)).2 = (s.step (.create b)).2 ∧
    Agree ((s.step (.create b)).1.step (.create a)).1
      ((s.step (.create a)).1.step (.create b)).1 := by
  refine ⟨?_, ?_, rfl, fun name => ?_⟩
  · exact reply_create_congr (registry_step s _) fun name ha =>
      s.count_step_create_of_ne (h name ha)
  · exact reply_create_congr (registry_step s _) fun name hb =>
      s.count_step_create_of_ne fun ha => h name ha hb
  · rw [count_step, count_step, count_step, count_step, registry_step, registry_step]
    omega

/-- In a run, too, two adjacent requests that different bindings serve can change places. -/
theorem run_swap (s : Session) (before after : List Demand) {a b : Descriptor}
    (h : ∀ name, s.registry.servingName? a = some name → s.registry.servingName? b ≠ some name) :
    Agree (s.run (before ++ .create b :: .create a :: after)).1
      (s.run (before ++ .create a :: .create b :: after)).1 ∧
    ∃ early x y late, early.length = before.length ∧
      (s.run (before ++ .create a :: .create b :: after)).2 = early ++ x :: y :: late ∧
      (s.run (before ++ .create b :: .create a :: after)).2 = early ++ y :: x :: late := by
  have hmid : (s.run before).1.registry = s.registry := registry_run s before
  obtain ⟨ha, hb, hagree⟩ := (s.run before).1.step_create_comm (hmid ▸ h)
  obtain ⟨hlate, hfinal⟩ := hagree.run after
  rw [run_append, run_append, run_cons, run_cons, run_cons, run_cons, ha, hb, hlate]
  exact ⟨hfinal, _, _, _, _, length_run s before, rfl, rfl⟩

end Session

/-! ## The account of a session -/

/-- In a session with a registry that can come about, the registry stays as it is, every question
is answered as at the start, and the calls of a binding are as many as the requests that select
it. A request that selects no binding is refused as unknown. Any other gets the outcome of the
next call of its binding: the holder, or the failure, reported for the descriptor that was asked
for. No other error occurs, and adjacent requests that select different bindings can change
places without changing their replies, the other replies, or the number of calls. -/
theorem Registry.Reachable.session_accounts {c : Catalogue} {r : Registry} (h : r.Reachable c)
    (demands : List Demand) :
    let finished := (Session.start r).run demands
    finished.1.registry = r ∧
    finished.2.length = demands.length ∧
    (∀ i e, r.entries[i]? = some e →
      finished.1.calls.count e.name = r.timesSelected (Demand.requests demands) i) ∧
    finished.1.calls.total = (Demand.requests demands).countP (fun d => (r.lookup d).isSome) ∧
    (∀ before q after, demands = before ++ .ask q :: after →
      finished.2[before.length]? = some (.told (r.answer q))) ∧
    (∀ before d after, demands = before ++ .create d :: after →
      match r.position? d with
      | none => r.lookup d = none ∧
        finished.2[before.length]? = some (.created (.error (.unknownHolder d.name)))
      | some i => ∃ e m, r.entries[i]? = some e ∧ r.lookup d = some (e, m) ∧
        finished.2[before.length]? = some (.created
          ((e.supplier.outcome (r.timesSelected (Demand.requests before) i)).mapError
            (.creation d.name)))) ∧
    (∀ error, .created (.error error) ∈ finished.2 → ∃ d ∈ Demand.requests demands,
      (r.lookup d = none ∧ error = .unknownHolder d.name) ∨
      ∃ e m n cause, r.lookup d = some (e, m) ∧ e.supplier.outcome n = .error cause ∧
        error = .creation d.name cause) ∧
    ∀ before a b after, demands = before ++ .create a :: .create b :: after →
      (∀ i, r.position? a = some i → r.position? b ≠ some i) →
      let swapped := (Session.start r).run (before ++ .create b :: .create a :: after)
      swapped.1.registry = r ∧
      (∀ name, swapped.1.calls.count name = finished.1.calls.count name) ∧
      ∃ early x y late, early.length = before.length ∧
        finished.2 = early ++ x :: y :: late ∧ swapped.2 = early ++ y :: x :: late := by
  have hs := h.sound
  have hcount (ds : List Demand) {i : Nat} {e : Entry} (he : r.entries[i]? = some e) :
      ((Session.start r).run ds).1.calls.count e.name = r.timesSelected (Demand.requests ds) i := by
    rw [Session.count_run, hs.timesSelected_eq_countP he]
    exact Nat.zero_add _
  intro finished
  refine ⟨Session.registry_run _ _, Session.length_run _ _, fun i e he => hcount demands he,
    ?_, ?_, ?_, fun error herror => Session.error_of_mem_run _ _ herror, ?_⟩
  · exact (Session.total_run _ _).trans (Nat.zero_add _)
  · rintro before q after rfl
    rw [Session.reply_run, Session.step, Session.registry_run]
    rfl
  · rintro before d after rfl
    have hreply : finished.2[before.length]? =
        some (.created (r.create ((Session.start r).run before).1.calls d).result) := by
      rw [Session.reply_run, Session.step, Session.registry_run]
      rfl
    cases hp : r.position? d with
    | none =>
      have hl := (hs.position?_eq_none_iff d).mp hp
      exact ⟨hl, by rw [hreply, (create_of_lookup_eq_none hl _).1]⟩
    | some i =>
      obtain ⟨e, m, he, hl⟩ := (hs.position?_eq_some_iff d i).mp hp
      exact ⟨e, m, he, hl, by rw [hreply, (create_of_lookup_eq_some hl _).1, hcount before he]⟩
  · rintro before a b after rfl hne
    obtain ⟨hagree, hreplies⟩ := Session.run_swap (Session.start r) before after
      (hs.servingName?_ne_of_position?_ne hne)
    exact ⟨hagree.registry.trans (Session.registry_run _ _), hagree.count, hreplies⟩

/-- A supplier fails once and then gives holders: the failure is reported for the descriptor that
was asked for, and the next request under any name has the next outcome. -/
theorem Registry.Reachable.session_accounts_of_recovery :
    let screen : Descriptor := .root "screen"
    let viewer : Descriptor := ⟨"viewer", [screen]⟩
    let holder : Holder := ⟨"screen", screen⟩
    let recovering : Supplier := .inTurn [.always (.error (.plain "closed"))] (.always (.ok holder))
    let r : Registry :=
      ⟨[⟨.root "editor", "", .always (.ok holder)⟩, ⟨screen, "", recovering⟩],
        ⟨[("editor", 0), ("screen", 1)]⟩⟩
    let demands : List Demand :=
      [.create viewer, .ask .size, .create (.root "panel"), .create screen]
    let finished := (Session.start r).run demands
    Reachable ⟨[]⟩ r ∧ finished.1.calls.count "screen" = 2 ∧ finished.1.calls.total = 2 ∧
      finished.2[0]? = some (.created (.error (.creation "viewer" (.plain "closed")))) ∧
      finished.2[2]? = some (.created (.error (.unknownHolder "panel"))) ∧
      finished.2[3]? = some (.created (.ok holder)) := by
  intro screen viewer holder recovering r demands finished
  have h : Reachable ⟨[]⟩ r :=
    .built [.bind (.root "editor") (.always (.ok holder)), .bind screen recovering] rfl
  obtain ⟨-, -, hcount, htotal, -, hreply, -⟩ := h.session_accounts demands
  have hviewer := hreply [] viewer _ rfl
  have hpanel := hreply [.create viewer, .ask .size] (.root "panel") _ rfl
  have hscreen := hreply [.create viewer, .ask .size, .create (.root "panel")] screen _ rfl
  obtain ⟨e, m, he, -, hfirst⟩ :
      ∃ e m, r.entries[1]? = some e ∧ r.lookup viewer = some (e, m) ∧ _ := hviewer
  obtain ⟨e', m', he', -, hlast⟩ :
      ∃ e m, r.entries[1]? = some e ∧ r.lookup screen = some (e, m) ∧ _ := hscreen
  obtain rfl := Option.some.inj he
  obtain rfl := Option.some.inj he'
  exact ⟨h, (hcount 1 _ rfl).trans rfl, htotal.trans rfl, hfirst, hpanel.2, hlast⟩

end StateHolders
