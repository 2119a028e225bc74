import StateHolders.Proofs.Container
import StateHolders.Proofs.Session

/-!
# Typed access

Typed access is a creation and then a look at the concrete type of what was made. It calls what the
creation calls. The holder is passed on if it is of the type, and refused if it is not; neither the
match by which its binding was found nor the descriptor that it reports has a say in that. What the
creation fails with is passed on, and can always be told from a refusal.
-/

namespace StateHolders

namespace Registry

variable {r : Registry} {calls : Calls} {d : Descriptor} {t : HolderType}

/-! ## Calls -/

/-- The call that a request makes is one of the entry that serves it, and of no other entry. -/
theorem Sound.calls_create_of_lookup (h : r.Sound) {e : Entry} {m : Match}
    (hl : r.lookup d = some (e, m)) (calls : Calls) :
    (r.create calls d).calls.total = calls.total + 1 ∧
      (r.create calls d).calls.count e.name = calls.count e.name + 1 ∧
      ∀ f ∈ r.entries, f ≠ e → (r.create calls d).calls.count f.name = calls.count f.name := by
  rw [(create_of_lookup_eq_some hl calls).2]
  refine ⟨Calls.total_record calls e.name, ?_, ?_⟩
  · rw [Calls.count_record, if_pos rfl]
  · intro f hf hfe
    have hname : e.name ≠ f.name := fun heq =>
      hfe (h.eq_of_name_eq hf (h.mem_of_lookup hl) heq.symm)
    rw [Calls.count_record, if_neg hname, Nat.add_zero]

/-! ## Results -/

theorem result_createOf (r : Registry) (calls : Calls) (t : HolderType) :
    (r.createOf calls t).result = (r.create calls t.descriptor).result.bind fun holder =>
      if holder.isOf t then .ok holder
      else .error (.typeMismatch t.descriptor.name holder.descriptor.name) := by
  rw [createOf_eq]

/-- A failed creation fails as it does without the type. -/
theorem result_createOf_of_error {error : Error}
    (h : (r.create calls t.descriptor).result = .error error) :
    (r.createOf calls t).result = .error error := by
  rw [result_createOf, h]
  rfl

/-- A holder of the type is passed on. -/
theorem result_createOf_of_label_eq {holder : Holder}
    (h : (r.create calls t.descriptor).result = .ok holder) (hlabel : holder.typeLabel = t.label) :
    (r.createOf calls t).result = .ok holder := by
  have hof : holder.isOf t = true := beq_iff_eq.mpr hlabel
  rw [result_createOf, h]
  exact if_pos hof

/-- A holder of another type is refused. -/
theorem result_createOf_of_label_ne {holder : Holder}
    (h : (r.create calls t.descriptor).result = .ok holder) (hlabel : holder.typeLabel ≠ t.label) :
    (r.createOf calls t).result =
      .error (.typeMismatch t.descriptor.name holder.descriptor.name) := by
  have hof : ¬holder.isOf t = true := fun hof => hlabel (beq_iff_eq.mp hof)
  rw [result_createOf, h]
  exact if_neg hof

/-- No creation is refused for a type. -/
theorem result_create_ne_typeMismatch (r : Registry) (calls : Calls) (d : Descriptor)
    (requested produced : String) :
    (r.create calls d).result ≠ .error (.typeMismatch requested produced) := by
  intro h
  rcases error_of_create h with ⟨-, herror⟩ | ⟨e, m, n, cause, -, -, herror⟩
  · cases herror
  · cases herror

theorem result_createOf_eq_ok_iff (holder : Holder) :
    (r.createOf calls t).result = .ok holder ↔
      (r.create calls t.descriptor).result = .ok holder ∧ holder.typeLabel = t.label := by
  cases hc : (r.create calls t.descriptor).result with
  | error error =>
    rw [result_createOf_of_error hc]
    simp
  | ok made =>
    by_cases hlabel : made.typeLabel = t.label
    · rw [result_createOf_of_label_eq hc hlabel, Except.ok.injEq]
      constructor
      · intro hmade
        exact ⟨hmade, hmade ▸ hlabel⟩
      · intro hmade
        exact hmade.1
    · rw [result_createOf_of_label_ne hc hlabel, Except.ok.injEq]
      constructor
      · intro hrefused
        cases hrefused
      · intro hmade
        exact absurd (hmade.1 ▸ hmade.2) hlabel

/-- Only a holder of another type leads to a refusal. -/
theorem result_createOf_eq_typeMismatch_iff (requested produced : String) :
    (r.createOf calls t).result = .error (.typeMismatch requested produced) ↔
      ∃ holder, (r.create calls t.descriptor).result = .ok holder ∧ holder.typeLabel ≠ t.label ∧
        requested = t.descriptor.name ∧ produced = holder.descriptor.name := by
  constructor
  · intro h
    cases hc : (r.create calls t.descriptor).result with
    | error error =>
      have herror := (result_createOf_of_error hc).symm.trans h
      exact absurd (hc.trans herror) (r.result_create_ne_typeMismatch _ _ _ _)
    | ok made =>
      by_cases hlabel : made.typeLabel = t.label
      · have hpassed := (result_createOf_of_label_eq hc hlabel).symm.trans h
        cases hpassed
      · have hrefused := (result_createOf_of_label_ne hc hlabel).symm.trans h
        obtain ⟨hrequested, hproduced⟩ := Error.typeMismatch.inj (Except.error.inj hrefused)
        exact ⟨made, rfl, hlabel, hrequested.symm, hproduced.symm⟩
  · rintro ⟨holder, hc, hlabel, rfl, rfl⟩
    exact result_createOf_of_label_ne hc hlabel

end Registry

/-! ## Typed access to a container -/

/-- Whatever suppliers were called before, typed access to a container leaves the calls and the
report that the creation for the descriptor of the type leaves: one more call of the entry that
serves it, and none of another, or no call at all. Its result is a holder exactly if that creation
gives this holder and it is of the type. It refuses a holder exactly if that creation gives one of
another type, and names the descriptor of the type and the one that the holder reports. What that
creation fails with is passed on. -/
theorem Container.typed_access_checks_instance {catalogue : Catalogue} {config : Config}
    {modules : List Module} {container : Container}
    (h : (build catalogue config modules).1 = .ok container) (calls : Calls) (t : HolderType) :
    let r := container.registry
    let created := r.create calls t.descriptor
    let typed := r.createOf calls t
    typed.calls = created.calls ∧ typed.events = created.events ∧
    (r.lookup t.descriptor = none → typed.calls = calls) ∧
    (∀ e m, r.lookup t.descriptor = some (e, m) →
      created.result = (e.supplier.outcome (calls.count e.name)).mapError
        (.creation t.descriptor.name) ∧
      typed.calls.total = calls.total + 1 ∧
      typed.calls.count e.name = calls.count e.name + 1 ∧
      ∀ f ∈ r.entries, f ≠ e → typed.calls.count f.name = calls.count f.name) ∧
    (∀ holder, typed.result = .ok holder ↔
      created.result = .ok holder ∧ holder.typeLabel = t.label) ∧
    (∀ requested produced, typed.result = .error (.typeMismatch requested produced) ↔
      ∃ holder, created.result = .ok holder ∧ holder.typeLabel ≠ t.label ∧
        requested = t.descriptor.name ∧ produced = holder.descriptor.name) ∧
    ∀ error, created.result = .error error → typed.result = .error error := by
  intro r created typed
  have hcalls : typed.calls = created.calls := by
    simp only [typed, created, Registry.createOf_eq]
  have hevents : typed.events = created.events := by
    simp only [typed, created, Registry.createOf_eq]
  have hs : r.Sound := sound_of_build h
  refine ⟨hcalls, hevents, ?_, ?_, Registry.result_createOf_eq_ok_iff,
    Registry.result_createOf_eq_typeMismatch_iff, fun error => Registry.result_createOf_of_error⟩
  · intro hl
    exact hcalls.trans (Registry.create_of_lookup_eq_none hl calls).2
  · intro e m hl
    rw [hcalls]
    exact ⟨(Registry.create_of_lookup_eq_some hl calls).1, hs.calls_create_of_lookup hl calls⟩

/-- A broader binding fails and then gives a viewer under another name, which is passed on. An exact
binding gives an impostor under the very name that was asked for, which is refused. Nothing is
called for a stranger. -/
theorem Container.typed_access_checks_instance_of_impostor :
    let screen : Descriptor := .root "screen"
    let viewer : HolderType := ⟨"viewer", ⟨"viewer", [screen]⟩⟩
    let editor : HolderType := ⟨"editor", ⟨"editor", [screen]⟩⟩
    let stranger : HolderType := ⟨"panel", .root "panel"⟩
    let masked : Holder := ⟨"viewer", .root "masked"⟩
    let impostor : Holder := ⟨"impostor", editor.descriptor⟩
    let recovering : Supplier := .inTurn [.always (.error (.plain "closed"))] (.always (.ok masked))
    let bound : Entry := ⟨screen, "", recovering⟩
    let exact : Entry := ⟨editor.descriptor, "", .always (.ok impostor)⟩
    let modules : List Module := [⟨"panels", [bound, exact]⟩]
    let r : Registry := ⟨modules.flatMap Module.bindings, ⟨[("screen", 0), ("editor", 1)]⟩⟩
    let explicit : Config := ⟨.default, ⟨false, []⟩⟩
    let once : Calls := Calls.none.record "screen"
    (build ⟨[]⟩ explicit modules).1 = .ok ⟨explicit, r⟩ ∧
      r.lookup viewer.descriptor = some (bound, .broader) ∧
      (r.createOf .none viewer).result = .error (.creation "viewer" (.plain "closed")) ∧
      (r.createOf once viewer).result = .ok masked ∧
      (r.createOf once viewer).calls.count "screen" = 2 ∧
      (r.createOf once viewer).calls.count "editor" = 0 ∧
      (r.createOf once editor).result = .error (.typeMismatch "editor" "editor") ∧
      (r.createOf once stranger).calls = once := by
  intro screen viewer editor stranger masked impostor recovering bound exact modules r explicit once
  have hbuild : (build ⟨[]⟩ explicit modules).1 = .ok ⟨explicit, r⟩ := rfl
  have hlookup : r.lookup viewer.descriptor = some (bound, .broader) := rfl
  obtain ⟨-, -, -, -, -, -, hfailed⟩ := typed_access_checks_instance hbuild .none viewer
  obtain ⟨-, -, -, hserved, hpassed, -⟩ := typed_access_checks_instance hbuild once viewer
  obtain ⟨-, -, -, -, -, hrefused, -⟩ := typed_access_checks_instance hbuild once editor
  obtain ⟨-, -, hunserved, -⟩ := typed_access_checks_instance hbuild once stranger
  obtain ⟨-, -, hcount, hothers⟩ := hserved bound .broader hlookup
  refine ⟨hbuild, hlookup, hfailed _ rfl, (hpassed masked).mpr ⟨rfl, rfl⟩, hcount, ?_, ?_,
    hunserved rfl⟩
  · have hne : exact ≠ bound := fun heq => absurd (congrArg Entry.name heq) (by decide)
    exact hothers exact (by simp [r, modules]) hne
  · exact (hrefused _ _).mpr ⟨impostor, rfl, by decide, rfl, rfl⟩

end StateHolders
