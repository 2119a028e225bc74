import StateHolders.Proofs.Registry.Resolution

/-!
# When two descriptors are interchangeable

A look-up sees nothing of a descriptor but its name and the set of names in its tree. Registries
with a single binding are enough to tell any two descriptors apart that differ in one of these.
Descriptors of one name can have different sets. Such a difference shows only in a registry that
does not bind their name, but does bind a name that only one of the sets has.
-/

namespace StateHolders

/-- The tree of a descriptor whose parents refine nothing has its own name and theirs. -/
theorem Descriptor.names_of_roots (name : String) (above : List String) :
    (⟨name, above.map .root⟩ : Descriptor).names = name :: above := by
  rw [names_eq, ancestorNames]
  congr
  induction above with
  | nil => rfl
  | cons n rest ih =>
    rw [List.map_cons, namesAll, ih]
    rfl

namespace Registry

variable {r : Registry} {d d' : Descriptor}

/-! ## What a look-up sees -/

theorem findExact_congr (r : Registry) (hname : d.name = d'.name) :
    r.findExact d = r.findExact d' := by
  rw [findExact, findExact, hname]

/-- Of the names in a tree, only those that are bound matter to a look-up. -/
theorem lookup_congr (hname : d.name = d'.name)
    (hnames : ∀ e ∈ r.entries, e.name ∈ d.names ↔ e.name ∈ d'.names) :
    r.lookup d = r.lookup d' := by
  have hsatisfies : ∀ e ∈ r.entries, d.satisfies e.descriptor = d'.satisfies e.descriptor := by
    intro e he
    rw [Bool.eq_iff_iff, Descriptor.satisfies_iff_mem_names, Descriptor.satisfies_iff_mem_names]
    exact hnames e he
  have hbroader : r.findBroader d = r.findBroader d' := by
    rw [findBroader, findBroader, ← List.head?_filter, ← List.head?_filter,
      List.filter_congr hsatisfies]
  rw [lookup, lookup, r.findExact_congr hname, hbroader]

/-- Where a name is bound, only the name matters to a look-up. -/
theorem Sound.lookup_congr_of_contains (h : r.Sound) (hname : d.name = d'.name)
    (hbound : r.contains d = true) : r.lookup d = r.lookup d' := by
  rw [h.contains_eq_isSome_findExact, Option.isSome_iff_exists] at hbound
  obtain ⟨e, he⟩ := hbound
  rw [lookup_of_findExact_eq_some he, lookup_of_findExact_eq_some (r.findExact_congr hname ▸ he)]

/-! ## Registries with one binding -/

/-- The registry that binds only this entry. -/
def single (e : Entry) : Registry := ⟨[e], Index.empty.insert e.name 0⟩

theorem reachable_single (c : Catalogue) (e : Entry) : Reachable c (single e) :=
  .built [.bindEntry e] rfl

/-- A single binding serves what has its name. -/
theorem isSome_lookup_single (d : Descriptor) (e : Entry) :
    ((single e).lookup d).isSome = true ↔ e.name ∈ d.names := by
  rw [(reachable_single ⟨[]⟩ e).sound.isSome_lookup_iff]
  simp [single]

/-- A single binding serves exactly its own name exactly. -/
theorem lookup_single_eq_exact_iff (d : Descriptor) (e : Entry) :
    (single e).lookup d = some (e, .exact) ↔ e.name = d.name := by
  rw [(reachable_single ⟨[]⟩ e).sound.lookup_eq_exact_iff]
  simp [single]

/-- A binding of a name that makes nothing. -/
def probe (name : String) : Entry := ⟨.root name, "", .always (.error (.plain ""))⟩

/-- What cannot be told apart by single bindings has one name. -/
theorem name_eq_of_lookup_single (h : (single (probe d.name)).lookup d =
    (single (probe d.name)).lookup d') : d.name = d'.name := by
  have hd : (single (probe d.name)).lookup d = some (probe d.name, .exact) :=
    (lookup_single_eq_exact_iff d _).mpr rfl
  exact (lookup_single_eq_exact_iff d' (probe d.name)).mp (h ▸ hd)

/-- What cannot be told apart by a binding of a name has this name in both trees or in neither. -/
theorem mem_names_congr_of_lookup_single {name : String}
    (h : (single (probe name)).lookup d = (single (probe name)).lookup d') :
    name ∈ d.names ↔ name ∈ d'.names := by
  have hd := isSome_lookup_single d (probe name)
  have hd' := isSome_lookup_single d' (probe name)
  rw [h] at hd
  exact hd.symm.trans hd'

/-! ## Interchangeable descriptors -/

/-- Two descriptors are looked up alike in every registry that can come about exactly if they have
one name and the same names in their trees. So a descriptor may as well declare the names of its
ancestors as direct parents, in any order and any number of times. If only the names of two
descriptors are equal, they are looked up alike where this name is bound, and where no name is
bound that only one of their trees has. -/
theorem lookup_agrees_iff_same_names (c : Catalogue) (d d' : Descriptor) :
    ((∀ r, Reachable c r → r.lookup d = r.lookup d') ↔
      d.name = d'.name ∧ ∀ name, name ∈ d.names ↔ name ∈ d'.names) ∧
    (∀ above : List String, (∀ name, name ∈ above ↔ name ∈ d.ancestorNames) →
      ∀ r, Reachable c r → r.lookup ⟨d.name, above.map .root⟩ = r.lookup d) ∧
    ((d == d') = true → ∀ r, Reachable c r →
      (r.contains d = true ∨ ∀ e ∈ r.entries, e.name ∈ d.names ↔ e.name ∈ d'.names) →
      r.lookup d = r.lookup d') := by
  refine ⟨⟨fun h => ⟨?_, fun name => ?_⟩, ?_⟩, ?_, ?_⟩
  · exact name_eq_of_lookup_single (h _ (reachable_single c _))
  · exact mem_names_congr_of_lookup_single (h _ (reachable_single c _))
  · rintro ⟨hname, hnames⟩ r -
    exact lookup_congr hname fun e _ => hnames e.name
  · intro above habove r _
    refine lookup_congr rfl fun e _ => ?_
    rw [Descriptor.names_of_roots, Descriptor.names_eq, List.mem_cons, List.mem_cons, habove]
  · intro heq r hr hbound
    have hname := (Descriptor.beq_iff_name_eq d d').mp heq
    rcases hbound with hbound | hnames
    · exact hr.sound.lookup_congr_of_contains hname hbound
    · exact lookup_congr hname hnames

/-- A narrow screen is looked up like one that declares all ancestors directly, one of them twice.
A bare descriptor of its name is looked up like it where that name or a stranger is bound, but not
where an ancestor is. -/
theorem lookup_agrees_iff_same_names_of_editor :
    let screen : Descriptor := ⟨"screen", [.root "state_holder"]⟩
    let editor : Descriptor := ⟨"editor", [screen]⟩
    let above : List String := ["state_holder", "screen", "state_holder"]
    let bare : Descriptor := .root "editor"
    let own : Registry := single (probe "editor")
    let stranger : Registry := single (probe "panel")
    let ancestor : Registry := single (probe "screen")
    (∀ name, name ∈ above ↔ name ∈ editor.ancestorNames) ∧ (editor == bare) = true ∧
      own.contains editor = true ∧
      (∀ e ∈ stranger.entries, e.name ∈ editor.names ↔ e.name ∈ bare.names) ∧
      Reachable ⟨[]⟩ own ∧ Reachable ⟨[]⟩ stranger ∧ Reachable ⟨[]⟩ ancestor ∧
      ancestor.lookup ⟨"editor", above.map .root⟩ = ancestor.lookup editor ∧
      own.lookup editor = own.lookup bare ∧ stranger.lookup editor = stranger.lookup bare ∧
      ¬∀ r, Reachable ⟨[]⟩ r → r.lookup editor = r.lookup bare := by
  intro screen editor above bare own stranger ancestor
  have habove : ∀ name, name ∈ above ↔ name ∈ editor.ancestorNames := by
    intro name
    simp only [above, editor, screen, Descriptor.ancestorNames, Descriptor.namesAll,
      Descriptor.names, Descriptor.root, List.append_nil, List.mem_cons, List.not_mem_nil, or_false]
    tauto
  have hbare : (editor == bare) = true := by decide
  have hown : own.contains editor = true := by decide
  have hstranger : ∀ e ∈ stranger.entries, e.name ∈ editor.names ↔ e.name ∈ bare.names := by
    decide
  obtain ⟨hiff, hflat, hcongr⟩ := lookup_agrees_iff_same_names ⟨[]⟩ editor bare
  have hreach (name : String) : Reachable ⟨[]⟩ (single (probe name)) := reachable_single _ _
  refine ⟨habove, hbare, hown, hstranger, hreach _, hreach _, hreach _, ?_, ?_, ?_, ?_⟩
  · exact hflat above habove ancestor (hreach _)
  · exact hcongr hbare own (hreach _) (.inl hown)
  · exact hcongr hbare stranger (hreach _) (.inr hstranger)
  · intro hall
    have hmem := ((hiff.mp hall).2 "screen").mp (by decide)
    exact absurd hmem (by decide)

end Registry

end StateHolders
