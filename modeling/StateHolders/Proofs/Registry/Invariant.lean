import StateHolders.Proofs.Registry.Construction

/-!
# The registry and its index

A registry does not check that its index fits its entries. Every registry that can come about has
an index that is exact for the names of its entries, so the three queries by name, two of which
use the index while the third goes through the entries, agree.
-/

namespace StateHolders

namespace Registry

/-- The index is exact for the names of the entries. -/
def Sound (r : Registry) : Prop := r.index.Exact (r.entries.map Entry.name)

/-- The registries that can come about with some holders on offer: the empty one, and those that
are built after any steps. -/
inductive Reachable (c : Catalogue) : Registry → Prop where
  /-- The registry without entries. -/
  | empty : Reachable c .empty
  /-- What is built after some steps. -/
  | built {r : Registry} (steps : List Builder.Operation)
    (h : (Builder.empty.applyAll c steps).build = .ok r) : Reachable c r

theorem sound_empty : Registry.empty.Sound := Index.exact_empty

/-- What is built is sound. -/
theorem sound_of_build {b : Builder} {r : Registry} (h : b.build = .ok r) : r.Sound := by
  rcases b.build_cases with ⟨index, hb, hx⟩ | ⟨j, name, hb, -⟩
  · rw [hb] at h
    rw [← Except.ok.inj h]
    exact hx
  · rw [hb] at h
    cases h

theorem Reachable.sound {c : Catalogue} {r : Registry} (h : Reachable c r) : r.Sound := by
  cases h with
  | empty => exact sound_empty
  | built steps h => exact sound_of_build h

namespace Sound

variable {r : Registry}

/-- No name is bound twice. -/
theorem nodup_names (h : r.Sound) : (r.entries.map Entry.name).Nodup := Index.Exact.nodup h

/-- An entry is determined by its name. -/
theorem eq_of_name_eq (h : r.Sound) {e f : Entry} (he : e ∈ r.entries) (hf : f ∈ r.entries)
    (hname : e.name = f.name) : e = f :=
  List.inj_on_of_nodup_map h.nodup_names he hf hname

/-- A position of the index is in range, and the entry there has the name. -/
theorem get?_index_iff (h : r.Sound) (name : String) (position : Nat) :
    r.index.get? name = some position ↔
      ∃ e, r.entries[position]? = some e ∧ e.name = name := by
  rw [h name position, List.getElem?_map, Option.map_eq_some_iff]

/-- The keys of the index are the names of the entries. -/
theorem contains_index_iff (h : r.Sound) (name : String) :
    r.index.contains name = true ↔ ∃ e ∈ r.entries, e.name = name := by
  rw [Index.Exact.contains_iff h, List.mem_map]

/-- The indexed query finds the entry of a name. -/
theorem findExact_eq_some_iff (h : r.Sound) (d : Descriptor) (e : Entry) :
    r.findExact d = some e ↔ e ∈ r.entries ∧ e.name = d.name := by
  rw [findExact, Option.bind_eq_some_iff]
  constructor
  · rintro ⟨position, hp, he⟩
    obtain ⟨f, hf, hname⟩ := (h.get?_index_iff d.name position).mp hp
    obtain rfl : e = f := Option.some.inj (he.symm.trans hf)
    exact ⟨List.mem_of_getElem? he, hname⟩
  · rintro ⟨he, hname⟩
    obtain ⟨position, hp⟩ := List.mem_iff_getElem?.mp he
    exact ⟨position, (h.get?_index_iff d.name position).mpr ⟨e, hp, hname⟩, hp⟩

theorem findExact_eq_none_iff (h : r.Sound) (d : Descriptor) :
    r.findExact d = none ↔ ∀ e ∈ r.entries, e.name ≠ d.name := by
  rw [Option.eq_none_iff_forall_ne_some]
  constructor
  · intro hn e he hname
    exact hn e ((h.findExact_eq_some_iff d e).mpr ⟨he, hname⟩)
  · intro hn e he
    obtain ⟨hmem, hname⟩ := (h.findExact_eq_some_iff d e).mp he
    exact hn e hmem hname

/-- A scan for a name finds the one entry that has it. -/
theorem find?_name_eq_some_iff (h : r.Sound) (name : String) (e : Entry) :
    r.entries.find? (fun f => f.name == name) = some e ↔ e ∈ r.entries ∧ e.name = name := by
  constructor
  · intro hf
    exact ⟨List.mem_of_find?_eq_some hf, by simpa using List.find?_some hf⟩
  · rintro ⟨he, hname⟩
    obtain ⟨f, hf⟩ : ∃ f, r.entries.find? (fun f => f.name == name) = some f := by
      rw [← Option.isSome_iff_exists, List.find?_isSome]
      exact ⟨e, he, by simpa using hname⟩
    have hfname : f.name = name := by simpa using List.find?_some hf
    rw [hf, h.eq_of_name_eq (List.mem_of_find?_eq_some hf) he (hfname.trans hname.symm)]

/-- The indexed query answers like a scan. -/
theorem findExact_eq_find? (h : r.Sound) (d : Descriptor) :
    r.findExact d = r.entries.find? fun e => e.name == d.name := by
  apply Option.ext
  intro e
  rw [h.findExact_eq_some_iff, h.find?_name_eq_some_iff]

theorem contains_eq_isSome_findExact (h : r.Sound) (d : Descriptor) :
    r.contains d = (r.findExact d).isSome := by
  rw [Bool.eq_iff_iff, contains, h.contains_index_iff, Option.isSome_iff_exists]
  exact exists_congr fun e => (h.findExact_eq_some_iff d e).symm

/-- The query for a bound descriptor answers with the key of the entry of that name. -/
theorem descriptorNamed_eq (h : r.Sound) (d : Descriptor) :
    r.descriptorNamed d.name = (r.findExact d).map Entry.descriptor := by
  rw [h.findExact_eq_find?, descriptorNamed, List.find?_map]
  rfl

end Sound

/-- In every registry that can come about no name is bound twice, the keys of the index are the
names of the entries, and each name has the position of its entry. So a position of the index is
in range, the indexed query finds the first and only entry of the name, and all three queries by
name agree on whether, and as what, a name is bound. -/
theorem Reachable.index_agrees_with_entries {c : Catalogue} {r : Registry} (h : Reachable c r) :
    (r.entries.map Entry.name).Nodup ∧
    (∀ name, r.index.contains name = true ↔ name ∈ r.entries.map Entry.name) ∧
    (∀ name position, r.index.get? name = some position ↔
      ∃ hp : position < r.entries.length, (r.entries[position]).name = name) ∧
    ∀ d : Descriptor,
      (∀ position, r.index.get? d.name = some position →
        ∃ hp : position < r.entries.length, r.findExact d = some (r.entries[position])) ∧
      r.findExact d = r.entries.find? (fun e => e.name == d.name) ∧
      (∀ e, r.findExact d = some e ↔ e ∈ r.entries ∧ e.name = d.name) ∧
      r.contains d = (r.findExact d).isSome ∧
      (r.descriptorNamed d.name).isSome = (r.findExact d).isSome ∧
      r.descriptorNamed d.name = (r.findExact d).map Entry.descriptor := by
  have hs := h.sound
  have hget (name : String) (position : Nat) : r.index.get? name = some position ↔
      ∃ hp : position < r.entries.length, (r.entries[position]).name = name := by
    rw [hs.get?_index_iff]
    constructor
    · rintro ⟨e, he, hname⟩
      obtain ⟨hp, rfl⟩ := List.getElem?_eq_some_iff.mp he
      exact ⟨hp, hname⟩
    · rintro ⟨hp, hname⟩
      exact ⟨_, List.getElem?_eq_getElem hp, hname⟩
  refine ⟨hs.nodup_names, Index.Exact.contains_iff hs, hget, fun d => ?_⟩
  refine ⟨?_, hs.findExact_eq_find? d, hs.findExact_eq_some_iff d,
    hs.contains_eq_isSome_findExact d, ?_, hs.descriptorNamed_eq d⟩
  · intro position hp
    obtain ⟨hlt, hname⟩ := (hget d.name position).mp hp
    exact ⟨hlt, (hs.findExact_eq_some_iff d _).mpr ⟨List.getElem_mem hlt, hname⟩⟩
  · rw [hs.descriptorNamed_eq, Option.isSome_map]

/-- The index of two bindings, the later of which is what the earlier one refines. -/
theorem Reachable.index_agrees_with_two_entries :
    let quiet : Supplier := .always (.error (.plain "closed"))
    let screen : Descriptor := .root "screen"
    let editor : Descriptor := ⟨"editor", [screen]⟩
    let r : Registry :=
      ⟨[⟨editor, "", quiet⟩, ⟨screen, "Screen", quiet⟩], ⟨[("editor", 0), ("screen", 1)]⟩⟩
    Reachable ⟨[]⟩ r ∧ r.index.get? "screen" = some 1 ∧
      r.findExact screen = some ⟨screen, "Screen", quiet⟩ ∧
      r.descriptorNamed "screen" = some screen := by
  intro quiet screen editor r
  have h : Reachable ⟨[]⟩ r :=
    .built [.bind editor quiet, .bindDescribed screen "Screen" quiet] rfl
  obtain ⟨-, -, hindex, hqueries⟩ := h.index_agrees_with_entries
  obtain ⟨-, -, hexact, -, -, hnamed⟩ := hqueries screen
  have hfound : r.findExact screen = some ⟨screen, "Screen", quiet⟩ :=
    (hexact _).mpr ⟨by simp [r], rfl⟩
  refine ⟨h, (hindex "screen" 1).mpr ⟨by decide, rfl⟩, hfound, ?_⟩
  exact hnamed.trans (by rw [hfound]; rfl)

end Registry

end StateHolders
