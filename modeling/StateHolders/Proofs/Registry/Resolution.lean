import StateHolders.Proofs.Registry.Invariant

/-!
# Which entry serves a request

The entry of the descriptor's own name serves a request, wherever it stands. Otherwise the first
entry in the order of binding serves it whose name is that of an ancestor, however far above the
descriptor that ancestor stands. A request is not served exactly if no name in its tree is bound.
-/

namespace StateHolders.Registry

open Descriptor (Ancestor)

/-! ## The scan for a broader entry -/

/-- The scan finds the first entry that the descriptor satisfies. -/
theorem findBroader_eq_some_iff (r : Registry) (d : Descriptor) (e : Entry) :
    r.findBroader d = some e ↔ ∃ before after, r.entries = before ++ e :: after ∧
      d.satisfies e.descriptor = true ∧ ∀ f ∈ before, ¬d.satisfies f.descriptor = true := by
  rw [findBroader, List.find?_eq_some_iff_append]
  constructor
  · rintro ⟨he, before, after, hsplit, hbefore⟩
    exact ⟨before, after, hsplit, he, fun f hf => by simpa using hbefore f hf⟩
  · rintro ⟨before, after, hsplit, he, hbefore⟩
    exact ⟨he, before, after, hsplit, fun f hf => by simpa using hbefore f hf⟩

theorem findBroader_eq_none_iff (r : Registry) (d : Descriptor) :
    r.findBroader d = none ↔ ∀ e ∈ r.entries, ¬d.satisfies e.descriptor = true := by
  rw [findBroader, List.find?_eq_none]

/-- A name that is bound to nothing of its own is satisfied exactly by way of an ancestor. -/
theorem satisfies_iff_of_name_ne {d : Descriptor} {e : Entry} (hne : e.name ≠ d.name) :
    d.satisfies e.descriptor = true ↔ ∃ a, Ancestor a d ∧ a.name = e.name := by
  rw [Descriptor.satisfies_iff_ancestor]
  exact ⟨fun h => h.resolve_left hne, Or.inr⟩

/-! ## The two steps of a look-up -/

theorem lookup_of_findExact_eq_some {r : Registry} {d : Descriptor} {e : Entry}
    (h : r.findExact d = some e) : r.lookup d = some (e, .exact) := by
  rw [lookup, h]

theorem lookup_of_findExact_eq_none {r : Registry} {d : Descriptor} (h : r.findExact d = none) :
    r.lookup d = (r.findBroader d).map fun e => (e, .broader) := by
  rw [lookup, h]

/-- A look-up is exact precisely if the indexed query finds something. -/
theorem lookup_eq_exact_iff_findExact (r : Registry) (d : Descriptor) (e : Entry) :
    r.lookup d = some (e, .exact) ↔ r.findExact d = some e := by
  cases h : r.findExact d with
  | some f => simp [lookup_of_findExact_eq_some h]
  | none => simp [lookup_of_findExact_eq_none h]

theorem findExact_eq_none_of_lookup {r : Registry} {d : Descriptor}
    (h : ∀ e, r.lookup d ≠ some (e, .exact)) : r.findExact d = none := by
  rw [Option.eq_none_iff_forall_ne_some]
  exact fun e he => h e (lookup_of_findExact_eq_some he)

namespace Sound

variable {r : Registry}

/-! ## The three outcomes of a look-up -/

/-- The entry of the own name serves a request, wherever it stands. -/
theorem lookup_eq_exact_iff (h : r.Sound) (d : Descriptor) (e : Entry) :
    r.lookup d = some (e, .exact) ↔ e ∈ r.entries ∧ e.name = d.name := by
  rw [lookup_eq_exact_iff_findExact, h.findExact_eq_some_iff]

/-- Without an entry of the own name, the scan decides. -/
theorem lookup_eq_broader_iff (h : r.Sound) (d : Descriptor) (e : Entry) :
    r.lookup d = some (e, .broader) ↔
      (∀ f ∈ r.entries, f.name ≠ d.name) ∧ r.findBroader d = some e := by
  rw [← h.findExact_eq_none_iff]
  cases hx : r.findExact d with
  | some f => simp [lookup_of_findExact_eq_some hx]
  | none => simp [lookup_of_findExact_eq_none hx]

/-- An entry of the own name is found by the scan, too, or another one before it. -/
theorem lookup_eq_none_iff (h : r.Sound) (d : Descriptor) :
    r.lookup d = none ↔ r.findBroader d = none := by
  cases hx : r.findExact d with
  | some e =>
    rw [lookup_of_findExact_eq_some hx]
    obtain ⟨he, hname⟩ := (h.findExact_eq_some_iff d e).mp hx
    have hsat : d.satisfies e.descriptor = true :=
      (Descriptor.satisfies_iff_ancestor _ _).mpr (Or.inl hname)
    constructor
    · intro hs
      cases hs
    · intro hs
      exact absurd hsat ((r.findBroader_eq_none_iff d).mp hs e he)
  | none => rw [lookup_of_findExact_eq_none hx, Option.map_eq_none_iff]

/-- The scan decides on its own whether a request is served at all. -/
theorem isSome_lookup (h : r.Sound) (d : Descriptor) :
    (r.lookup d).isSome = (r.findBroader d).isSome := by
  rw [Bool.eq_iff_iff, ← Option.ne_none_iff_isSome, ← Option.ne_none_iff_isSome]
  exact not_congr (h.lookup_eq_none_iff d)

/-- A request is served exactly if some name in its tree is bound. -/
theorem isSome_lookup_iff (h : r.Sound) (d : Descriptor) :
    (r.lookup d).isSome = true ↔ ∃ e ∈ r.entries, e.name ∈ d.names := by
  rw [h.isSome_lookup, findBroader, List.find?_isSome]
  exact exists_congr fun e => and_congr_right fun _ => Descriptor.satisfies_iff_mem_names d _

/-- A broader match is the first entry under the name of an ancestor. -/
theorem lookup_eq_broader_iff_ancestor (h : r.Sound) (d : Descriptor) (e : Entry) :
    r.lookup d = some (e, .broader) ↔
      (∀ f ∈ r.entries, f.name ≠ d.name) ∧
      ∃ before after, r.entries = before ++ e :: after ∧
        (∃ a, Ancestor a d ∧ a.name = e.name) ∧
        ∀ f ∈ before, ¬∃ a, Ancestor a d ∧ a.name = f.name := by
  rw [h.lookup_eq_broader_iff, findBroader_eq_some_iff]
  refine and_congr_right fun hne => ?_
  refine exists_congr fun before => exists_congr fun after => ?_
  refine and_congr_right fun hsplit => ?_
  have hmem : ∀ f ∈ before ++ e :: after, f.name ≠ d.name := hsplit ▸ hne
  rw [satisfies_iff_of_name_ne (hmem e (by simp))]
  refine and_congr_right fun _ => forall₂_congr fun f hf => ?_
  rw [satisfies_iff_of_name_ne (hmem f (by simp [hf]))]

/-- A request is not served exactly if no name in its tree is bound. -/
theorem lookup_eq_none_iff_ancestor (h : r.Sound) (d : Descriptor) :
    r.lookup d = none ↔
      ∀ e ∈ r.entries, e.name ≠ d.name ∧ ¬∃ a, Ancestor a d ∧ a.name = e.name := by
  rw [h.lookup_eq_none_iff, findBroader_eq_none_iff]
  refine forall₂_congr fun e _ => ?_
  rw [Descriptor.satisfies_iff_ancestor, not_or]
  rfl

/-- Only the registry without entries serves nothing. -/
theorem forall_lookup_eq_none_iff (h : r.Sound) :
    (∀ d, r.lookup d = none) ↔ r.isEmpty = true := by
  rw [isEmpty, List.isEmpty_iff]
  constructor
  · intro hn
    rw [List.eq_nil_iff_forall_not_mem]
    intro e he
    exact ((h.lookup_eq_none_iff_ancestor e.descriptor).mp (hn e.descriptor) e he).1 rfl
  · intro hnil d
    rw [h.lookup_eq_none_iff_ancestor, hnil]
    intro e he
    cases he

end Sound

/-! ## The rule -/

/-- In every registry that can come about, a look-up is exact with the entry of the descriptor's
own name, else broader with the first entry under the name of an ancestor, and else it finds
nothing, in agreement with the scan. -/
theorem Reachable.lookup_resolves {c : Catalogue} {r : Registry} (h : Reachable c r) :
    (∀ d e, r.lookup d = some (e, .exact) ↔ e ∈ r.entries ∧ e.name = d.name) ∧
    (∀ d e, r.lookup d = some (e, .broader) ↔
      (∀ f ∈ r.entries, f.name ≠ d.name) ∧
      ∃ before after, r.entries = before ++ e :: after ∧
        (∃ a, Ancestor a d ∧ a.name = e.name) ∧
        ∀ f ∈ before, ¬∃ a, Ancestor a d ∧ a.name = f.name) ∧
    (∀ d, r.lookup d = none ↔
      ∀ e ∈ r.entries, e.name ≠ d.name ∧ ¬∃ a, Ancestor a d ∧ a.name = e.name) ∧
    (∀ d, (r.lookup d).isSome = (r.findBroader d).isSome) ∧
    ((∀ d, r.lookup d = none) ↔ r.isEmpty = true) := by
  have hs := h.sound
  exact ⟨hs.lookup_eq_exact_iff, hs.lookup_eq_broader_iff_ancestor,
    hs.lookup_eq_none_iff_ancestor, hs.isSome_lookup, hs.forall_lookup_eq_none_iff⟩

/-- Under a diamond the entry bound first serves, though another stands nearer. An entry of the own
name serves even behind it, and a descriptor with no bound name in its tree is not served. -/
theorem Reachable.lookup_resolves_diamond :
    let quiet : Supplier := .always (.error (.plain "closed"))
    let screen : Descriptor := .root "screen"
    let editor : Descriptor := ⟨"editor", [screen]⟩
    let viewer : Descriptor := ⟨"viewer", [screen]⟩
    let panel : Descriptor := ⟨"panel", [editor, viewer]⟩
    let r : Registry :=
      ⟨[⟨screen, "", quiet⟩, ⟨viewer, "", quiet⟩], ⟨[("screen", 0), ("viewer", 1)]⟩⟩
    Reachable ⟨[]⟩ r ∧
      r.lookup panel = some (⟨screen, "", quiet⟩, .broader) ∧
      r.lookup viewer = some (⟨viewer, "", quiet⟩, .exact) ∧
      r.lookup (.root "editor") = none := by
  intro quiet screen editor viewer panel r
  have h : Reachable ⟨[]⟩ r := .built [.bind screen quiet, .bind viewer quiet] rfl
  obtain ⟨hexact, hbroader, hnone, -⟩ := h.lookup_resolves
  have habove : Ancestor screen panel :=
    .further (show editor ∈ panel.refines by simp [panel]) (.parent (by simp [editor]))
  refine ⟨h, ?_, (hexact viewer _).mpr ⟨by simp [r], rfl⟩, ?_⟩
  · rw [hbroader]
    refine ⟨by decide, [], [⟨viewer, "", quiet⟩], rfl, ⟨screen, habove, rfl⟩, ?_⟩
    intro f hf
    cases hf
  · rw [hnone]
    intro e he
    rw [← Descriptor.mem_ancestorNames_iff]
    revert e
    decide

end StateHolders.Registry
