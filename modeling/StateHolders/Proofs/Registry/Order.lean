import StateHolders.Proofs.Registry.Resolution

/-!
# What the order of bindings decides

An exact match is found wherever its entry stands. A broader match is the first entry that fits, so
of two lists of bindings, one after the other, the first list decides, and the second one only
takes over what the first does not serve, or what it names itself. In another order of the same
bindings all is as before but which of several broader entries serves a request.
-/

namespace StateHolders.Registry

variable {r x y : Registry}

/-! ## Bindings after bindings -/

/-- The bindings of `r` are those of `x` and after them those of `y`. -/
structure Appends (r x y : Registry) : Prop where
  /-- The registry of all bindings is sound. -/
  sound : r.Sound
  /-- So is that of the first ones. -/
  sound_first : x.Sound
  /-- So is that of the others. -/
  sound_second : y.Sound
  /-- The entries stand one after the other. -/
  entries : r.entries = x.entries ++ y.entries

namespace Appends

/-- Both parts of a list of bindings build if the whole does. -/
theorem exists_of_build {first second : List Entry}
    (h : (Builder.mk (first ++ second)).build = .ok r) :
    ∃ x y, (Builder.mk first).build = .ok x ∧ (Builder.mk second).build = .ok y ∧
      Appends r x y := by
  have hnodup := (Builder.mk (first ++ second)).exists_build_eq_ok_iff.mp ⟨r, h⟩
  rw [List.map_append, List.nodup_append] at hnodup
  obtain ⟨hfirst, hsecond, -⟩ := hnodup
  obtain ⟨x, hx⟩ := (Builder.mk first).exists_build_eq_ok_iff.mpr hfirst
  obtain ⟨y, hy⟩ := (Builder.mk second).exists_build_eq_ok_iff.mpr hsecond
  refine ⟨x, y, hx, hy, sound_of_build h, sound_of_build hx, sound_of_build hy, ?_⟩
  rw [Builder.entries_of_build h, Builder.entries_of_build hx, Builder.entries_of_build hy]

/-- The scan goes through the second part after the first one. -/
theorem findBroader_eq (h : Appends r x y) (d : Descriptor) :
    r.findBroader d = (x.findBroader d).or (y.findBroader d) := by
  rw [findBroader, h.entries, List.find?_append, findBroader, findBroader]

/-- The index finds the name in whichever part binds it. -/
theorem findExact_eq (h : Appends r x y) (d : Descriptor) :
    r.findExact d = (x.findExact d).or (y.findExact d) := by
  rw [h.sound.findExact_eq_find?, h.sound_first.findExact_eq_find?,
    h.sound_second.findExact_eq_find?, h.entries, List.find?_append]

/-- No name is bound in both parts. -/
theorem name_ne (h : Appends r x y) : ∀ e ∈ x.entries, ∀ f ∈ y.entries, e.name ≠ f.name := by
  have hnodup := h.sound.nodup_names
  rw [h.entries, List.map_append, List.nodup_append] at hnodup
  intro e he f hf
  exact hnodup.2.2 _ (List.mem_map_of_mem he) _ (List.mem_map_of_mem hf)

theorem findExact_second_eq_none (h : Appends r x y) {d : Descriptor} {e : Entry}
    (he : x.findExact d = some e) : y.findExact d = none := by
  obtain ⟨hmem, hname⟩ := (h.sound_first.findExact_eq_some_iff d e).mp he
  rw [h.sound_second.findExact_eq_none_iff]
  exact fun f hf hfname => h.name_ne e hmem f hf (hname.trans hfname.symm)

/-- An exact match in either part is the match in the whole. -/
theorem lookup_eq_exact (h : Appends r x y) {d : Descriptor} {e : Entry}
    (he : x.lookup d = some (e, .exact) ∨ y.lookup d = some (e, .exact)) :
    r.lookup d = some (e, .exact) := by
  rw [lookup_eq_exact_iff_findExact, lookup_eq_exact_iff_findExact] at he
  rw [lookup_eq_exact_iff_findExact, h.findExact_eq]
  rcases he with hx | hy
  · rw [hx, Option.some_or]
  · cases hx : x.findExact d with
    | none => rw [hy, Option.none_or]
    | some f =>
      rw [h.findExact_second_eq_none hx] at hy
      cases hy

/-- Without an exact match the first part decides if it serves the request, and else the second. -/
theorem lookup_eq_or (h : Appends r x y) {d : Descriptor}
    (hne : ∀ e, x.lookup d ≠ some (e, .exact) ∧ y.lookup d ≠ some (e, .exact)) :
    r.lookup d = (x.lookup d).or (y.lookup d) := by
  have hx := findExact_eq_none_of_lookup fun e => (hne e).1
  have hy := findExact_eq_none_of_lookup fun e => (hne e).2
  have hr : r.findExact d = none := by rw [h.findExact_eq, hx, hy, Option.none_or]
  rw [lookup_of_findExact_eq_none hx, lookup_of_findExact_eq_none hy,
    lookup_of_findExact_eq_none hr, h.findBroader_eq, Option.map_or]

/-- Further bindings leave no request unserved that was served. -/
theorem isSome_lookup (h : Appends r x y) {d : Descriptor} (hx : (x.lookup d).isSome = true) :
    (r.lookup d).isSome = true := by
  obtain ⟨e, he, hname⟩ := (h.sound_first.isSome_lookup_iff d).mp hx
  refine (h.sound.isSome_lookup_iff d).mpr ⟨e, ?_, hname⟩
  rw [h.entries]
  exact List.mem_append_left _ he

/-- Further bindings change a broader match exactly if they bind what was asked for. -/
theorem lookup_ne_iff_of_broader (h : Appends r x y) {d : Descriptor} {e : Entry}
    (he : x.lookup d = some (e, .broader)) :
    r.lookup d ≠ x.lookup d ↔ ∃ f ∈ y.entries, f.name = d.name := by
  constructor
  · intro hne
    by_contra hnone
    refine hne ?_
    have hy (f : Entry) : y.lookup d ≠ some (f, .exact) := by
      rw [ne_eq, h.sound_second.lookup_eq_exact_iff]
      exact fun hf => hnone ⟨f, hf⟩
    rw [h.lookup_eq_or fun f => ⟨by simp [he], hy f⟩, he, Option.some_or]
  · rintro ⟨f, hf⟩
    have hexact := (h.sound_second.lookup_eq_exact_iff d f).mpr hf
    rw [h.lookup_eq_exact (Or.inr hexact), he]
    simp

end Appends

/-- If the bindings of two lists build together, so do those of each list. A look-up among all of
them has the exact match of either list, and only one of them can have one; without it, the first
list decides if it serves the request, and else the second. So the bindings that come after others
leave nothing unserved that was served, change no exact match, and change a broader match exactly
if one of them binds the very name that was asked for. -/
theorem lookup_of_appended_bindings {first second : List Entry}
    (h : (Builder.mk (first ++ second)).build = .ok r) :
    ∃ x y, (Builder.mk first).build = .ok x ∧ (Builder.mk second).build = .ok y ∧
      ∀ d : Descriptor,
        (∀ e f, x.lookup d = some (e, .exact) → y.lookup d ≠ some (f, .exact)) ∧
        (∀ e, x.lookup d = some (e, .exact) ∨ y.lookup d = some (e, .exact) →
          r.lookup d = some (e, .exact)) ∧
        ((∀ e, x.lookup d ≠ some (e, .exact) ∧ y.lookup d ≠ some (e, .exact)) →
          r.lookup d = (x.lookup d).or (y.lookup d)) ∧
        ((x.lookup d).isSome = true → (r.lookup d).isSome = true) ∧
        (∀ e, x.lookup d = some (e, .exact) → r.lookup d = x.lookup d) ∧
        ∀ e, x.lookup d = some (e, .broader) →
          (r.lookup d ≠ x.lookup d ↔ ∃ f ∈ second, f.name = d.name) := by
  obtain ⟨x, y, hx, hy, happends⟩ := Appends.exists_of_build h
  refine ⟨x, y, hx, hy, fun d => ⟨fun e f he hf => ?_, fun e => happends.lookup_eq_exact,
    happends.lookup_eq_or, happends.isSome_lookup, fun e he => ?_, fun e he => ?_⟩⟩
  · rw [lookup_eq_exact_iff_findExact] at he hf
    rw [happends.findExact_second_eq_none he] at hf
    cases hf
  · rw [happends.lookup_eq_exact (Or.inl he), he]
  · rw [happends.lookup_ne_iff_of_broader he, Builder.entries_of_build hy]

/-- After a screen, an editor and a stranger are bound: the editor is no longer served by the
screen, but a viewer still is, and the stranger is served now. -/
theorem lookup_of_appended_bindings_of_editor :
    let quiet : Supplier := .always (.error (.plain "closed"))
    let screen : Descriptor := .root "screen"
    let editor : Descriptor := ⟨"editor", [screen]⟩
    let viewer : Descriptor := ⟨"viewer", [screen]⟩
    let first : List Entry := [⟨screen, "", quiet⟩]
    let second : List Entry := [⟨editor, "", quiet⟩, ⟨.root "null", "", quiet⟩]
    ∃ x r, (Builder.mk first).build = .ok x ∧ (Builder.mk (first ++ second)).build = .ok r ∧
      x.lookup editor = some (⟨screen, "", quiet⟩, .broader) ∧
      r.lookup editor = some (⟨editor, "", quiet⟩, .exact) ∧
      r.lookup viewer = x.lookup viewer ∧ (r.lookup viewer).isSome = true ∧
      x.lookup (.root "null") = none ∧ (r.lookup (.root "null")).isSome = true := by
  intro quiet screen editor viewer first second
  have h : (Builder.mk (first ++ second)).build = .ok
      ⟨first ++ second, ⟨[("screen", 0), ("editor", 1), ("null", 2)]⟩⟩ := rfl
  obtain ⟨x, y, hx, hy, hlookup⟩ := lookup_of_appended_bindings h
  obtain rfl := Except.ok.inj hx
  obtain rfl := Except.ok.inj hy
  obtain ⟨-, hexact, -⟩ := hlookup editor
  obtain ⟨-, -, hneither, hserved, -⟩ := hlookup viewer
  obtain ⟨-, hnull, -⟩ := hlookup (.root "null")
  refine ⟨_, _, rfl, h, rfl, hexact _ (.inr rfl), hneither ?_, hserved rfl, rfl, ?_⟩
  · exact fun e => ⟨nofun, nofun⟩
  · rw [hnull _ (.inr rfl)]
    rfl

/-! ## The same bindings in another order -/

/-- What the scan finds is bound and fits. -/
theorem fits_of_findBroader {d : Descriptor} {e : Entry} (h : r.findBroader d = some e) :
    e ∈ r.entries ∧ d.satisfies e.descriptor = true := by
  obtain ⟨before, after, hsplit, hfits, -⟩ := (r.findBroader_eq_some_iff d e).mp h
  exact ⟨by simp [hsplit], hfits⟩

/-- If only one entry fits, the scan finds it, wherever it stands. -/
theorem findBroader_eq_some_iff_of_unique {d : Descriptor}
    (hone : ∀ e ∈ r.entries, ∀ f ∈ r.entries, d.satisfies e.descriptor = true →
      d.satisfies f.descriptor = true → e = f) (e : Entry) :
    r.findBroader d = some e ↔ e ∈ r.entries ∧ d.satisfies e.descriptor = true := by
  refine ⟨fits_of_findBroader, ?_⟩
  rintro ⟨he, hfits⟩
  obtain ⟨f, hfound⟩ : ∃ f, r.findBroader d = some f := by
    rw [← Option.isSome_iff_exists, findBroader, List.find?_isSome]
    exact ⟨e, he, hfits⟩
  obtain ⟨hf, hffits⟩ := fits_of_findBroader hfound
  rw [hfound, hone e he f hf hfits hffits]

/-- The registries `r` and `r'` have the same bindings, each in an order of its own. -/
structure Reorders (r r' : Registry) : Prop where
  /-- The first registry is sound. -/
  sound : r.Sound
  /-- So is the second. -/
  sound' : r'.Sound
  /-- They have the same entries. -/
  perm : r.entries.Perm r'.entries

namespace Reorders

variable {r' : Registry}

/-- The index finds the same entry. -/
theorem findExact_eq (h : Reorders r r') (d : Descriptor) : r.findExact d = r'.findExact d := by
  apply Option.ext
  intro e
  rw [h.sound.findExact_eq_some_iff, h.sound'.findExact_eq_some_iff, h.perm.mem_iff]

theorem contains_eq (h : Reorders r r') (d : Descriptor) : r.contains d = r'.contains d := by
  rw [h.sound.contains_eq_isSome_findExact, h.sound'.contains_eq_isSome_findExact, h.findExact_eq]

/-- The same requests are served. -/
theorem isSome_lookup_eq (h : Reorders r r') (d : Descriptor) :
    (r.lookup d).isSome = (r'.lookup d).isSome := by
  rw [Bool.eq_iff_iff, h.sound.isSome_lookup_iff, h.sound'.isSome_lookup_iff]
  exact exists_congr fun e => and_congr_left fun _ => h.perm.mem_iff

/-- A request is served in the same way, though maybe by another entry. -/
theorem map_snd_lookup_eq (h : Reorders r r') (d : Descriptor) :
    (r.lookup d).map Prod.snd = (r'.lookup d).map Prod.snd := by
  have hserved := h.isSome_lookup_eq d
  cases hexact : r.findExact d with
  | some e =>
    have hexact' := h.findExact_eq d ▸ hexact
    rw [lookup_of_findExact_eq_some hexact, lookup_of_findExact_eq_some hexact']
  | none =>
    have hexact' := h.findExact_eq d ▸ hexact
    have hkind (found : Option Entry) : (found.map (·, Match.broader)).map Prod.snd =
        if found.isSome then some .broader else none := by
      cases found with
      | none => rfl
      | some e => rfl
    rw [lookup_of_findExact_eq_none hexact, lookup_of_findExact_eq_none hexact',
      Option.isSome_map, Option.isSome_map] at hserved
    rw [lookup_of_findExact_eq_none hexact, lookup_of_findExact_eq_none hexact', hkind, hkind,
      hserved]

/-- If only one entry fits, it is found in either order. -/
theorem findBroader_eq_of_unique (h : Reorders r r') {d : Descriptor}
    (hone : ∀ e ∈ r.entries, ∀ f ∈ r.entries, d.satisfies e.descriptor = true →
      d.satisfies f.descriptor = true → e = f) : r.findBroader d = r'.findBroader d := by
  apply Option.ext
  intro e
  rw [findBroader_eq_some_iff_of_unique hone, findBroader_eq_some_iff_of_unique, h.perm.mem_iff]
  exact fun e he f hf => hone e (h.perm.mem_iff.mpr he) f (h.perm.mem_iff.mpr hf)

/-- If the name of only one ancestor is bound, the whole answer is the same. -/
theorem lookup_eq_of_unique (h : Reorders r r') {d : Descriptor}
    (hone : ∀ e ∈ r.entries, ∀ f ∈ r.entries, e.name ∈ d.ancestorNames →
      f.name ∈ d.ancestorNames → e.name = f.name) : r.lookup d = r'.lookup d := by
  cases hexact : r.findExact d with
  | some e =>
    have hexact' := h.findExact_eq d ▸ hexact
    rw [lookup_of_findExact_eq_some hexact, lookup_of_findExact_eq_some hexact']
  | none =>
    have hexact' := h.findExact_eq d ▸ hexact
    have hname := (h.sound.findExact_eq_none_iff d).mp hexact
    have hancestor {e : Entry} (he : e ∈ r.entries) (hfits : d.satisfies e.descriptor = true) :
        e.name ∈ d.ancestorNames := by
      rw [satisfies_iff_of_name_ne (hname e he)] at hfits
      exact (d.mem_ancestorNames_iff e.name).mpr hfits
    rw [lookup_of_findExact_eq_none hexact, lookup_of_findExact_eq_none hexact',
      h.findBroader_eq_of_unique]
    intro e he f hf hefits hffits
    exact h.sound.eq_of_name_eq he hf (hone e he f hf (hancestor he hefits) (hancestor hf hffits))

end Reorders

/-- Bindings build in every order or in none. In two orders of the same bindings the same names are
bound, to the same entries, the same requests are served, exactly or by a broader entry, and exact
matches are the same. If at most one name above the descriptor is bound, its own name aside, the
whole answer is the same. -/
theorem lookup_in_another_order {bindings bindings' : List Entry}
    (hperm : bindings.Perm bindings') :
    ((∃ r, (Builder.mk bindings).build = .ok r) ↔ ∃ r, (Builder.mk bindings').build = .ok r) ∧
    ∀ r r', (Builder.mk bindings).build = .ok r → (Builder.mk bindings').build = .ok r' →
      ∀ d : Descriptor,
        r.contains d = r'.contains d ∧
        r.findExact d = r'.findExact d ∧
        (r.lookup d = none ↔ r'.lookup d = none) ∧
        (r.lookup d).map Prod.snd = (r'.lookup d).map Prod.snd ∧
        (∀ e, r.lookup d = some (e, .exact) ↔ r'.lookup d = some (e, .exact)) ∧
        ((∀ e ∈ bindings, ∀ f ∈ bindings, e.name ∈ d.ancestorNames →
            f.name ∈ d.ancestorNames → e.name = f.name) →
          r.lookup d = r'.lookup d) := by
  refine ⟨?_, fun r r' hr hr' d => ?_⟩
  · rw [Builder.exists_build_eq_ok_iff, Builder.exists_build_eq_ok_iff]
    exact (hperm.map Entry.name).nodup_iff
  · have hentries : r.entries = bindings := Builder.entries_of_build hr
    have h : Reorders r r' := by
      refine ⟨sound_of_build hr, sound_of_build hr', ?_⟩
      rw [hentries, Builder.entries_of_build hr']
      exact hperm
    refine ⟨h.contains_eq d, h.findExact_eq d, ?_, h.map_snd_lookup_eq d, fun e => ?_,
      fun hone => ?_⟩
    · rw [← Option.isNone_iff_eq_none, ← Option.isNone_iff_eq_none, ← Option.not_isSome,
        ← Option.not_isSome, h.isSome_lookup_eq]
    · rw [lookup_eq_exact_iff_findExact, lookup_eq_exact_iff_findExact, h.findExact_eq]
    · rw [← hentries] at hone
      exact h.lookup_eq_of_unique hone

/-- A panel that refines an editor and a viewer is served by whichever of them is bound first. A
form that refines the editor alone is served by it in both orders. -/
theorem lookup_in_another_order_of_panel :
    let quiet : Supplier := .always (.error (.plain "closed"))
    let editor : Entry := ⟨.root "editor", "", quiet⟩
    let viewer : Entry := ⟨.root "viewer", "", quiet⟩
    let panel : Descriptor := ⟨"panel", [.root "editor", .root "viewer"]⟩
    let form : Descriptor := ⟨"form", [.root "editor", .root "editor"]⟩
    ∃ r r', (Builder.mk [editor, viewer]).build = .ok r ∧
      (Builder.mk [viewer, editor]).build = .ok r' ∧
      r.lookup form = some (editor, .broader) ∧ r'.lookup form = some (editor, .broader) ∧
      r.lookup panel = some (editor, .broader) ∧ r'.lookup panel = some (viewer, .broader) ∧
      (r.lookup panel).map Prod.snd = (r'.lookup panel).map Prod.snd := by
  intro quiet editor viewer panel form
  have hperm : [editor, viewer].Perm [viewer, editor] := .swap viewer editor []
  obtain ⟨hbuilds, hsame⟩ := lookup_in_another_order hperm
  obtain ⟨r', hr'⟩ := hbuilds.mp ⟨⟨_, ⟨[("editor", 0), ("viewer", 1)]⟩⟩, rfl⟩
  obtain ⟨-, -, -, -, -, hform⟩ := hsame _ r' rfl hr' form
  obtain ⟨-, -, -, hkind, -⟩ := hsame _ r' rfl hr' panel
  have hone : ∀ e ∈ [editor, viewer], ∀ f ∈ [editor, viewer], e.name ∈ form.ancestorNames →
      f.name ∈ form.ancestorNames → e.name = f.name := by decide
  refine ⟨_, r', rfl, hr', rfl, (hform hone).symm.trans rfl, rfl, ?_, hkind⟩
  obtain rfl := Except.ok.inj hr'
  rfl

end StateHolders.Registry
