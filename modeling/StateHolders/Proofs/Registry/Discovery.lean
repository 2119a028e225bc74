import StateHolders.Proofs.Registry.Construction

/-!
# Discovery does not depend on the order of the offers

The holders on offer come in an order that nothing fixes. Sorting by name settles it, except for
holders of one name, which stay as they came. Such holders never reach a registry together: if
two of them are kept, building fails, and the error depends on the sorted names alone.
-/

namespace StateHolders

namespace Builder

variable {c c' : Catalogue}

theorem kept_perm (h : c.offers.Perm c'.offers) (keep : Entry → Bool) :
    (kept keep c).Perm (kept keep c') :=
  (c.sorted_perm.trans (h.trans c'.sorted_perm.symm)).filter keep

theorem pairwise_kept (keep : Entry → Bool) (c : Catalogue) :
    (kept keep c).Pairwise fun a b => Text.precedes a.name b.name = true :=
  c.pairwise_sorted.filter keep

/-- The names that are kept come in one order, repeated or not. -/
theorem map_name_kept (h : c.offers.Perm c'.offers) (keep : Entry → Bool) :
    (kept keep c).map Entry.name = (kept keep c').map Entry.name := by
  have hsorted (c : Catalogue) :
      ((kept keep c).map Entry.name).Pairwise fun a b => Text.precedes a b = true :=
    List.pairwise_map.mpr (pairwise_kept keep c)
  exact ((kept_perm h keep).map Entry.name).eq_of_pairwise
    (fun _ _ _ _ => Text.precedes_antisymm) (hsorted c) (hsorted c')

/-- If no name is kept twice, the holders themselves come in one order. -/
theorem kept_eq_of_nodup (h : c.offers.Perm c'.offers) {keep : Entry → Bool}
    (hn : ((kept keep c).map Entry.name).Nodup) : kept keep c = kept keep c' := by
  have hperm := kept_perm h keep
  refine hperm.eq_of_pairwise ?_ (pairwise_kept keep c) (pairwise_kept keep c')
  intro a b ha hb hab hba
  exact List.inj_on_of_nodup_map hn ha (hperm.mem_iff.mpr hb) (Text.precedes_antisymm hab hba)

/-- What building fails with depends on the names alone. -/
theorem build_eq_error_congr {b b' : Builder}
    (h : b.entries.map Entry.name = b'.entries.map Entry.name) (e : Error) :
    b.build = .error e ↔ b'.build = .error e := by
  rw [build_eq_error_iff, build_eq_error_iff, h]

/-- After discovery among the same offers in two orders, building gives one registry, or fails
with one error. -/
theorem build_discoverFiltered_perm (h : c.offers.Perm c'.offers) (b : Builder)
    (keep : Entry → Bool) :
    (∃ r, (b.discoverFiltered keep c).build = .ok r ∧
      (b.discoverFiltered keep c').build = .ok r) ∨
    ∃ name, (b.discoverFiltered keep c).build = .error (.duplicateBinding name) ∧
      (b.discoverFiltered keep c').build = .error (.duplicateBinding name) := by
  rcases (b.discoverFiltered keep c).build_cases with ⟨index, hb, hx⟩ | ⟨j, name, hb, -⟩
  · have hn : ((kept keep c).map Entry.name).Nodup := by
      have hall := hx.nodup
      rw [entries_discoverFiltered, List.map_append] at hall
      exact (List.nodup_append.mp hall).2.1
    refine Or.inl ⟨_, hb, ?_⟩
    rw [← hb, discoverFiltered, discoverFiltered, kept_eq_of_nodup h hn]
  · refine Or.inr ⟨name, hb, (build_eq_error_congr ?_ _).mp hb⟩
    rw [entries_discoverFiltered, entries_discoverFiltered, List.map_append, List.map_append,
      map_name_kept h]

end Builder

/-- If no name is on offer twice, the listing is the same for every order of the offers. -/
theorem Catalogue.listing_perm {c c' : Catalogue} (h : c.offers.Perm c'.offers)
    (hn : (c.offers.map Entry.name).Nodup) : c.listing = c'.listing := by
  have hall (c : Catalogue) : Builder.kept (fun _ => true) c = c.sorted :=
    List.filter_eq_self.mpr fun _ _ => rfl
  have hsorted : c.sorted = c'.sorted := by
    rw [← hall c, ← hall c']
    refine Builder.kept_eq_of_nodup h ?_
    rw [hall]
    exact ((c.sorted_perm.map Entry.name).nodup_iff).mpr hn
  rw [listing, listing, hsorted]

/-- The same offers in two orders lead to one outcome after any explicit bindings and under any
choice of what is kept: one registry, with its entries, its look-ups and what it creates, or one
error for a name that is bound twice. The offers are listed in ascending order of the bytes of
their names, those of one name as they came; without a repeated name the listing is the same for
both orders. -/
theorem Catalogue.discovery_ignores_order {c c' : Catalogue} (h : c.offers.Perm c'.offers) :
    (∀ (b : Builder) (keep : Entry → Bool),
      (∃ r, (b.discoverFiltered keep c).build = .ok r ∧
        (b.discoverFiltered keep c').build = .ok r) ∨
      ∃ name, (b.discoverFiltered keep c).build = .error (.duplicateBinding name) ∧
        (b.discoverFiltered keep c').build = .error (.duplicateBinding name)) ∧
    c.sorted.Perm c.offers ∧
    c.sorted.Pairwise (fun a b => Text.utf8 a.name ≤ Text.utf8 b.name) ∧
    (∀ name, c.sorted.filter (fun e => e.name == name) =
      c.offers.filter fun e => e.name == name) ∧
    ((c.offers.map Entry.name).Nodup → c.listing = c'.listing) := by
  exact ⟨Builder.build_discoverFiltered_perm h, c.sorted_perm, c.pairwise_le_sorted,
    c.filter_name_sorted, c.listing_perm h⟩

/-- Two holders of one name, offered in either order: whoever keeps only one of them gets one
registry, and whoever keeps both gets one error. -/
theorem Catalogue.discovery_ignores_order_of_two_screens :
    let quiet : Supplier := .always (.error (.plain "closed"))
    let alpha : Entry := ⟨.root "alpha", "Panel", quiet⟩
    let old : Entry := ⟨.root "screen", "Old screen", quiet⟩
    let new : Entry := ⟨.root "screen", "New screen", quiet⟩
    let c : Catalogue := ⟨[alpha, old, new]⟩
    let c' : Catalogue := ⟨[new, old, alpha]⟩
    let explicit := Builder.empty.bind (.root "editor") quiet
    let current := fun e : Entry => e.description != "Old screen"
    c.offers.Perm c'.offers ∧
      (∃ r, (explicit.discoverFiltered current c).build = .ok r ∧
        (explicit.discoverFiltered current c').build = .ok r ∧
        r.entries.map Entry.description = ["", "Panel", "New screen"]) ∧
      (explicit.discover c).build = .error (.duplicateBinding "screen") ∧
      (explicit.discover c').build = .error (.duplicateBinding "screen") := by
  intro quiet alpha old new c c' explicit current
  have hperm : c.offers.Perm c'.offers := List.reverse_perm [new, old, alpha]
  have hsorted : c.sorted = [alpha, old, new] :=
    List.mergeSort_of_pairwise (by decide)
  obtain ⟨hbuild, -⟩ := Catalogue.discovery_ignores_order hperm
  refine ⟨hperm, ?_, ?_⟩
  · have hentries : (explicit.discoverFiltered current c).entries =
        explicit.entries ++ [alpha, new] := by
      rw [Builder.entries_discoverFiltered, Builder.kept, hsorted]
      rfl
    rcases hbuild explicit current with ⟨r, hr, hr'⟩ | ⟨name, hr, -⟩
    · exact ⟨r, hr, hr', by rw [Builder.entries_of_build hr, hentries]; rfl⟩
    · rw [Builder.build, hentries] at hr
      cases hr
  · have herror : (explicit.discover c).build = .error (.duplicateBinding "screen") := by
      rw [Builder.build, Builder.entries_discover, hsorted]
      rfl
    rcases hbuild explicit fun _ => true with ⟨r, hr, -⟩ | ⟨name, hr, hr'⟩
    · cases hr.symm.trans herror
    · exact ⟨herror, hr'.trans (hr.symm.trans herror)⟩

end StateHolders
