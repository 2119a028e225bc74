import Mathlib.Data.List.Nodup
import StateHolders.Registry.Builder

/-!
# What building a registry guarantees

Building goes through the entries once, and keeps an index that is exact for the names seen so
far. It succeeds exactly if no name is bound twice; the registry then has the entries of the
builder, in their order, and an exact index. Otherwise the error names the entry at the first
position that repeats an earlier name.
-/

namespace StateHolders

/-! ## Exact indices -/

namespace Index

/-- The index gives each of the names its position, and finds nothing else. -/
def Exact (i : Index) (names : List String) : Prop :=
  ∀ name position, i.get? name = some position ↔ names[position]? = some name

variable {i : Index} {names : List String}

theorem exact_empty : Index.empty.Exact [] := by
  intro name position
  simp

/-- The keys of an exact index are the names. -/
theorem Exact.contains_iff (h : i.Exact names) (name : String) :
    i.contains name = true ↔ name ∈ names := by
  rw [contains, Option.isSome_iff_exists, List.mem_iff_getElem?]
  exact exists_congr fun position => h name position

/-- No index is exact for names that repeat. -/
theorem Exact.nodup (h : i.Exact names) : names.Nodup := by
  rw [List.nodup_iff_getElem?_ne_getElem?]
  intro j k hjk hk heq
  have hname : names[k]? = some names[k] := List.getElem?_eq_getElem hk
  have hj := (h names[k] j).mpr (heq.trans hname)
  have hk' := (h names[k] k).mpr hname
  rw [hj] at hk'
  have := Option.some.inj hk'
  omega

/-- Inserting a new name at the position after the others keeps the index exact. -/
theorem Exact.insert (h : i.Exact names) {name : String} (hn : name ∉ names) :
    (i.insert name names.length).Exact (names ++ [name]) := by
  intro other position
  rw [get?_insert]
  by_cases heq : name = other
  · subst heq
    rw [if_pos rfl]
    constructor
    · intro hp
      rw [← Option.some.inj hp, List.getElem?_concat_length]
    · intro hp
      have hlt : ¬position < names.length := by
        intro hlt
        rw [List.getElem?_append_left hlt] at hp
        exact hn (List.mem_of_getElem? hp)
      have hle := (List.getElem?_eq_some_iff.mp hp).1
      rw [List.length_append, List.length_singleton] at hle
      rw [show position = names.length by omega]
  · rw [if_neg heq, h other position]
    by_cases hlt : position < names.length
    · rw [List.getElem?_append_left hlt]
    · rw [List.getElem?_append_right (by omega), List.getElem?_eq_none (by omega)]
      constructor
      · intro hp
        cases hp
      · intro hp
        exact absurd (List.mem_singleton.mp (List.mem_of_getElem? hp)).symm heq

end Index

/-! ## Repeated names -/

/-- Position `j` has a name that an earlier position has, too. -/
def RepeatsAt (names : List String) (j : Nat) : Prop :=
  ∃ name, names[j]? = some name ∧ ∃ i < j, names[i]? = some name

/-- Position `j` is the first that repeats an earlier name, and `name` is what it repeats. -/
structure FirstRepeat (names : List String) (j : Nat) (name : String) : Prop where
  /-- What the position repeats. -/
  named : names[j]? = some name
  /-- An earlier position has the same name. -/
  repeated : ∃ i < j, names[i]? = some name
  /-- No position before repeats anything. -/
  least : ∀ k < j, ¬RepeatsAt names k

theorem nodup_iff_not_repeatsAt (names : List String) :
    names.Nodup ↔ ∀ j, ¬RepeatsAt names j := by
  rw [List.nodup_iff_getElem?_ne_getElem?]
  constructor
  · rintro h j ⟨name, hj, i, hij, hi⟩
    exact h i j hij (List.getElem?_eq_some_iff.mp hj).1 (hi.trans hj.symm)
  · intro h i j hij hj heq
    have hname : names[j]? = some names[j] := List.getElem?_eq_getElem hj
    exact h j ⟨names[j], hname, i, hij, heq.trans hname⟩

namespace FirstRepeat

variable {names : List String} {j k : Nat} {name other : String}

theorem repeatsAt (h : FirstRepeat names j name) : RepeatsAt names j :=
  ⟨name, h.named, h.repeated⟩

theorem not_nodup (h : FirstRepeat names j name) : ¬names.Nodup := fun hn =>
  (nodup_iff_not_repeatsAt names).mp hn j h.repeatsAt

/-- There is only one first repeat. -/
theorem name_unique (h : FirstRepeat names j name) (h' : FirstRepeat names k other) :
    name = other := by
  have hjk : j = k := by
    have hle : ¬j < k := fun hlt => h'.least j hlt h.repeatsAt
    have hge : ¬k < j := fun hlt => h.least k hlt h'.repeatsAt
    omega
  subst hjk
  exact Option.some.inj (h.named.symm.trans h'.named)

/-- After distinct names, one of them is the first repeat. -/
theorem of_append {before after : List String} (hb : before.Nodup) (hn : name ∈ before) :
    FirstRepeat (before ++ name :: after) before.length name where
  named := by simp
  repeated := by
    obtain ⟨i, hi, hname⟩ := List.mem_iff_getElem.mp hn
    refine ⟨i, hi, ?_⟩
    rw [List.getElem?_append_left hi, List.getElem?_eq_getElem hi, hname]
  least := by
    rintro k hk ⟨repeated, hk', i, hik, hi⟩
    rw [List.getElem?_append_left hk] at hk'
    rw [List.getElem?_append_left (by omega)] at hi
    exact (nodup_iff_not_repeatsAt before).mp hb k ⟨repeated, hk', i, hik, hi⟩

end FirstRepeat

/-! ## Building -/

namespace Builder

/-- The loop either ends with an exact index of all names, or stops at the first repeat. -/
theorem indexFrom_exact_or_firstRepeat {index : Index} {before : List String}
    (h : index.Exact before) (entries : List Entry) :
    (∃ final, indexFrom before.length index entries = .ok final ∧
      final.Exact (before ++ entries.map Entry.name)) ∨
    ∃ j name, indexFrom before.length index entries = .error (.duplicateBinding name) ∧
      FirstRepeat (before ++ entries.map Entry.name) j name := by
  induction entries generalizing index before with
  | nil => exact Or.inl ⟨index, rfl, by simpa using h⟩
  | cons e rest ih =>
    by_cases hc : index.contains e.name = true
    · have hmem := (h.contains_iff e.name).mp hc
      refine Or.inr ⟨before.length, e.name, ?_, ?_⟩
      · rw [indexFrom, if_pos hc]
      · exact FirstRepeat.of_append h.nodup hmem
    · have hmem : e.name ∉ before := fun hm => hc ((h.contains_iff e.name).mpr hm)
      have hrest := ih (h.insert hmem)
      rw [List.length_append, List.length_singleton, List.append_assoc] at hrest
      rw [indexFrom, if_neg hc]
      exact hrest

/-- What comes of building: the entries with an exact index, or the error for the first repeat. -/
theorem build_cases (b : Builder) :
    (∃ index, b.build = .ok ⟨b.entries, index⟩ ∧ index.Exact (b.entries.map Entry.name)) ∨
    ∃ j name, b.build = .error (.duplicateBinding name) ∧
      FirstRepeat (b.entries.map Entry.name) j name := by
  rcases indexFrom_exact_or_firstRepeat Index.exact_empty b.entries with
    ⟨index, hi, hx⟩ | ⟨j, name, hi, hr⟩
  · rw [List.length_nil] at hi
    exact Or.inl ⟨index, by rw [build, hi], hx⟩
  · rw [List.length_nil] at hi
    exact Or.inr ⟨j, name, by rw [build, hi], hr⟩

variable {b : Builder} {r : Registry}

/-- A registry has the entries of its builder, in their order. -/
theorem entries_of_build (h : b.build = .ok r) : r.entries = b.entries := by
  rcases b.build_cases with ⟨index, hb, -⟩ | ⟨j, name, hb, -⟩
  · rw [hb] at h
    rw [← Except.ok.inj h]
  · rw [hb] at h
    cases h

/-- Building succeeds exactly if no name is bound twice. -/
theorem exists_build_eq_ok_iff (b : Builder) :
    (∃ r, b.build = .ok r) ↔ (b.entries.map Entry.name).Nodup := by
  rcases b.build_cases with ⟨index, hb, hx⟩ | ⟨j, name, hb, hr⟩
  · exact ⟨fun _ => hx.nodup, fun _ => ⟨_, hb⟩⟩
  · constructor
    · rintro ⟨r, h⟩
      rw [hb] at h
      cases h
    · intro hn
      exact absurd hn hr.not_nodup

/-- Building fails exactly with the error for the first repeat. -/
theorem build_eq_error_iff (b : Builder) (e : Error) :
    b.build = .error e ↔
      ∃ j name, FirstRepeat (b.entries.map Entry.name) j name ∧ e = .duplicateBinding name := by
  rcases b.build_cases with ⟨index, hb, hx⟩ | ⟨j, name, hb, hr⟩
  · constructor
    · intro h
      rw [hb] at h
      cases h
    · rintro ⟨j, name, hr, -⟩
      exact absurd hx.nodup hr.not_nodup
  · constructor
    · intro h
      rw [hb] at h
      exact ⟨j, name, hr, (Except.error.inj h).symm⟩
    · rintro ⟨k, other, hr', rfl⟩
      rw [hb, hr.name_unique hr']

/-- Whatever steps fill a builder, its entries are what the steps add, one step after the other,
and it counts them all. Building succeeds exactly if no two entries have one name, whatever else
they hold, and then keeps them as they are. Otherwise it fails with a configuration error that has
no cause and names the entry at the first position that repeats an earlier name. -/
theorem build_names_first_repeat (c : Catalogue) (steps : List Operation) :
    let entries := steps.flatMap (Operation.contribution c)
    let b := empty.applyAll c steps
    b.entries = entries ∧
    b.size = entries.length ∧
    ((∃ r, b.build = .ok r) ↔ entries.Pairwise fun e f => e.name ≠ f.name) ∧
    (∀ r, b.build = .ok r → r.entries = entries) ∧
    ∀ e, b.build = .error e ↔ ∃ j name, FirstRepeat (entries.map Entry.name) j name ∧
      e = .configuration ("state holder type '" ++ name ++ "' is bound more than once") none := by
  intro entries b
  have hentries : b.entries = entries := by
    rw [entries_applyAll, entries_empty, List.nil_append]
  refine ⟨hentries, ?_, ?_, fun r h => (entries_of_build h).trans hentries, fun e => ?_⟩
  · rw [size, hentries]
  · rw [exists_build_eq_ok_iff, hentries, List.Nodup, List.pairwise_map]
  · rw [build_eq_error_iff, hentries]
    rfl

/-- Discovery that is repeated collides with itself, but the name that was bound a second time
before is the one that the error names. What is kept of the offers collides with nothing. -/
theorem build_names_first_repeat_of_second_discovery :
    let quiet : Supplier := .always (.error (.plain "closed"))
    let null : Entry := ⟨.root "null", "Does nothing", quiet⟩
    let c : Catalogue := ⟨[null]⟩
    let screen : Operation := .bind (.root "screen") quiet
    let narrow : Operation := .bindDescribed ⟨"screen", [.root "state_holder"]⟩ "Narrow" quiet
    let twice := empty.applyAll c [screen, .discover, narrow, .discover]
    let once := empty.applyAll c [screen, .discover, .discoverFiltered fun e => e.name != "null"]
    twice.size = 4 ∧
      twice.build =
        .error (.configuration "state holder type 'screen' is bound more than once" none) ∧
      ∃ r, once.build = .ok r ∧ r.entries = [⟨.root "screen", "", quiet⟩, null] := by
  intro quiet null c screen narrow twice once
  have hsorted : c.sorted = [null] := List.mergeSort_singleton _
  obtain ⟨-, hsize, -, -, herror⟩ :=
    build_names_first_repeat c [screen, .discover, narrow, .discover]
  obtain ⟨-, -, hok, hkept, -⟩ :=
    build_names_first_repeat c [screen, .discover, .discoverFiltered fun e => e.name != "null"]
  simp only [List.flatMap_cons, Operation.contribution, kept, hsorted]
    at hsize herror hok hkept
  have hrepeat : FirstRepeat (["screen", "null"] ++ "screen" :: ["null"]) 2 "screen" :=
    .of_append (by decide) (by decide)
  obtain ⟨r, h⟩ := hok.mpr (by decide)
  exact ⟨hsize, (herror _).mpr ⟨2, "screen", hrepeat, rfl⟩, r, h, hkept r h⟩

end Builder

end StateHolders
