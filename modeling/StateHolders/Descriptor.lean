import StateHolders.Text.Shape

/-!
# Descriptors

A descriptor is a name together with the broader descriptors that it refines. Descriptors are
compared by name alone, so two of them can be equal and refine different things. `satisfies`
searches the tree of refinements, and `satisfies_iff_mem_names` says that it finds exactly the
names that occur in it.
-/

namespace StateHolders

/-- A named kind of state holder and the kinds that it refines. -/
structure Descriptor where
  /-- The name that identifies the kind. -/
  name : String
  /-- The broader kinds, in the order of declaration. -/
  refines : List Descriptor

namespace Descriptor

/-- Descriptors are compared by name. -/
instance : BEq Descriptor := ⟨fun a b => a.name == b.name⟩

theorem beq_iff_name_eq (a b : Descriptor) : (a == b) = true ↔ a.name = b.name := by
  change (a.name == b.name) = true ↔ _
  exact beq_iff_eq

/-- A descriptor that refines nothing. -/
def root (name : String) : Descriptor := ⟨name, []⟩

mutual

/-- Whether the descriptor or one that it refines, at any depth, equals `broader`. -/
def satisfies : Descriptor → (broader : Descriptor) → Bool
  | ⟨name, parents⟩, broader => name == broader.name || anySatisfies parents broader

/-- Whether one of the descriptors satisfies `broader`. -/
def anySatisfies : List Descriptor → (broader : Descriptor) → Bool
  | [], _ => false
  | d :: rest, broader => satisfies d broader || anySatisfies rest broader

end

mutual

/-- The names in the tree of refinements, the descriptor's own name first. -/
def names : Descriptor → List String
  | ⟨name, parents⟩ => name :: namesAll parents

/-- The names in the trees of several descriptors. -/
def namesAll : List Descriptor → List String
  | [] => []
  | d :: rest => names d ++ namesAll rest

end

/-- The names in the trees of the descriptors that `d` refines. -/
def ancestorNames (d : Descriptor) : List String := namesAll d.refines

theorem names_eq (d : Descriptor) : d.names = d.name :: d.ancestorNames := by
  cases d
  simp [names, ancestorNames]

mutual

/-- Satisfaction is membership in the tree of names. -/
theorem satisfies_iff_mem_names (d broader : Descriptor) :
    d.satisfies broader = true ↔ broader.name ∈ d.names := by
  cases d with
  | mk name parents =>
    simp only [satisfies, names, Bool.or_eq_true, beq_iff_eq, List.mem_cons,
      anySatisfies_iff_mem_namesAll parents broader]
    exact or_congr eq_comm Iff.rfl

/-- One of several descriptors satisfies a name exactly if it occurs in one of their trees. -/
theorem anySatisfies_iff_mem_namesAll (ds : List Descriptor) (broader : Descriptor) :
    anySatisfies ds broader = true ↔ broader.name ∈ namesAll ds := by
  cases ds with
  | nil => simp [anySatisfies, namesAll]
  | cons d rest =>
    simp only [anySatisfies, namesAll, Bool.or_eq_true, List.mem_append,
      satisfies_iff_mem_names d broader, anySatisfies_iff_mem_namesAll rest broader]

end

/-! ## Ancestors

The ancestors of a descriptor are the broader descriptors in its tree, whatever their names. -/

/-- `Ancestor a d` says that `d` refines `a`, directly or through others. -/
inductive Ancestor : Descriptor → Descriptor → Prop where
  /-- A direct parent. -/
  | parent {a d : Descriptor} (h : a ∈ d.refines) : Ancestor a d
  /-- An ancestor of a direct parent. -/
  | further {a p d : Descriptor} (hp : p ∈ d.refines) (h : Ancestor a p) : Ancestor a d

theorem mem_namesAll_iff (ds : List Descriptor) (name : String) :
    name ∈ namesAll ds ↔ ∃ d ∈ ds, name ∈ d.names := by
  induction ds with
  | nil => simp [namesAll]
  | cons d rest ih => simp [namesAll, ih]

mutual

/-- Each name in a tree is the one of its descriptor or of an ancestor. -/
theorem exists_of_mem_names {name : String} :
    (d : Descriptor) → name ∈ d.names → name = d.name ∨ ∃ a, Ancestor a d ∧ a.name = name
  | ⟨own, parents⟩, h => by
    rw [names, List.mem_cons] at h
    rcases h with h | h
    · exact Or.inl h
    · obtain ⟨p, hp, h⟩ := exists_of_mem_namesAll parents h
      rcases h with h | ⟨a, ha, hn⟩
      · exact Or.inr ⟨p, .parent hp, h.symm⟩
      · exact Or.inr ⟨a, .further hp ha, hn⟩

/-- Each name in several trees is the one of a descriptor at their roots or of its ancestor. -/
theorem exists_of_mem_namesAll {name : String} :
    (ds : List Descriptor) → name ∈ namesAll ds →
      ∃ d ∈ ds, name = d.name ∨ ∃ a, Ancestor a d ∧ a.name = name
  | [], h => absurd h List.not_mem_nil
  | d :: rest, h => by
    rw [namesAll, List.mem_append] at h
    rcases h with h | h
    · exact ⟨d, List.mem_cons_self, exists_of_mem_names d h⟩
    · obtain ⟨p, hp, h⟩ := exists_of_mem_namesAll rest h
      exact ⟨p, List.mem_cons_of_mem d hp, h⟩

end

/-- The name of an ancestor stands among the names above a descriptor. -/
theorem Ancestor.name_mem {a d : Descriptor} (h : Ancestor a d) : a.name ∈ d.ancestorNames := by
  induction h with
  | parent h =>
    exact (mem_namesAll_iff _ _).mpr ⟨_, h, by rw [names_eq]; exact List.mem_cons_self⟩
  | further hp _ ih =>
    exact (mem_namesAll_iff _ _).mpr ⟨_, hp, by rw [names_eq]; exact List.mem_cons_of_mem _ ih⟩

/-- The names above a descriptor are those of its ancestors. -/
theorem mem_ancestorNames_iff (d : Descriptor) (name : String) :
    name ∈ d.ancestorNames ↔ ∃ a, Ancestor a d ∧ a.name = name := by
  constructor
  · intro h
    obtain ⟨p, hp, h⟩ := exists_of_mem_namesAll d.refines h
    rcases h with h | ⟨a, ha, hn⟩
    · exact ⟨p, .parent hp, h.symm⟩
    · exact ⟨a, .further hp ha, hn⟩
  · rintro ⟨a, ha, rfl⟩
    exact ha.name_mem

/-- A descriptor satisfies its own name and those of its ancestors, and no other. -/
theorem satisfies_iff_ancestor (d broader : Descriptor) :
    d.satisfies broader = true ↔
      broader.name = d.name ∨ ∃ a, Ancestor a d ∧ a.name = broader.name := by
  rw [satisfies_iff_mem_names, names_eq, List.mem_cons, mem_ancestorNames_iff]

/-- How diagnostics show a descriptor: its name and the names of its direct parents. -/
def shape (d : Descriptor) : Text.Shape :=
  .record "Descriptor"
    [.labelled "name" (.text d.name),
      .labelled "refines" (.list (d.refines.map fun p => .text p.name))] true

end Descriptor

end StateHolders
