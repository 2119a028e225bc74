import Mathlib.Data.Set.Basic
import StateHolders.Proofs.Registry.Resolution

/-!
# Refinement as an order

Satisfaction compares names but follows the parents that a descriptor really has. So among
descriptors of one name with different parents it is neither transitive nor antisymmetric. It is a
partial order up to the name on every coherent family: one that has the parents of its members,
and in which a name says what its descriptor refines. Within such a family, what satisfies a
descriptor is served wherever that descriptor is served.
-/

namespace StateHolders

namespace Descriptor

variable {a b c d : Descriptor}

/-! ## Trees below a descriptor -/

/-- A tree has the names of every tree in it. -/
theorem Ancestor.mem_names (h : Ancestor a d) {name : String} (hn : name ∈ a.names) :
    name ∈ d.names := by
  induction h with
  | parent hp =>
    rw [names_eq]
    exact List.mem_cons_of_mem _ ((mem_namesAll_iff _ _).mpr ⟨_, hp, hn⟩)
  | further hp _ ih =>
    rw [names_eq]
    exact List.mem_cons_of_mem _ ((mem_namesAll_iff _ _).mpr ⟨_, hp, ih⟩)

theorem Ancestor.trans (hab : Ancestor a b) (hbc : Ancestor b c) : Ancestor a c := by
  induction hbc with
  | parent hp => exact .further hp hab
  | further hp _ ih => exact .further hp ih

theorem sizeOf_lt_of_mem_refines (h : a ∈ d.refines) : sizeOf a < sizeOf d := by
  cases d with
  | mk name parents =>
    have hlt : sizeOf a < sizeOf parents := List.sizeOf_lt_of_mem h
    rw [mk.sizeOf_spec]
    omega

/-- An ancestor is the smaller tree. -/
theorem Ancestor.sizeOf_lt (h : Ancestor a d) : sizeOf a < sizeOf d := by
  induction h with
  | parent hp => exact sizeOf_lt_of_mem_refines hp
  | further hp _ ih => exact ih.trans (sizeOf_lt_of_mem_refines hp)

/-! ## Coherent families -/

/-- A family of descriptors with the parents of its members, in which a name says what its
descriptor refines. -/
structure Coherent (U : Set Descriptor) : Prop where
  /-- The parents of a member are members. -/
  closed : ∀ d ∈ U, ∀ p ∈ d.refines, p ∈ U
  /-- Members of one name have the same parents, down to the roots. -/
  agree : ∀ a ∈ U, ∀ b ∈ U, a.name = b.name → a.refines = b.refines

namespace Coherent

variable {U : Set Descriptor}

theorem eq_of_name_eq (h : Coherent U) (ha : a ∈ U) (hb : b ∈ U) (hname : a.name = b.name) :
    a = b := by
  have hrefines := h.agree a ha b hb hname
  cases a
  cases b
  simp_all

theorem mem_of_ancestor (h : Coherent U) (hd : d ∈ U) (ha : Ancestor a d) : a ∈ U := by
  induction ha with
  | parent hp => exact h.closed _ hd _ hp
  | further hp _ ih => exact ih (h.closed _ hd _ hp)

/-- Within the family, what is satisfied is the descriptor itself or one of its ancestors, and not
only another of its name. -/
theorem satisfies_iff (h : Coherent U) (ha : a ∈ U) (hb : b ∈ U) :
    a.satisfies b = true ↔ b = a ∨ Ancestor b a := by
  rw [satisfies_iff_ancestor]
  constructor
  · rintro (hname | ⟨x, hx, hname⟩)
    · exact Or.inl (h.eq_of_name_eq hb ha hname)
    · exact Or.inr (h.eq_of_name_eq (h.mem_of_ancestor ha hx) hb hname ▸ hx)
  · rintro (rfl | hab)
    · exact Or.inl rfl
    · exact Or.inr ⟨b, hab, rfl⟩

theorem satisfies_trans (h : Coherent U) (ha : a ∈ U) (hb : b ∈ U) (hc : c ∈ U)
    (hab : a.satisfies b = true) (hbc : b.satisfies c = true) : a.satisfies c = true := by
  rw [h.satisfies_iff ha hb] at hab
  rw [h.satisfies_iff hb hc] at hbc
  rw [h.satisfies_iff ha hc]
  rcases hab with rfl | hab
  · exact hbc
  · rcases hbc with rfl | hbc
    · exact Or.inr hab
    · exact Or.inr (hbc.trans hab)

/-- Two members cannot be ancestors of each other, because an ancestor is the smaller tree. -/
theorem eq_of_satisfies (h : Coherent U) (ha : a ∈ U) (hb : b ∈ U)
    (hab : a.satisfies b = true) (hba : b.satisfies a = true) : a = b := by
  rw [h.satisfies_iff ha hb] at hab
  rw [h.satisfies_iff hb ha] at hba
  rcases hab with heq | hab
  · exact heq.symm
  · rcases hba with heq | hba
    · exact heq
    · exact absurd hab.sizeOf_lt hba.sizeOf_lt.not_gt

/-- What satisfies a descriptor has the names in the tree of that descriptor. -/
theorem mem_names_of_satisfies (h : Coherent U) (ha : a ∈ U) (hb : b ∈ U)
    (hab : a.satisfies b = true) {name : String} (hn : name ∈ b.names) : name ∈ a.names := by
  rcases (h.satisfies_iff ha hb).mp hab with rfl | hab
  · exact hn
  · exact hab.mem_names hn

end Coherent

end Descriptor

namespace Registry

open Descriptor (Ancestor Coherent)

/-- A request is served if another is served all of whose names it has. -/
theorem Sound.isSome_lookup_of_names {r : Registry} (h : r.Sound) {a b : Descriptor}
    (hnames : ∀ name ∈ b.names, name ∈ a.names) (hb : (r.lookup b).isSome = true) :
    (r.lookup a).isSome = true := by
  obtain ⟨e, he, hn⟩ := (h.isSome_lookup_iff b).mp hb
  exact (h.isSome_lookup_iff a).mpr ⟨e, he, hnames e.name hn⟩

/-- A descriptor satisfies what has the name of a node of its tree. On a coherent family this is
reflexive, transitive, and antisymmetric up to the name, and in every registry that can come about
a member is served if something that it satisfies is served. -/
theorem satisfies_orders_coherent :
    (∀ a b : Descriptor, a.satisfies b = true ↔
      b.name = a.name ∨ ∃ x, Ancestor x a ∧ x.name = b.name) ∧
    ∀ U : Set Descriptor, Coherent U →
      (∀ a ∈ U, a.satisfies a = true) ∧
      (∀ a ∈ U, ∀ b ∈ U, ∀ c ∈ U,
        a.satisfies b = true → b.satisfies c = true → a.satisfies c = true) ∧
      (∀ a ∈ U, ∀ b ∈ U, a.satisfies b = true → b.satisfies a = true → (a == b) = true) ∧
      ∀ (c : Catalogue) (r : Registry), Reachable c r → ∀ a ∈ U, ∀ b ∈ U,
        a.satisfies b = true → (r.lookup b).isSome = true → (r.lookup a).isSome = true := by
  refine ⟨Descriptor.satisfies_iff_ancestor, fun U h => ⟨?_, ?_, ?_, ?_⟩⟩
  · intro a ha
    exact (h.satisfies_iff ha ha).mpr (Or.inl rfl)
  · intro a ha b hb c hc
    exact h.satisfies_trans ha hb hc
  · intro a ha b hb hab hba
    rw [Descriptor.beq_iff_name_eq, h.eq_of_satisfies ha hb hab hba]
  · intro c r hr a ha b hb hab
    exact hr.sound.isSome_lookup_of_names fun name => h.mem_names_of_satisfies ha hb hab

/-- Three kinds of screens and what they refine are a coherent family. The narrowest satisfies the
root by way of the middle one, and is served where only the root is bound. -/
theorem satisfies_orders_coherent_screens :
    let holder : Descriptor := .root "state_holder"
    let screen : Descriptor := ⟨"screen", [holder]⟩
    let editor : Descriptor := ⟨"editor", [screen, holder]⟩
    let U : Set Descriptor := {holder, screen, editor}
    let quiet : Supplier := .always (.error (.plain "closed"))
    let r : Registry := ⟨[⟨holder, "", quiet⟩], ⟨[("state_holder", 0)]⟩⟩
    Coherent U ∧ Reachable ⟨[]⟩ r ∧ editor.satisfies screen = true ∧
      screen.satisfies holder = true ∧ editor.satisfies holder = true ∧
      (r.lookup screen).isSome = true ∧ (r.lookup editor).isSome = true := by
  intro holder screen editor U quiet r
  have hcoherent : Coherent U := by
    constructor
    · rintro d (rfl | rfl | rfl) p hp
      · cases hp
      · exact Or.inl (List.mem_singleton.mp hp)
      · rcases List.mem_pair.mp hp with rfl | rfl
        · exact Or.inr (Or.inl rfl)
        · exact Or.inl rfl
    · rintro a (rfl | rfl | rfl) b (rfl | rfl | rfl) hname
      all_goals first | rfl | exact absurd hname (by decide)
  have hr : Reachable ⟨[]⟩ r := .built [.bind holder quiet] rfl
  have hholder : holder ∈ U := Or.inl rfl
  have hscreen : screen ∈ U := Or.inr (Or.inl rfl)
  have heditor : editor ∈ U := Or.inr (Or.inr rfl)
  have heditorScreen : editor.satisfies screen = true := by decide
  have hscreenHolder : screen.satisfies holder = true := by decide
  have hserved : (r.lookup holder).isSome = true :=
    (hr.sound.isSome_lookup_iff holder).mpr ⟨_, List.mem_singleton.mpr rfl, by decide⟩
  obtain ⟨-, hfamily⟩ := satisfies_orders_coherent
  obtain ⟨-, htrans, -, hserve⟩ := hfamily U hcoherent
  have hscreenServed := hserve _ r hr screen hscreen holder hholder hscreenHolder hserved
  refine ⟨hcoherent, hr, heditorScreen, hscreenHolder, ?_, hscreenServed, ?_⟩
  · exact htrans editor heditor screen hscreen holder hholder heditorScreen hscreenHolder
  · exact hserve _ r hr editor heditor screen hscreen heditorScreen hscreenServed

/-- Two descriptors that are not coherent satisfy each other under different names. -/
example :
    let a : Descriptor := ⟨"a", [.root "b"]⟩
    let b : Descriptor := ⟨"b", [.root "a"]⟩
    a.satisfies b = true ∧ b.satisfies a = true ∧ (a == b) = false := by
  decide

end Registry

end StateHolders
