import StateHolders.Event
import StateHolders.Registry.Basic

/-!
# Creating holders

A request for a holder calls the supplier of the entry that serves it, once. If there is no such
entry, no supplier is called. A failure of the supplier is reported for the descriptor that was
asked for, which need not be the one of the entry.
-/

namespace StateHolders

/-- What comes of a request: a holder or an error, the calls so far, and what was reported. -/
structure Creation where
  /-- The holder, or why there is none. -/
  result : Except Error Holder
  /-- The calls so far, those of the request included. -/
  calls : Calls
  /-- What was reported. -/
  events : List Event

namespace Creation

/-- No entry serves the request. -/
def unmatchedEvent (d : Descriptor) : Event :=
  ⟨.warn, .creation, "No binding matches requested state holder", [("holder", .shown d.name)]⟩

/-- An entry serves the request. -/
def matchedEvent (d : Descriptor) (e : Entry) (m : Match) : Event :=
  ⟨.debug, .creation, "Creating state holder",
    [("holder", .shown d.name), ("binding", .shown e.name), ("matched", .shown m.word)]⟩

/-- The supplier failed. -/
def failedEvent (d : Descriptor) (cause : Cause) : Event :=
  ⟨.error, .creation, "State holder supplier failed",
    [("holder", .shown d.name), ("error", .shown cause.message)]⟩

end Creation

namespace Registry

/-- Creates a holder for a request. -/
def create (r : Registry) (calls : Calls) (d : Descriptor) : Creation :=
  match r.lookup d with
  | none => ⟨.error (.unknownHolder d.name), calls, [Creation.unmatchedEvent d]⟩
  | some (e, m) =>
    match e.supplier.outcome (calls.count e.name) with
    | .ok holder => ⟨.ok holder, calls.record e.name, [Creation.matchedEvent d e m]⟩
    | .error cause =>
      ⟨.error (.creation d.name cause), calls.record e.name,
        [Creation.matchedEvent d e m, Creation.failedEvent d cause]⟩

/-- A request that no entry serves is refused, and calls nothing. -/
theorem create_of_lookup_eq_none {r : Registry} {d : Descriptor} (h : r.lookup d = none)
    (calls : Calls) :
    (r.create calls d).result = .error (.unknownHolder d.name) ∧
      (r.create calls d).calls = calls := by
  simp [create, h]

/-- If the supplier of the entry that serves a request gives a holder, this is what comes of the
request. -/
theorem create_of_outcome_eq_ok {r : Registry} {d : Descriptor} {e : Entry} {m : Match}
    (h : r.lookup d = some (e, m)) (calls : Calls) {holder : Holder}
    (ho : e.supplier.outcome (calls.count e.name) = .ok holder) :
    r.create calls d = ⟨.ok holder, calls.record e.name, [Creation.matchedEvent d e m]⟩ := by
  simp only [create, h, ho]

/-- If the supplier of the entry that serves a request fails, the failure is reported for the
descriptor that was asked for. -/
theorem create_of_outcome_eq_error {r : Registry} {d : Descriptor} {e : Entry} {m : Match}
    (h : r.lookup d = some (e, m)) (calls : Calls) {cause : Cause}
    (ho : e.supplier.outcome (calls.count e.name) = .error cause) :
    r.create calls d = ⟨.error (.creation d.name cause), calls.record e.name,
      [Creation.matchedEvent d e m, Creation.failedEvent d cause]⟩ := by
  simp only [create, h, ho]

/-- A request that an entry serves is one call of its supplier, whose failure is reported for the
descriptor that was asked for. -/
theorem create_of_lookup_eq_some {r : Registry} {d : Descriptor} {e : Entry} {m : Match}
    (h : r.lookup d = some (e, m)) (calls : Calls) :
    (r.create calls d).result =
        (e.supplier.outcome (calls.count e.name)).mapError (.creation d.name) ∧
      (r.create calls d).calls = calls.record e.name := by
  cases ho : e.supplier.outcome (calls.count e.name) with
  | ok holder =>
    rw [create_of_outcome_eq_ok h calls ho]
    exact ⟨rfl, rfl⟩
  | error cause =>
    rw [create_of_outcome_eq_error h calls ho]
    exact ⟨rfl, rfl⟩

/-- Creates a holder of a type. A holder of another type is refused, whatever it reports. -/
def createOf (r : Registry) (calls : Calls) (t : HolderType) : Creation :=
  let created := r.create calls t.descriptor
  match created.result with
  | .error _ => created
  | .ok holder =>
    if holder.isOf t then created
    else { created with result := .error (.typeMismatch t.descriptor.name holder.descriptor.name) }

/-- Typed access differs from the creation in the result alone: it passes on the holders of its
type, and refuses all others. -/
theorem createOf_eq (r : Registry) (calls : Calls) (t : HolderType) :
    r.createOf calls t = { r.create calls t.descriptor with
      result := (r.create calls t.descriptor).result.bind fun holder =>
        if holder.isOf t then .ok holder
        else .error (.typeMismatch t.descriptor.name holder.descriptor.name) } := by
  rw [createOf]
  generalize r.create calls t.descriptor = created
  obtain ⟨result, after, events⟩ := created
  cases result with
  | error e => rfl
  | ok holder => cases h : holder.isOf t <;> simp [h, Except.bind]

end Registry

end StateHolders
