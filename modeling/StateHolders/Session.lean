import StateHolders.Creation

/-!
# Sessions

What a host does with a registry over time. It asks for holders, which calls suppliers, and it
asks what is bound, which calls none. A session is a registry together with the calls so far.
-/

namespace StateHolders

/-- A question about what is bound. -/
inductive Query where
  /-- How many entries there are. -/
  | size
  /-- Whether there are none. -/
  | isEmpty
  /-- What they are. -/
  | entries
  /-- Whether a descriptor of that name is bound. -/
  | contains (d : Descriptor)
  /-- The entry of that name. -/
  | findExact (d : Descriptor)
  /-- The first entry that the descriptor satisfies. -/
  | findBroader (d : Descriptor)
  /-- The entry that would serve a request. -/
  | lookup (d : Descriptor)
  /-- The bound descriptor of that name. -/
  | descriptorNamed (name : String)

/-- The answer to a question. -/
inductive Answer where
  /-- A number. -/
  | number (n : Nat)
  /-- Yes or no. -/
  | truth (b : Bool)
  /-- Entries. -/
  | entries (es : List Entry)
  /-- An entry, if there is one. -/
  | entry (e : Option Entry)
  /-- An entry with its match, if there is one. -/
  | served (s : Option (Entry × Match))
  /-- A descriptor, if there is one. -/
  | descriptor (d : Option Descriptor)

/-- Answers a question. -/
def Registry.answer (r : Registry) : Query → Answer
  | .size => .number r.size
  | .isEmpty => .truth r.isEmpty
  | .entries => .entries r.entries
  | .contains d => .truth (r.contains d)
  | .findExact d => .entry (r.findExact d)
  | .findBroader d => .entry (r.findBroader d)
  | .lookup d => .served (r.lookup d)
  | .descriptorNamed name => .descriptor (r.descriptorNamed name)

/-- What a host wants. -/
inductive Demand where
  /-- A holder. -/
  | create (d : Descriptor)
  /-- An answer. -/
  | ask (q : Query)

/-- What it gets. -/
inductive Reply where
  /-- A holder, or why there is none. -/
  | created (result : Except Error Holder)
  /-- An answer. -/
  | told (a : Answer)

/-- The holders that are wanted, in their order. -/
def Demand.requests (demands : List Demand) : List Descriptor :=
  demands.filterMap fun
    | .create d => some d
    | .ask _ => none

/-- A registry in use. -/
structure Session where
  /-- The registry. -/
  registry : Registry
  /-- The calls so far. -/
  calls : Calls

namespace Session

/-- The registry before it is used. -/
def start (r : Registry) : Session := ⟨r, .none⟩

/-- Meets a demand. -/
def step (s : Session) : Demand → Session × Reply
  | .create d =>
    let created := s.registry.create s.calls d
    (⟨s.registry, created.calls⟩, .created created.result)
  | .ask q => (s, .told (s.registry.answer q))

/-- Meets several demands, one after the other. -/
def run (s : Session) : List Demand → Session × List Reply
  | [] => (s, [])
  | demand :: rest =>
    let first := s.step demand
    let others := first.1.run rest
    (others.1, first.2 :: others.2)

theorem run_cons (s : Session) (demand : Demand) (rest : List Demand) :
    s.run (demand :: rest) =
      (((s.step demand).1.run rest).1, (s.step demand).2 :: ((s.step demand).1.run rest).2) := rfl

end Session

end StateHolders
