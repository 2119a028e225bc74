import Mathlib.Data.List.Basic
import StateHolders.Wrapping

/-!
# What stacks of wrappings keep

An error that wraps a failure keeps it as its cause, so however wrappings are stacked, the chain of
the outermost error goes through every error that was made on the way, and then through the first
failure and its own chain. Its message ends with that of the first failure unless a wrapping has a
message of its own. A success goes through the same stack untouched, and no text is made for it.
-/

namespace StateHolders

/-! ## One wrapping -/

/-- What the message of a wrapped error says before that of its cause. -/
def Context.lead : Context → String → String
  | .general, what => "Infrastructure error: " ++ (what ++ ": ")
  | .io, what => "Infrastructure error: " ++ ("I/O: " ++ what ++ ": ")
  | .configuration, what => "Configuration error: " ++ (what ++ ": ")

/-- A context is said before the message of the cause, which is repeated to its end. -/
theorem Context.message_wrap (context : Context) (what : String) (cause : Cause) :
    (context.wrap what cause).message = context.lead what ++ cause.message := by
  cases context with
  | general => exact (String.append_assoc ..).symm
  | io => exact (String.append_assoc ..).symm
  | configuration => exact (String.append_assoc ..).symm

/-- The cause is kept. -/
theorem Context.source_wrap (context : Context) (what : String) (cause : Cause) :
    (context.wrap what cause).source = some cause := by
  cases context with
  | general => rfl
  | io => rfl
  | configuration => rfl

namespace Wrapping

variable {m : Type → Type} {σ α : Type}

/-- The kind of the errors that a wrapping makes. -/
def kind : Wrapping m → ErrorKind
  | .add .general _ => .infrastructure
  | .add .io _ => .infrastructure
  | .add .configuration _ => .configuration
  | .addLazily _ => .infrastructure
  | .configuration _ => .configuration
  | .infrastructure _ => .infrastructure
  | .creation _ => .creation

/-- Whether the errors that a wrapping makes repeat the message of their cause. -/
def repeatsCause : Wrapping m → Bool
  | .add _ _ => true
  | .addLazily _ => true
  | .configuration _ => false
  | .infrastructure _ => false
  | .creation _ => true

/-- An error that a wrapping makes of a cause. -/
structure Wraps (w : Wrapping m) (cause : Cause) (made : Error) : Prop where
  /-- It is of the kind of the wrapping. -/
  kind : made.kind = w.kind
  /-- It keeps the cause. -/
  source : made.source = some cause
  /-- It ends with the message of the cause, if the wrapping repeats that. -/
  message : w.repeatsCause = true → ∃ lead, made.message = lead ++ cause.message

/-- The chain of what was made is the cause with its own chain. -/
theorem Wraps.chain {w : Wrapping m} {cause : Cause} {made : Error} (h : w.Wraps cause made) :
    (Cause.error made).chain = cause :: cause.chain := by
  have hsource : (Cause.error made).source = some cause := h.source
  rw [Cause.chain_eq, hsource]
  rfl

/-- What a context makes is an error that wraps the cause. -/
theorem wraps_add (context : Context) (what : String) (cause : Cause) :
    (Wrapping.add context what : Wrapping m).Wraps cause (context.wrap what cause) where
  kind := by
    cases context with
    | general => rfl
    | io => rfl
    | configuration => rfl
  source := context.source_wrap what cause
  message := fun _ => ⟨context.lead what, context.message_wrap what cause⟩

/-- A failure comes out of a wrapping as an error that wraps it. It does so in every state, although
the text may depend on the state. -/
theorem exists_wraps (w : Wrapping (StateM σ)) (cause : Cause) (s : σ) :
    ∃ made after, (w.attach (.error cause : Except Cause α)).run s = (.error made, after) ∧
      w.Wraps cause made := by
  cases w with
  | add context what =>
    exact ⟨context.wrap what cause, s, rfl, wraps_add context what cause⟩
  | addLazily what =>
    -- It makes what the general context makes of the text that the action gives in this state.
    obtain ⟨hkind, hsource, hmessage⟩ := wraps_add (m := StateM σ) .general (what s).1 cause
    exact ⟨Context.general.wrap (what s).1 cause, (what s).2, rfl, ⟨hkind, hsource, hmessage⟩⟩
  | configuration message =>
    exact ⟨.configuration message (some cause), s, rfl, ⟨rfl, rfl, nofun⟩⟩
  | infrastructure message =>
    exact ⟨.infrastructure message (some cause), s, rfl, ⟨rfl, rfl, nofun⟩⟩
  | creation requested =>
    exact ⟨.creation requested cause, s, rfl, ⟨rfl, rfl, fun _ => ⟨_, rfl⟩⟩⟩

/-- A success comes out of a wrapping as it went in, and nothing is done for it. -/
theorem attach_ok [Monad m] (w : Wrapping m) (a : α) : w.attach (.ok a) = pure (.ok a) := by
  cases w with
  | add context what => rfl
  | addLazily what => rfl
  | configuration message => rfl
  | infrastructure message => rfl
  | creation requested => rfl

/-! ## Stacks -/

/-- The errors that a stack of wrappings makes of a cause, one after the other. -/
inductive Stacked : List (Wrapping m) → Cause → List Error → Prop
  /-- Without a wrapping nothing is made. -/
  | nil (cause : Cause) : Stacked [] cause []
  /-- What the first wrapping makes is the cause for the others. -/
  | cons {w : Wrapping m} {rest : List (Wrapping m)} {cause : Cause} {made : Error}
      {others : List Error} (first : w.Wraps cause made)
      (after : Stacked rest (.error made) others) :
      Stacked (w :: rest) cause (made :: others)

/-- The last of several errors that were made of a cause, or the cause if there is none. -/
def outermost (cause : Cause) : List Error → Cause
  | [] => cause
  | made :: others => outermost (.error made) others

namespace Stacked

variable {stack : List (Wrapping m)} {cause : Cause} {made : List Error}

/-- Each wrapping makes one error. -/
theorem length_eq (h : Stacked stack cause made) : made.length = stack.length := by
  induction h with
  | nil cause => rfl
  | cons first after ih => rw [List.length_cons, List.length_cons, ih]

/-- From the outermost error the chain leads back through all that were made. -/
theorem chain (h : Stacked stack cause made) :
    outermost cause made :: (outermost cause made).chain =
      made.reverse.map Cause.error ++ cause :: cause.chain := by
  induction h with
  | nil cause => rfl
  | @cons w rest cause made others first after ih =>
    rw [outermost, ih, first.chain, List.reverse_cons, List.map_append, List.append_assoc]
    rfl

/-- The message of the cause is the end of every message, as long as all wrappings repeat it. -/
theorem message (h : Stacked stack cause made)
    (hrepeat : ∀ w ∈ stack, w.repeatsCause = true) :
    ∃ lead, (outermost cause made).message = lead ++ cause.message := by
  induction h with
  | nil cause => exact ⟨"", (String.empty_append).symm⟩
  | @cons w rest cause made others first after ih =>
    obtain ⟨inner, hinner⟩ := first.message (hrepeat w List.mem_cons_self)
    obtain ⟨outer, houter⟩ := ih fun v hv => hrepeat v (List.mem_cons_of_mem w hv)
    have hmade : (Cause.error made).message = inner ++ cause.message := hinner
    exact ⟨outer ++ inner, by rw [outermost, houter, hmade, String.append_assoc]⟩

end Stacked

theorem run_attachAll_cons (w : Wrapping (StateM σ)) (rest : List (Wrapping (StateM σ)))
    (result : Except Cause α) (s : σ) :
    (attachAll (w :: rest) result).run s =
      (attachAll rest (((w.attach result).run s).1.mapError .error)).run
        ((w.attach result).run s).2 := rfl

/-- The last wrapping starts with what the others make, in the state that they leave. -/
theorem run_attachAll_concat (inner : List (Wrapping (StateM σ))) (last : Wrapping (StateM σ))
    (result : Except Cause α) (s : σ) :
    (attachAll (inner ++ [last]) result).run s =
      (attachAll [last] ((attachAll inner result).run s).1).run
        ((attachAll inner result).run s).2 := by
  -- The result and the state both change from one wrapping to the next.
  induction inner generalizing result s with
  | nil => rfl
  | cons w rest ih => rw [List.cons_append, run_attachAll_cons, ih, run_attachAll_cons w rest]

/-- A failure comes out of a stack as the last of the errors that were made of it, each of which is
what the wrappings up to its own make. -/
theorem exists_stacked (stack : List (Wrapping (StateM σ))) (cause : Cause) (s : σ) :
    ∃ made after, Stacked stack cause made ∧
      (attachAll stack (.error cause : Except Cause α)).run s =
        (.error (outermost cause made), after) ∧
      ∀ k (h : k < made.length),
        ((attachAll (stack.take (k + 1)) (.error cause : Except Cause α)).run s).1 =
          .error (.error made[k]) := by
  induction stack generalizing cause s with
  | nil => exact ⟨[], s, .nil cause, rfl, nofun⟩
  | cons w rest ih =>
    -- The others start with the error of the first, in the state that its text left.
    obtain ⟨made, next, hattach, hwraps⟩ := exists_wraps (α := α) w cause s
    obtain ⟨others, after, hothers, hrun, hprefix⟩ := ih (.error made) next
    refine ⟨made :: others, after, .cons hwraps hothers, ?_, ?_⟩
    · rw [run_attachAll_cons, hattach]
      exact hrun
    · intro k hk
      rw [List.take_succ_cons, run_attachAll_cons, hattach]
      cases k with
      | zero => rfl
      | succ k => exact hprefix k (Nat.lt_of_succ_lt_succ hk)

/-- A success comes out of a stack as it went in, and nothing is done for it. -/
theorem attachAll_ok [Monad m] [LawfulMonad m] (stack : List (Wrapping m)) (a : α) :
    attachAll stack (.ok a) = pure (.ok a) := by
  induction stack with
  | nil => rfl
  | cons w rest ih =>
    rw [attachAll, attach_ok, pure_bind]
    exact ih

/-- A failure that goes through a stack of wrappings comes out as an error of the kind of the last
one. Its chain leads through all errors that were made on the way, the latest first, each of them
what the wrappings up to its own make; then come the first failure and its own chain. If the last
wrapping repeats its cause, the message ends with that of the error it wrapped, and if all do, with
that of the first failure. A success goes through any stack as it is, and no text is made for it. -/
theorem attachAll_keeps_causes (inner : List (Wrapping (StateM σ)))
    (last : Wrapping (StateM σ)) (cause : Cause) (s : σ) :
    (∃ (made : List Error) (outer : Error) (after : σ),
      (attachAll (inner ++ [last]) (.error cause : Except Cause α)).run s =
        (.error (.error outer), after) ∧
      made.length = inner.length ∧
      (∀ k (h : k < made.length),
        ((attachAll (inner.take (k + 1)) (.error cause : Except Cause α)).run s).1 =
          .error (.error made[k])) ∧
      outer.kind = last.kind ∧
      outer.chain = made.reverse.map Cause.error ++ cause :: cause.chain ∧
      (last.repeatsCause = true → ∃ wrapped lead,
        outer.source = some wrapped ∧ outer.message = lead ++ wrapped.message) ∧
      ((∀ w ∈ inner ++ [last], w.repeatsCause = true) →
        ∃ lead, outer.message = lead ++ cause.message)) ∧
    ∀ {m : Type → Type} [Monad m] [LawfulMonad m] (stack : List (Wrapping m)) (a : α),
      attachAll stack (.ok a) = pure (.ok a) := by
  obtain ⟨made, next, hstacked, hinner, hprefix⟩ := exists_stacked (α := α) inner cause s
  obtain ⟨outer, after, hlast, hwraps⟩ := exists_wraps (α := α) last (outermost cause made) next
  have hrun : (attachAll (inner ++ [last]) (.error cause : Except Cause α)).run s =
      (.error (.error outer), after) := by
    rw [run_attachAll_concat, hinner, run_attachAll_cons, hlast]
    rfl
  have hchain : outer.chain = made.reverse.map Cause.error ++ cause :: cause.chain :=
    hwraps.chain.trans hstacked.chain
  refine ⟨⟨made, outer, after, hrun, hstacked.length_eq, hprefix, hwraps.kind, hchain, ?_, ?_⟩,
    attachAll_ok⟩
  · intro hrepeat
    obtain ⟨lead, hmessage⟩ := hwraps.message hrepeat
    exact ⟨outermost cause made, lead, hwraps.source, hmessage⟩
  · intro hrepeat
    have hlastRepeats := hrepeat last (List.mem_append_right inner List.mem_cons_self)
    have hinnerRepeat := fun w hw => hrepeat w (List.mem_append_left [last] hw)
    obtain ⟨lead, hmessage⟩ := hwraps.message hlastRepeats
    obtain ⟨before, hbefore⟩ := hstacked.message hinnerRepeat
    exact ⟨lead ++ before, by rw [hmessage, hbefore, String.append_assoc]⟩

/-- A closed connection fails a reading, then a parsing, and then a creation, whose message still
ends with it. A fourth error with a message of its own ends otherwise, but leads to the timeout as
well. The text of the reading is made once, and not at all for the number that is read in the
end. -/
theorem attachAll_keeps_causes_of_timeout :
    let making : StateM Nat String := fun made => ("reading", made + 1)
    let closed : Cause := .foreign "closed" (.text "closed") (some (.plain "timeout"))
    let inner : List (Wrapping (StateM Nat)) := [.addLazily making, .add .configuration "parsing"]
    let editor : Wrapping (StateM Nat) := .creation "editor"
    let disk : Wrapping (StateM Nat) := .infrastructure "disk"
    let failed : Except Cause Nat := .error closed
    (∃ read parsed asked : Error,
      (attachAll (inner ++ [editor]) failed).run 0 = (.error (.error asked), 1) ∧
      asked.kind = .creation ∧
      asked.chain = [.error parsed, .error read, closed, .plain "timeout"] ∧
      ∃ lead, asked.message = lead ++ "closed") ∧
    (∃ read parsed asked stored : Error,
      (attachAll (inner ++ [editor] ++ [disk]) failed).run 0 = (.error (.error stored), 1) ∧
      stored.kind = .infrastructure ∧
      stored.chain =
        [.error asked, .error parsed, .error read, closed, .plain "timeout"]) ∧
    (attachAll inner (.ok 7 : Except Cause Nat)).run 0 = (.ok 7, 0) := by
  intro making closed inner editor disk failed
  obtain ⟨hasked, hok⟩ := attachAll_keeps_causes (α := Nat) inner editor closed 0
  obtain ⟨hstored, -⟩ := attachAll_keeps_causes (α := Nat) (inner ++ [editor]) disk closed 0
  refine ⟨?_, ?_, congrArg (fun run => run.run 0) (hok inner 7)⟩
  · obtain ⟨made, asked, after, hrun, hlength, -, hkind, hchain, -, hmessage⟩ := hasked
    obtain ⟨read, parsed, rfl⟩ := List.length_eq_two.mp hlength
    have hafter : 1 = after := congrArg Prod.snd hrun
    subst hafter
    exact ⟨read, parsed, asked, hrun, hkind, hchain, hmessage (by decide)⟩
  · obtain ⟨made, stored, after, hrun, hlength, -, hkind, hchain, -⟩ := hstored
    obtain ⟨read, parsed, asked, rfl⟩ := List.length_eq_three.mp hlength
    have hafter : 1 = after := congrArg Prod.snd hrun
    subst hafter
    exact ⟨read, parsed, asked, stored, hrun, hkind, hchain⟩

end Wrapping

end StateHolders
