import StateHolders.Logging.Directive

/-!
# Filters of the log

A filter is a list of directives with commas between them. Of the directives that concern an event
the one with the longest target decides, and an event that none concerns is not logged.
-/

namespace StateHolders.Logging

/-- A filter. -/
structure Filter where
  /-- The directives, in their order. -/
  directives : List Directive
deriving DecidableEq, Repr

namespace Filter

/-- The texts between commas. -/
def splitAtCommas : List Char → List (List Char)
  | [] => [[]]
  | c :: rest =>
    match splitAtCommas rest with
    | [] => [[c]]
    | first :: more => if c = ',' then [] :: first :: more else (c :: first) :: more

/-- The texts between commas that are not empty. -/
def parts (text : List Char) : List (List Char) :=
  (splitAtCommas text).filter fun part => !part.isEmpty

/-- The filter of some directives; without any, errors pass. -/
def ofDirectives (ds : List Directive) : Filter :=
  if ds.isEmpty then ⟨[.ofThreshold (some .error)]⟩ else ⟨ds⟩

/-- The filter that a text spells, if every part of it is a directive. The first part that is none
decides what is wrong. -/
def ofText (text : String) : Except Text.Fault Filter :=
  ((parts text.toList).mapM Directive.ofText).map ofDirectives

/-- The filter of those parts of a text that are directives. -/
def ofTextLossy (text : String) : Filter :=
  ofDirectives ((parts text.toList).filterMap fun part => (Directive.ofText part).toOption)

/-- The directive that decides about an event; of directives that are alike, the last. -/
def deciding? (f : Filter) (target : String) (fields : List String) : Option Directive :=
  (f.directives.filter (·.concerns target.toList (fields.map String.toList))).foldl
    (fun best d =>
      match best with
      | none => some d
      | some b => if d.atLeast b then some d else some b)
    none

/-- Whether an event of a level and a target, with fields of given names, is logged. -/
def enabled (f : Filter) (level : Level) (target : String) (fields : List String) : Bool :=
  match f.deciding? target fields with
  | none => false
  | some d => passes d.threshold level

/-- Whether an event is logged. Its message counts as a field. -/
def logs (f : Filter) (e : Event) : Bool :=
  f.enabled e.level e.target.path ("message" :: e.fields.map Prod.fst)

end Filter

end StateHolders.Logging
