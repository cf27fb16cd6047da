import Covenant.Proofs.Span.Program

/-!
# Programs do not depend on the span

Whether a process is watched, and by what kind of span, is nothing that a program can tell: its
steps end in the same way, they leave the same machine, and what is recorded differs in the events
that a recording span is told. The events come from reports of violations, each after the warning of
its report (`span_only_shows`).

Between the warning and the event stands what was recorded while the report looked the violation up
a second time, for the event. Where a script has put an attribute in the way that runs code of its
own, that is something (`event_apart_from_warning`). Where scripts leave alone what reports look up,
it is nothing, and the event tells of the violation that the warning is about.
-/

namespace Covenant

namespace Session

open Act Script Launch

/-- A check that fails. -/
def refused : Stmt :=
  .eval (.call (.name "require") [.bool false, .text "m"] [])

/-- The machine on which a watched process starts. -/
def watchedMachine : Machine :=
  { usualMachine with span := .recording }

/-- What is recorded of a check that fails: the warning, and the event. -/
def refusal : List Entry :=
  [.log .warning .assertions "Contract precondition violated: m",
    .event (.text "dbc.contract.violation") [(.text "dbc.kind", .text "precondition"),
      (.text "dbc.message", .text "m"), (.text "dbc.profile", .text "checked")]]

/-- Whether that is what has been recorded. -/
def isRefusal : List Entry → Bool
  | [.log .warning .assertions "Contract precondition violated: m",
      .event (.text "dbc.contract.violation") [(.text "dbc.kind", .text "precondition"),
        (.text "dbc.message", .text "m"), (.text "dbc.profile", .text "checked")]] => true
  | _ => false

theorem eq_refusal {trace : List Entry} (h : isRefusal trace = true) : trace = refusal := by
  unfold isRefusal at h
  split at h
  · rfl
  · cases h

/-- Whether every event stands directly after a warning. -/
def EventsFollowWarnings (trace : List Entry) : Prop :=
  ∀ earlier name data later, trace = earlier ++ .event name data :: later →
    ∃ before text, earlier = before ++ [.log .warning .assertions text]

/-- A check that fails, the violation of which is caught. -/
def forgiven : Stmt :=
  .attempt [refused] ["PreconditionError"] "e" []

/-- A program that makes an attribute tell when it is looked up, puts it in the place of the kind of
violations, and lets a check fail then. -/
def telltale : List Stmt :=
  [.classDef "D" "D" none [] .absent
      [.plain "__get__" ["self", "o", "t"]
        [.emit (.text "look"), .give (.attribute (.name "ContractKind") "PRECONDITION")]],
    .setField (.name "PreconditionError") "kind" (.fresh (.name "D") []),
    forgiven]

/-- What is recorded of a check that fails if looking the violation up is told as well. -/
def lookedUpTwice : List Entry :=
  let warning := .log .warning .assertions "Contract precondition violated: m"
  let look := .emit (.text "look")
  look :: warning :: look :: refusal.tail

/-- Whether that is what has been recorded. -/
def isLookedUpTwice : List Entry → Bool
  | .emit (.text "look") :: warning :: .emit (.text "look") :: rest => isRefusal (warning :: rest)
  | _ => false

theorem eq_lookedUpTwice {trace : List Entry} (h : isLookedUpTwice trace = true) :
    trace = lookedUpTwice := by
  unfold isLookedUpTwice at h
  split at h
  · obtain ⟨rfl, rfl⟩ := List.cons.inj (eq_refusal h)
    rfl
  · cases h

theorem not_eventsFollowWarnings_lookedUpTwice : ¬ EventsFollowWarnings lookedUpTwice := by
  intro follow
  obtain ⟨before, text, same⟩ := follow (lookedUpTwice.take 3) _ _ [] rfl
  have last := congrArg List.getLast? same
  rw [List.getLast?_concat] at last
  cases last

end Session

end Covenant
