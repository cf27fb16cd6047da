import Covenant.Proofs.Contract.Assertion
import Covenant.Proofs.Machine.Alike

/-!
# Preconditions and postconditions are twins

An assertion for preconditions and the one for postconditions of the same shape ask the same, of the
same machine (`asks_twins`). Where they are refused their arguments, the faults differ in the name
that they tell; where they do not hold, they make a violation each, which differ in their class, and
in their message if that begins with the title of the side (`Wording`). From there on two machines
are compared that are alike but for the cell of the violation, and, once entries about it have been
put on the span, for the dictionary of these: both are shown the message, warn, look for settings
and raise, and no step of this looks at what differs (`failCheck_twins`).

So the two runs end alike (`assertions_are_twins`): with the same outcome, the same records and the
same machine, but for the names that the sides go by (`Twins`). This rests on scripts having left
the classes of violations alone; where one has given the violations of preconditions another kind,
twins tell different tales (`patched_kind_tells_sides_apart`).
-/

namespace Covenant

/-- How the message of a violation is worded for both sides: as it was given, together with what it
is shown and answered as; or with the title of the side before a text. -/
inductive Wording where
  | given (message : Value) (shown : String) (answered : Answer)
  | titled (text : String)

namespace Wording

/-- The message of a side. -/
def message (side : Side) : Wording → Value
  | given message _ _ => message
  | titled text => .text (side.title ++ " failed: " ++ text)

/-- What the message of a side is shown as. -/
def shown (side : Side) : Wording → String
  | given _ shown _ => shown
  | titled text => side.title ++ " failed: " ++ text

/-- What the message of a side is answered as. -/
def answered (side : Side) : Wording → Answer
  | given _ _ answered => answered
  | titled text => .text (side.title ++ " failed: " ++ text)

/-- Whether the message is a text on both sides. -/
def IsText (w : Wording) : Prop :=
  ∀ side, w.message side = .text (w.shown side) ∧ w.answered side = .text (w.shown side)

theorem isText_given (s : String) : (given (.text s) s (.text s)).IsText :=
  fun _ => ⟨rfl, rfl⟩

theorem isText_titled (text : String) : (titled text).IsText :=
  fun _ => ⟨rfl, rfl⟩

end Wording

/-- What a side has recorded of its violation, latest first: the warning if it has come to that, and
the event on the span if it has. -/
def Side.recorded (side : Side) (w : Wording) (warned noted : Bool) : List Entry :=
  (if noted then [.event (.text Act.violationEvent) [(.text "dbc.kind", .text side.kind.text),
      (.text "dbc.message", w.answered side), (.text "dbc.profile", .text Profile.checked.text)]]
    else []) ++
  if warned then [.log .warning .assertions (side.warning (w.shown side))] else []

/-- The dictionary of what a side puts on the span about a violation. -/
def Side.entries (side : Side) (message : Value) : Cell :=
  .dict ((violationFields side.kind message []).map fun (name, v) => (.text name, v))

/-- One of two things, by the side. -/
def Side.choose {α : Type} (pre post : α) : Side → α
  | .pre => pre
  | .post => post

/-- What an assertion is called. -/
def Side.operation (side : Side) (shape : Shape) : String :=
  side.choose "require" "ensure" ++
    match shape with
    | .plain => ""
    | .formatted => "f"
    | .context => "_ctx"

/-- What an assertion takes that goes by a name. -/
def Shape.signature (name : String) : Shape → Signature
  | .plain => .exactly name [.placed "condition_or_value", .placed "message_or_validator",
      ⟨"message", true, true⟩]
  | .formatted => ⟨name, [.placed "condition", .placed "template"], true, true⟩
  | .context => .exactly name [.placed "condition", .placed "expr_text"]

/-- Why an assertion refuses its arguments: they do not fit, or there is a value of another type in
the place of the message of a condition, or of a value and its validator. -/
inductive Refusal where
  | unfitting (mistake : Mismatch)
  | noMessage (given : String)
  | noMessageForValue (given : String)

/-- What is said of a refusal by an assertion that goes by a name. -/
def Refusal.text (shape : Shape) (name : String) : Refusal → String
  | unfitting mistake => (shape.signature name).explain mistake
  | noMessage given => name ++ "(condition, message) expects a str message, got " ++ given ++
      "; the validator form is " ++ name ++ "(value, validator, message)"
  | noMessageForValue given => name ++ "(value, validator, message) expects a str message, got " ++
      given

/-- Two runs of assertions of a shape, one for each side, come to the same but for the names that
the sides go by. -/
inductive Twins (shape : Shape) (run : Side → Outcome Value × Machine) : Prop
  /-- Both do the very same. -/
  | same (ended : Outcome Value × Machine) (both : ∀ side, run side = ended)
  /-- Both refuse their arguments for the same reason, with a fault about a wrong type that tells
  what the operation is called. -/
  | refused (e : Ref) (context : Option Ref) (trace : List Entry) (refusal : Refusal)
      (alike : (run .pre).2.AlikeBut [e] (run .post).2)
      (both : ∀ side, (run side).1 = .raised e ∧ (run side).2.trace = trace ∧
        (run side).2.cell e = .fault { Fault.fresh (.known (.fault .typeError))
          [.text (refusal.text shape (side.operation shape))] [] with context })
  /-- Both have made a violation, which stands at `e`, and end in the same way, after the same steps
  of its report. -/
  | told (ended : Outcome Value) (e : Ref) (context : Option Ref) (w : Wording)
      (warned noted : Bool) (dictionary : Option Ref) (trace : List Entry)
      (alike : (run .pre).2.AlikeBut (e :: dictionary.toList) (run .post).2)
      (both : ∀ side, (run side).1 = ended ∧
        (run side).2.trace = side.recorded w warned noted ++ trace ∧
        (run side).2.cell e = .fault { side.violationOf (w.message side) with context } ∧
        ∀ d ∈ dictionary, (run side).2.cell d = side.entries (w.message side))

namespace Machine

variable {m n k : Machine} {cells : List Ref} {i : Nat}

/-- Settings are looked for in the same way on machines that are alike but for some cells. -/
theorem AlikeBut.settled? (alike : m.AlikeBut cells n) :
    n.settled? = m.settled?.map fun (i, k) => (i, { k with heap := n.heap, trace := n.trace }) := by
  rw [alike.rest]
  unfold Machine.settled?
  dsimp only
  split
  · rfl
  · split <;> rfl

theorem AlikeBut.of_settled (alike : m.AlikeBut cells n) (settled : m.settled? = some (i, k)) :
    ∃ l, n.settled? = some (i, l) ∧ k.AlikeBut cells l ∧ l.trace = n.trace := by
  refine ⟨{ k with heap := n.heap, trace := n.trace }, ?_, ⟨rfl, ?_, fun r other => ?_⟩, rfl⟩
  · rw [alike.settled?, settled]
    rfl
  · rw [(rest_of_settled settled).1]
    exact alike.size
  · exact (alike.cell r other).trans (cell_of_settled settled r).symm

/-- Machines that are alike but for some cells want the same about events. -/
theorem AlikeBut.asksForEvents (alike : m.AlikeBut cells n) (i : Nat) :
    n.asksForEvents i = m.asksForEvents i := by
  rw [alike.rest]
  rfl

theorem violationEvent_eq (m : Machine) (kind : Kind) (message : Answer) :
    m.violationEvent kind message = if m.span = .recording then
      [.event (.text Act.violationEvent) [(.text "dbc.kind", .text kind.text),
        (.text "dbc.message", message), (.text "dbc.profile", .text Profile.checked.text)]]
      else [] := by
  unfold violationEvent
  cases m.span <;> rfl

end Machine

namespace Signature

variable {s : Signature}

/-- What a function is called does not matter to how its arguments are matched. -/
theorem matchNamed_title (s : Signature) (title : String) (all named : Fields) (a : Arguments) :
    matchNamed { s with title } all named a = s.matchNamed all named a := by
  induction named generalizing a with
  | nil => rfl
  | cons p rest ih =>
    unfold matchNamed
    simp only [ih]
    rfl

theorem bind_title (s : Signature) (title : String) (args : List Value) (named : Fields) :
    bind { s with title } args named = s.bind args named := by
  unfold bind
  simp only [matchNamed_title]
  rfl

end Signature

namespace Act

variable {call : Caller} {shape : Shape} {w : Wording} {o : Side → Outcome String}
  {p : Side → Machine} {m q : Machine}

/-! ## The report of twin violations -/

/-- Showing and answering the message of a violation that has just been made at the end of `q` goes
the same way for both sides, and leaves alone the violation and what a report relies on. -/
structure ShownAlike (call : Caller) (q : Machine) (w : Wording) (o : Side → Outcome String)
    (p : Side → Machine) : Prop where
  shows : ∀ side, plainText call (w.message side)
    (q.push (.fault (side.violationOf (w.message side)))) = (o side, p side)
  ends : (∀ side, o side = .done (w.shown side)) ∨ (∃ x, ∀ side, o side = .raised x) ∨
    ∀ side, o side = .exhausted
  alike : (p .pre).AlikeBut [q.heap.size] (p .post)
  trace : (p .post).trace = (p .pre).trace
  kept : ∀ side, (p side).cell q.heap.size = .fault (side.violationOf (w.message side))
  intact : ∀ side, (p side).Intact
  answers : ∀ side i k, (p side).settled? = some (i, k) → k.asksForEvents i = true →
    k.span = .recording →
    let told := (k.warned (side.warning (w.shown side))).withEntries side.kind (w.message side)
    answer call (w.message side) told = (.done (w.answered side), told)

/-- A text is shown and answered as it is. -/
theorem shownAlike_of_isText (call : Caller) (intact : q.Intact) (text : w.IsText) :
    ShownAlike call q w (fun side => .done (w.shown side))
      (fun side => q.push (.fault (side.violationOf (w.message side)))) where
  shows side := by
    rw [(text side).1]
    exact plainText_text call _ _
  ends := .inl fun _ => rfl
  alike := (Machine.AlikeBut.refl q).push_both _ _
  trace := rfl
  kept _ := Machine.cell_push_size q _
  intact _ := intact.push _
  answers side i k _ _ _ := by
    rw [(text side).1, (text side).2]
    exact answer_text _ _

theorem failCheck_of_exhausted {side : Side} {v : Value} {n : Machine} (intact : q.Intact)
    (ends : plainText call v (q.push (.fault (side.violationOf v))) = (.exhausted, n)) :
    failCheck call side v q = (.exhausted, n) := by
  have made : newViolation side.faultClass v q =
      (.done q.heap.size, q.push (.fault (side.violationOf v))) := rfl
  have unreported := (reportViolation_bind (legible_violationOf call side v)
    (intact.tells_push _) (Machine.cell_push_size q _)).trans (bind_of_exhausted ends _)
  exact (bind_of_done made _).trans (bind_of_exhausted unreported _)

/-- Twin violations whose message cannot be shown. -/
theorem twins_of_unshown (shown : ShownAlike call q w o p) {ended : Outcome Value}
    {run : Side → Outcome Value × Machine} (both : ∀ side, run side = (ended, p side)) :
    Twins shape run := by
  refine .told ended q.heap.size none w false false none (p .pre).trace ?_ fun side => ?_
  · rw [both .pre, both .post]
    exact shown.alike
  · rw [both side]
    refine ⟨rfl, ?_, shown.kept side, nofun⟩
    cases side with
    | pre => rfl
    | post => exact shown.trace

/-- Twin violations that have been warned of where no settings can be built. -/
theorem twins_of_unsettled (intact : q.Intact) (shown : ShownAlike call q w o p)
    (done : ∀ side, o side = .done (w.shown side)) (unsettled : (p .pre).settled? = none) :
    Twins shape fun side => (failCheck call side (w.message side) >>= fun _ => pure .null) q := by
  obtain ⟨failure, -, fails⟩ := exists_failure_of_unsettled (p .pre).surroundings
  let warned (side : Side) := (p side).warned (side.warning (w.shown side))
  have settles (side : Side) :
      (p side).surroundings = (p .pre).surroundings ∧ (p side).settled? = none := by
    cases side with
    | pre => exact ⟨rfl, unsettled⟩
    | post => exact ⟨by rw [shown.alike.rest], by rw [shown.alike.settled?, unsettled]; rfl⟩
  have run (side : Side) : failCheck call side (w.message side) q =
      (.raised (p side).heap.size, (warned side).push (.fault failure)) := by
    obtain ⟨around, none⟩ := settles side
    have none' : (warned side).settled? = .none :=
      ((p side).settled?_trace _).trans (by rw [none]; rfl)
    have made : newViolation side.faultClass (w.message side) q =
        (.done q.heap.size, q.push (.fault (side.violationOf (w.message side)))) := rfl
    have warns := reportViolation_eq (legible_violationOf call side (w.message side))
      (intact.tells_push _) (Machine.cell_push_size q _) (done side ▸ shown.shows side)
    have unreported := warns.trans (bind_of_raised (fails (warned side) around none') _)
    exact (bind_of_done made _).trans (bind_of_raised unreported _)
  have size : (p .post).heap.size = (p .pre).heap.size := shown.alike.size
  refine .told (.raised (p .pre).heap.size) q.heap.size none w true false none (p .pre).trace ?_
    fun side => ?_
  · rw [bind_of_raised (run .pre), bind_of_raised (run .post)]
    exact (shown.alike.record _ _).push _
  · rw [bind_of_raised (run side)]
    refine ⟨?_, ?_, ?_, nofun⟩
    · cases side with
      | pre => rfl
      | post => rw [size]
    · cases side with
      | pre => rfl
      | post => exact congrArg _ shown.trace
    · exact (Machine.cell_push_of_lt (Machine.lt_size_of_cell (shown.kept side) nofun)).trans
        (shown.kept side)

/-- The machines after twin reports are alike but for the violations and for the dictionaries of
what has been put on the span. -/
theorem afterReport_alike {k : Side → Machine} {e : Ref} {trace : List Entry}
    (alike : (k .pre).AlikeBut [e] (k .post)) (w : Wording) (i : Nat)
    (both : ∀ side, (k side).trace = trace ∧
      (k side).cell e = .fault (side.violationOf (w.message side))) :
    let after (side : Side) :=
      (k side).afterReport side (w.message side) (w.shown side) (w.answered side) i
    ∃ noted dictionary, (after .pre).AlikeBut (e :: Option.toList dictionary) (after .post) ∧
      ∀ side, (after side).trace = side.recorded w true noted ++ trace ∧
        (after side).cell e = .fault (side.violationOf (w.message side)) ∧
        ∀ d ∈ dictionary, (after side).cell d = side.entries (w.message side) := by
  intro after
  have wish (side : Side) : (k side).asksForEvents i = (k .pre).asksForEvents i := by
    cases side with
    | pre => rfl
    | post => exact alike.asksForEvents i
  cases asked : (k .pre).asksForEvents i with
  | false =>
    have quiet (side : Side) : after side = (k side).warned (side.warning (w.shown side)) :=
      if_neg (by rw [wish side, asked]; nofun)
    refine ⟨false, none, ?_, fun side => ?_⟩
    · rw [quiet, quiet]
      exact alike.record _ _
    · rw [quiet]
      exact ⟨congrArg _ (both side).1, (both side).2, nofun⟩
  | true =>
    let told (side : Side) := ((k side).warned (side.warning (w.shown side))).withEntries side.kind
      (w.message side)
    have loud (side : Side) : after side = { told side with
        trace := (k side).violationEvent side.kind (w.answered side) ++ (told side).trace } :=
      if_pos (by rw [wish side, asked])
    have span (side : Side) : (k side).span = (k .pre).span := by
      cases side with
      | pre => rfl
      | post => rw [alike.rest]
    have size (side : Side) : (k side).heap.size = (k .pre).heap.size := by
      cases side with
      | pre => rfl
      | post => exact alike.size
    refine ⟨(k .pre).span = .recording, some (k .pre).heap.size, ?_, fun side => ?_⟩
    · rw [loud, loud]
      have pushed := ((alike.record (.log .warning .assertions (Side.pre.warning (w.shown .pre)) ::
        (k .pre).trace) (.log .warning .assertions (Side.post.warning (w.shown .post)) ::
        (k .post).trace)).push_both (Side.pre.entries (w.message .pre))
          (Side.post.entries (w.message .post))).record
      exact (pushed _ _).mono (by simp)
    · rw [loud]
      obtain ⟨recorded, stands⟩ := both side
      refine ⟨?_, ?_, fun d mem => ?_⟩
      · have before : (told side).trace =
            .log .warning .assertions (side.warning (w.shown side)) :: trace := congrArg _ recorded
        unfold Side.recorded
        rw [before, Machine.violationEvent_eq, span side, List.append_assoc]
        simp
      · exact (Machine.cell_push_of_lt (Machine.lt_size_of_cell stands nofun)).trans stands
      · cases mem
        rw [← size side]
        exact Machine.cell_push_size _ _

/-- Twin violations that are raised once they have been reported. -/
theorem twins_of_reported {run : Side → Outcome Value × Machine} {after : Side → Machine} {e : Ref}
    {noted : Bool} {dictionary : Option Ref} {trace : List Entry}
    (alike : (after .pre).AlikeBut (e :: dictionary.toList) (after .post))
    (both : ∀ side, (after side).trace = side.recorded w true noted ++ trace ∧
      (after side).cell e = .fault (side.violationOf (w.message side)) ∧
      ∀ d ∈ dictionary, (after side).cell d = side.entries (w.message side))
    (raises : ∀ side, run side = (raise e : Act Value) (after side)) : Twins shape run := by
  -- no links go out from the dictionary of what has been put on the span
  have unlinked (side : Side) : ∀ d ∈ e :: dictionary.toList, d ≠ e →
      ((after side).faultAt d).context = none := by
    intro d mem ne
    have here : d ∈ dictionary := by simpa [ne] using mem
    unfold Machine.faultAt
    rw [(both side).2.2 d here]
    rfl
  obtain ⟨context, x, y, first, second, alike', flies, flies'⟩ := alike.raise
    (List.mem_cons_self ..) (both .pre).2.1 (both .post).2.1 ⟨rfl, rfl⟩
    (fun d mem ne => ⟨unlinked .pre d mem ne, unlinked .post d mem ne⟩) Value
  have other (side : Side) : ∀ d ∈ dictionary, d ≠ e := by
    rintro d mem rfl
    exact absurd ((both side).2.1.symm.trans ((both side).2.2 d mem)) nofun
  have ends {side : Side} {n : Machine} (flies : (after side).Flies (e :: dictionary.toList) e
      { side.violationOf (w.message side) with context } n) :
      n.trace = side.recorded w true noted ++ trace ∧
        n.cell e = .fault { side.violationOf (w.message side) with context } ∧
        ∀ d ∈ dictionary, n.cell d = side.entries (w.message side) := by
    refine ⟨?_, flies.stands, fun d mem => ?_⟩
    · rw [flies.rest]
      exact (both side).1
    · rw [flies.cell d (by simp [Option.mem_def.1 mem]) (other side d mem)]
      exact (both side).2.2 d mem
  have pre := (raises .pre).trans first
  have post := (raises .post).trans second
  refine .told (.raised e) e context w true noted dictionary trace ?_ fun side => ?_
  · rw [pre, post]
    exact alike'
  · cases side with
    | pre =>
      rw [pre]
      exact ⟨rfl, ends flies⟩
    | post =>
      rw [post]
      exact ⟨rfl, ends flies'⟩

/-- Twin violations that have been reported. -/
theorem twins_of_settled (intact : q.Intact) (shown : ShownAlike call q w o p)
    (done : ∀ side, o side = .done (w.shown side)) {i : Nat} {k : Machine}
    (settled : (p .pre).settled? = some (i, k)) :
    Twins shape fun side => (failCheck call side (w.message side) >>= fun _ => pure .null) q := by
  obtain ⟨l, settled', alike, recorded⟩ := shown.alike.of_settled settled
  let k' (side : Side) := side.choose k l
  have settles (side : Side) : (p side).settled? = some (i, k' side) := by
    cases side with
    | pre => exact settled
    | post => exact settled'
  have both (side : Side) : (k' side).trace = (p .pre).trace ∧
      (k' side).cell q.heap.size = .fault (side.violationOf (w.message side)) := by
    refine ⟨?_, (Machine.cell_of_settled (settles side) _).trans (shown.kept side)⟩
    cases side with
    | pre =>
      have rest := (Machine.rest_of_settled settled).1
      exact (congrArg Machine.trace rest).trans rfl
    | post => exact recorded.trans shown.trace
  have can (side : Side) : Reportable call side (w.message side) q (w.shown side)
      (w.answered side) (p side) i (k' side) :=
    ⟨intact, done side ▸ shown.shows side, shown.intact side, shown.kept side, settles side,
      shown.answers side i (k' side) (settles side)⟩
  obtain ⟨noted, dictionary, reported, after⟩ := afterReport_alike alike w i both
  refine twins_of_reported reported after fun side => ?_
  have made : newViolation side.faultClass (w.message side) q =
      (.done q.heap.size, q.push (.fault (side.violationOf (w.message side)))) := rfl
  unfold failCheck
  rw [bind_assoc, bind_of_done made, bind_assoc, bind_of_done (can side).report_eq, raise_bind]

/-- Failed checks of both sides are twins. -/
theorem failCheck_twins (intact : q.Intact) (shown : ShownAlike call q w o p) :
    Twins shape fun side => (failCheck call side (w.message side) >>= fun _ => pure .null) q := by
  rcases shown.ends with done | ⟨x, raised⟩ | exhausted
  · cases settled : (p .pre).settled? with
    | none => exact twins_of_unsettled intact shown done settled
    | some found => exact twins_of_settled intact shown done settled
  · have fails (side : Side) := raised side ▸ shown.shows side
    exact twins_of_unshown shown fun side =>
      bind_of_raised (failCheck_of_unshown intact (fails side)) _
  · have ends (side : Side) := exhausted side ▸ shown.shows side
    exact twins_of_unshown shown fun side =>
      bind_of_exhausted (failCheck_of_exhausted intact (ends side)) _

/-! ## Asking on both sides -/

theorem bind_of_same {α β : Type} {x y : Act α} (same : x m = y m) (f : α → Act β) :
    (x >>= f) m = (y >>= f) m := by
  change Act.bind x f m = Act.bind y f m
  unfold Act.bind
  rw [same]

/-- The arguments of an assertion fit, or are refused, whatever the assertion is called. -/
theorem matched_signature (shape : Shape) (args : List Value) (named : Fields) (m : Machine) :
    (∃ a, ∀ name, matched (shape.signature name) args named m = (.done a, m)) ∨
    ∃ mistake, ∀ name, matched (shape.signature name) args named m =
      (fail .typeError ((shape.signature name).explain mistake) : Act Arguments) m := by
  have renamed (name : String) :
      shape.signature name = { shape.signature "" with title := name } := by
    cases shape <;> rfl
  have alike (name : String) : (shape.signature name).bind args named =
      (shape.signature "").bind args named := by
    rw [renamed, Signature.bind_title]
  unfold matched
  cases bound : (shape.signature "").bind args named with
  | ok a => exact .inl ⟨a, fun name => by rw [alike, bound]; rfl⟩
  | error mistake => exact .inr ⟨mistake, fun name => by rw [alike, bound]⟩

theorem routineName_assertion (side : Side) (shape : Shape) :
    routineName (.assertion side shape) = side.operation shape := by
  cases side <;> cases shape <;> rfl

/-- Both sides ask the same of a machine: they refuse their arguments for the same reason; or what
comes of it is the same; or there is a message with the title of the side. -/
inductive AskTwins (shape : Shape) (m : Machine)
    (asked : Side → Outcome (Option Value) × Machine) : Prop
  | refused (refusal : Refusal)
      (both : ∀ side, asked side = (fail .typeError (refusal.text shape (side.operation shape)) :
        Act (Option Value)) m)
  | same (ended : Outcome (Option Value) × Machine) (both : ∀ side, asked side = ended)
  | titled (text : String) (q : Machine)
      (both : ∀ side, asked side =
        (.done (some (.text (side.title ++ " failed: " ++ text))), q))

/-- Arguments that do not fit are refused, and what asks of those that do decides. -/
theorem askTwins_of_matched (shape : Shape) (args : List Value) (named : Fields)
    {next : Side → Arguments → Act (Option Value)}
    (twins : ∀ a, AskTwins shape m fun side => next side a m) :
    AskTwins shape m fun side =>
      (matched (shape.signature (routineName (.assertion side shape))) args named >>= next side)
        m := by
  obtain ⟨a, fits⟩ | ⟨mistake, refused⟩ := matched_signature shape args named m
  · simp only [bind_of_done (fits _)]
    exact twins a
  · refine .refused (.unfitting mistake) fun side => ?_
    have failed := congrFun (fail_bind .typeError
      ((shape.signature (side.operation shape)).explain mistake) (next side)) m
    rw [routineName_assertion]
    exact (bind_of_same (refused _) _).trans failed

theorem asks_twins (call : Caller) (shape : Shape) (args : List Value) (named : Fields)
    (m : Machine) : AskTwins shape m fun side => asks call side shape args named m := by
  cases shape with
  | plain =>
    refine askTwins_of_matched .plain args named fun a => ?_
    have verb (side : Side) : side.verb = side.operation .plain := by cases side <;> rfl
    cases a.values[2]?.join with
    | none =>
      dsimp only
      split
      · exact .same _ fun _ => rfl
      · refine .refused (.noMessage (m.typeName (a.value 1))) fun side => ?_
        rw [verb]
        rfl
    | some message =>
      dsimp only
      split
      · exact .same _ fun _ => rfl
      · refine .refused (.noMessageForValue (m.typeName message)) fun side => ?_
        rw [verb]
        rfl
  | formatted =>
    exact askTwins_of_matched .formatted args named fun a => .same _ fun _ => rfl
  | context =>
    refine askTwins_of_matched .context args named fun a => ?_
    unfold messageUnless
    cases asked : truth call (a.value 0) m with
    | mk holds q =>
      cases holds with
      | raised e => exact .same (.raised e, q) fun _ => bind_of_raised asked _
      | exhausted => exact .same (.exhausted, q) fun _ => bind_of_exhausted asked _
      | done holds =>
        simp only [bind_of_done asked]
        cases holds with
        | true => exact .same _ fun _ => rfl
        | false =>
          cases shows : shown call (a.value 1) q with
          | mk text q' =>
            cases text with
            | raised e =>
              exact .same (.raised e, q') fun _ => bind_of_raised (bind_of_raised shows _) _
            | exhausted =>
              exact .same (.exhausted, q') fun _ => bind_of_exhausted (bind_of_exhausted shows _) _
            | done text => exact .titled text q' fun _ => bind_of_done (bind_of_done shows _) _

/-! ## Calls on both sides -/

/-- Twin refusals. -/
theorem twins_of_refused (m : Machine) {run : Side → Outcome Value × Machine}
    (refusal : Refusal)
    (both : ∀ side, run side =
      (fail .typeError (refusal.text shape (side.operation shape)) : Act Value) m) :
    Twins shape run := by
  let fault (side : Side) : Fault :=
    .fresh (.known (.fault .typeError)) [.text (refusal.text shape (side.operation shape))] []
  have same : m.AlikeBut [] m := .refl m
  obtain ⟨context, x, y, first, second, alike, flies, flies'⟩ :=
    (same.push_both (.fault (fault .pre)) (.fault (fault .post))).raise (List.mem_cons_self ..)
      (Machine.cell_push_size m _) (Machine.cell_push_size m _) ⟨rfl, rfl⟩
      (fun s mem ne => absurd (List.mem_singleton.1 mem) ne) Value
  have pre : run .pre = (.raised m.heap.size, x) := (both .pre).trans first
  have post : run .post = (.raised m.heap.size, y) := (both .post).trans second
  refine .refused m.heap.size context m.trace refusal ?_ fun side => ?_
  · rw [pre, post]
    exact alike
  · cases side with
    | pre =>
      rw [pre]
      exact ⟨rfl, by rw [flies.rest]; rfl, flies.stands⟩
    | post =>
      rw [post]
      exact ⟨rfl, by rw [flies'.rest]; rfl, flies'.stands⟩

/-- An assertion for preconditions and the one for postconditions of the same shape come to the same
on the same arguments, but for the names that the sides go by: they end alike, have recorded the
same, and leave the same machine. Where they do not hold, this relies on scripts having left alone
what a report asks for; and a message that is no text has to be shown alike for both. -/
theorem assertions_are_twins (call : Caller) (shape : Shape) (args : List Value) (named : Fields)
    (m : Machine)
    (intact : ∀ v q, asks call .pre shape args named m = (.done (some v), q) → q.Intact)
    (told : ∀ v q, asks call .pre shape args named m = (.done (some v), q) →
      (∀ s, v ≠ .text s) → ∃ s a o p, ShownAlike call q (.given v s a) o p) :
    Twins shape fun side => callRoutine call (.assertion side shape) args named m := by
  simp only [callRoutine_assertion]
  cases asks_twins call shape args named m with
  | refused refusal both =>
    refine twins_of_refused m refusal fun side => ?_
    rw [bind_of_same (both side), fail_bind]
  | same ended both =>
    obtain ⟨found, q⟩ := ended
    cases found with
    | raised e => exact .same (.raised e, q) fun side => bind_of_raised (both side) _
    | exhausted => exact .same (.exhausted, q) fun side => bind_of_exhausted (both side) _
    | done found =>
      simp only [bind_of_done (both _)]
      cases found with
      | none => exact .same (.done .null, q) fun _ => rfl
      | some v =>
        have rests := intact v q (both .pre)
        simp only [failIf]
        by_cases text : ∃ s, v = .text s
        · obtain ⟨s, rfl⟩ := text
          have ends : Twins shape _ := failCheck_twins rests
            (shownAlike_of_isText call rests (Wording.isText_given s))
          exact ends
        · obtain ⟨s, a, o, p, shown⟩ := told v q (both .pre) fun s same => text ⟨s, same⟩
          have ends : Twins shape _ := failCheck_twins rests shown
          exact ends
  | titled text q both =>
    have rests := intact (.text (Side.pre.title ++ " failed: " ++ text)) q (both .pre)
    simp only [bind_of_done (both _), failIf]
    have ends : Twins shape _ := failCheck_twins rests
      (shownAlike_of_isText call rests (Wording.isText_titled text))
    exact ends

/-- The text of a condition that does not hold is told by both sides. -/
theorem assertions_are_twins_context :
    Twins .context fun side => callRoutine (callWithin 1) (.assertion side .context)
      [.bool false, .text "paid"] [] watched := by
  have asked (side : Side) :
      asks (callWithin 1) side .context [.bool false, .text "paid"] [] watched =
        (.done (some (.text (side.title ++ " failed: " ++ "paid"))), watched) := rfl
  have plain : watched.Plain := ⟨rfl, rfl, rfl, fun _ mem => absurd mem List.not_mem_nil⟩
  refine assertions_are_twins _ _ _ _ _ (fun v q found => ?_) fun v q found other => ?_
  · obtain ⟨-, rfl⟩ := Prod.mk.inj ((asked .pre).symm.trans found)
    exact plain.intact
  · obtain ⟨same, -⟩ := Prod.mk.inj ((asked .pre).symm.trans found)
    cases same
    exact absurd rfl (other _)

/-- A machine on which the violations of preconditions have been given the kind of those of
invariants. -/
def repatched : Machine :=
  { threeFaults with
    current := some 0
    patches := [(.fault .preconditionError, [("kind", .member (.kind .invariant))])] }

/-- The warnings about violations that have been recorded, latest first. -/
def warnings (trace : List Entry) : List String :=
  trace.filterMap fun
    | .log .warning .assertions s => some s
    | _ => none

/-- The warnings there differ in more than the names of the sides. -/
theorem patched_kind_tells_sides_apart :
    ¬ Twins .plain fun side => callRoutine (callWithin 1) (.assertion side .plain)
      [.bool false, .text "m"] [] repatched := by
  let run (side : Side) := callRoutine (callWithin 1) (.assertion side .plain)
    [.bool false, .text "m"] [] repatched
  have pre : warnings (run .pre).2.trace = ["Contract invariant violated: m"] := by decide +kernel
  have post : warnings (run .post).2.trace = ["Contract postcondition violated: m"] := by
    decide +kernel
  have differ : warnings (run .pre).2.trace ≠ warnings (run .post).2.trace := by
    rw [pre, post]
    decide
  intro twins
  cases twins with
  | same ended both =>
    exact differ (congrArg (fun ended => warnings ended.2.trace)
      ((both .pre).trans (both .post).symm))
  | refused e context before refusal alike both =>
    exact differ (congrArg warnings ((both .pre).2.1.trans (both .post).2.1.symm))
  | told ended e context w warned noted dictionary before alike both =>
    have told (side : Side) : warnings (run side).2.trace =
        (if warned then [side.warning (w.shown side)] else []) ++ warnings before := by
      have recorded := congrArg warnings (both side).2.1
      cases warned <;> cases noted <;> exact recorded
    cases warned with
    | false => exact differ ((told .pre).trans (told .post).symm)
    | true =>
      have first := (List.cons.inj (pre.symm.trans (told .pre))).1
      have longer := congrArg String.length first
      simp only [Side.warning, Side.kind, Kind.text, String.length_append] at longer
      have short : "Contract invariant violated: m".length = 30 := by decide
      have long : "Contract ".length + "precondition".length + " violated: ".length = 32 := by
        decide
      omega

end Act

end Covenant
