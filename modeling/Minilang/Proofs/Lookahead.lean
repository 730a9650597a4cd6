import Minilang.Parser.Operation
import Minilang.Proofs.Reach
import Minilang.Proofs.Tokenization

namespace Minilang

def tokenAt (text : Text) (k : Nat) : Token := ((TokenStream.ofText text).take k).2.next.1

theorem tokenAt_eq (text : Text) (k : Nat) :
    tokenAt text k = (tokens text)[k]?.getD (.eof (Text.byteLength text)) := by
  have stop : (TokenStream.ofText text).stop = Text.byteLength text := Nat.zero_add _
  rw [tokenAt, TokenStream.take_next, stop]
  rfl

/-- The errors stand at tokens of the text, none before an earlier one, between two positions. -/
inductive ReportedBetween (text : Text) : Nat → Nat → List SyntaxError → Prop where
  | nil {lower upper : Nat} (ordered : lower ≤ upper) : ReportedBetween text lower upper []
  | cons {lower place upper : Nat} {e : SyntaxError} {es : List SyntaxError}
      (ordered : lower ≤ place) (found : e.found = (tokenAt text place).kind)
      (span : e.span = (tokenAt text place).span)
      (later : ReportedBetween text place upper es) : ReportedBetween text lower upper (e :: es)

namespace ReportedBetween
variable {text : Text} {lower middle upper : Nat} {es fs : List SyntaxError}

theorem append (first : ReportedBetween text lower middle es)
    (second : ReportedBetween text middle upper fs) :
    ReportedBetween text lower upper (es ++ fs) := by
  induction first with
  | nil ordered =>
    cases second with
    | nil ordered' => exact .nil (by omega)
    | cons ordered' found span later => exact .cons (by omega) found span later
  | cons ordered found span later ih => exact .cons ordered found span (ih second)

end ReportedBetween

namespace Parser
variable {text : Text} {p q : Parser}

/-- The parser looks at the token of its position and at the one behind it. -/
structure Tracks (text : Text) (p : Parser) : Prop where
  current : p.current = tokenAt text p.position
  peek : p.peek = tokenAt text (p.position + 1)

structure Within (text : Text) (p : Parser) : Prop where
  upcoming : p.upcoming = (tokens text).drop p.position
  endOfText : p.endOfText = Text.byteLength text

theorem within_ofText (text : Text) : (ofText text).Within text := by
  constructor
  · rfl
  · rfl

theorem Within.tracks (within : p.Within text) : p.Tracks text := by
  constructor
  · rw [tokenAt_eq, current, within.upcoming, within.endOfText, List.headD_eq_head?_getD,
      List.head?_drop]
  · rw [tokenAt_eq, peek, within.upcoming, within.endOfText, List.headD_eq_head?_getD,
      List.tail_drop, List.head?_drop]

theorem Within.reach (within : p.Within text) (reach : Reaches p q) : q.Within text := by
  induction reach with
  | start => exact within
  | @advance q earlier ih =>
    constructor
    · rw [advance, ih.upcoming, List.tail_drop]
    · exact ih.endOfText
  | report cause earlier ih => exact ⟨ih.upcoming, ih.endOfText⟩

structure Adds (text : Text) (p q : Parser) (es : List SyntaxError) : Prop where
  errors : q.errors = p.errors ++ es
  places : ReportedBetween text p.position q.position es

theorem Reaches.adds (reach : Reaches p q) (within : p.Within text) : ∃ es, Adds text p q es := by
  induction reach with
  | start => exact ⟨[], (List.append_nil _).symm, .nil (Nat.le_refl _)⟩
  | @advance q earlier ih =>
    obtain ⟨es, errors, places⟩ := ih
    have moved : ReportedBetween text q.position q.advance.position [] := .nil (Nat.le_succ _)
    have more := places.append moved
    rw [List.append_nil] at more
    exact ⟨es, errors, more⟩
  | @report q cause earlier ih =>
    obtain ⟨es, errors, places⟩ := ih
    have here := (within.reach earlier).tracks.current
    let e : SyntaxError := ⟨cause, q.current.kind, q.current.span⟩
    -- the error is reported at the current token, which is that of the position
    have reported : ReportedBetween text q.position q.position [e] :=
      .cons (Nat.le_refl _) (congrArg Token.kind here) (congrArg Token.span here)
        (.nil (Nat.le_refl _))
    refine ⟨es ++ [e], ?_, places.append reported⟩
    rw [Parser.report, errors, List.append_assoc]

theorem reaches_run (p : Parser) (o : Operation) : Reaches p (o.run p).2 := by
  cases o with
  | program => exact reaches_declarations p
  | function => exact reaches_function p
  | block => exact reaches_block p
  | statement => exact reaches_statement p
  | assignment => exact reaches_assignment p
  | returnStatement => exact reaches_returnStatement p
  | expression => exact reaches_expression p
  | call => exact reaches_call p
  | intLiteral => exact reaches_intLiteral p
  | identifier => exact reaches_identifier p
  | parameters => exact reaches_parameters p
  | semicolon => exact reaches_semicolon p
  | skipStatement => exact reaches_skipUntil _ p
  | startsStatement => exact .start
  | atBoundary => exact .start
  | advance => exact reaches_advance p
  | eat kind => exact reaches_eat kind p
  | report cause => exact reaches_report cause p

theorem reaches_after (p : Parser) (operations : List Operation) :
    Reaches p (p.after operations) := by
  induction operations generalizing p with
  | nil => exact .start
  | cons o os ih => exact (reaches_run p o).trans (ih _)

/-- One operation of a run: the parser tracks the stream before it and behind it, and only adds to
its errors. -/
structure OperationOfRun (text : Text) (p q : Parser) : Prop where
  before : p.Tracks text
  behind : q.Tracks text
  moves : Reaches p q
  added : ∃ es, Adds text p q es

/-- The position is the number of advances so far, and all else follows from it. -/
theorem any_order_tracks_stream (text : Text) (earlier : List Operation) (o : Operation) :
    OperationOfRun text ((ofText text).after earlier) (o.run ((ofText text).after earlier)).2 := by
  have before : ((ofText text).after earlier).Within text :=
    (within_ofText text).reach (reaches_after _ earlier)
  have reach := reaches_run ((ofText text).after earlier) o
  constructor
  · exact before.tracks
  · exact (before.reach reach).tracks
  · exact reach
  · exact reach.adds before

end Parser
end Minilang
