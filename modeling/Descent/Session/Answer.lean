import Descent.Session.Request
import Descent.Grammar.Complete
import Descent.Json.Read
import Descent.Json.Write

/-!
# Answers

How a request is answered. A run that matches gives its value, its position and what is left;
one that does not gives `{"ok": false}`; a fault gives its text as a panic, with the events
reported up to it. A whole-input run gives its value or names why it is not one. A cursor script
gives one entry per step, up to a step that faults. A refused request gives the reason, with the
events reported before the refusal if the request asks for them.

`respond` answers one line of text with one line of text.
-/

namespace Descent

/-- A refused request. -/
def DescriptionError.toJson (e : DescriptionError) : Json :=
  Json.ofFields [("error", .str "BadRequest"), ("message", .str e.message)]

/-- A text that holds no JSON value, answered with the reader's words and place. -/
def Json.ReadError.toJson (e : Json.ReadError) (text : String) : Json :=
  Json.ofFields [("error", .str "BadJson"), ("message", .str (e.message text))]

/-- A run that stopped. -/
def Stop.toJson : Stop → Json
  | .fault f => Json.ofFields [("error", .str "panic"), ("message", .str f.message)]
  | .diverges =>
    Json.ofFields [("error", .str "diverges"), ("message", .str "the grammar never stops on this input")]

/-- A trace event. -/
def Event.toJson : Event → Json
  | .attempt label p =>
    Json.ofFields [("message", .str "attempt"), ("parser", .str label), ("position", .int p)]
  | .matched label p n =>
    Json.ofFields [("message", .str "matched"), ("parser", .str label), ("position", .int p),
      ("consumed", .int n)]
  | .noMatch label p =>
    Json.ofFields [("message", .str "no match"), ("parser", .str label), ("position", .int p)]

/-- A whole-input outcome. -/
def Completion.toJson (c : Completion) : Json :=
  match c with
  | .value v => Json.ofFields [("ok", .bool true), ("value", v.toJson)]
  | .noMatch => Json.ofFields [("error", .str "NoMatch"), ("message", .str c.message)]
  | .incomplete p n =>
    Json.ofFields [("error", .str "Incomplete"), ("message", .str c.message), ("position", .int p),
      ("remaining", .int n)]

/-- An answer object with the events added if the request asks for them. -/
def withTrace (trace : Bool) (events : List Event) : Json → Json
  | .obj fs => if trace then Json.ofFields (fs ++ [("trace", .arr (events.map Event.toJson))])
    else .obj fs
  | j => j

/-- A run's answer: the answer of its result, or of how it stopped. -/
def Run.answer {β : Type} (trace : Bool) (r : Run β) (ok : β → Json) : Json :=
  withTrace trace r.events <| match r.result with
    | .ok b => ok b
    | .error s => s.toJson

/-- The state of a cursor script: the cursor and the saved cursors by slot. -/
structure Session where
  cursor : Cursor Element
  slots : List (Nat × Cursor Element)

/-- How a script ends: all its steps done, a step that faults, or a refused step. -/
inductive Ending where
  | done
  | stopped (s : Stop)
  | refused (e : DescriptionError)

/-- A step's entry: its result and the cursor's position after it. -/
def entry (result : Json) (position : Nat) : Json :=
  Json.ofFields [("result", result), ("position", .int position)]

namespace Request

/-- A parse outcome written as a step result. -/
def outcomeResult : Outcome → Json
  | some (v, _) => Json.ofFields [("ok", .bool true), ("value", v.toJson)]
  | none => Json.ofFields [("ok", .bool false)]

/-- Play the steps of a script: the entries, the events, and how the script ended. -/
def play (req : Request) : List Step → Session → List Json × List Event × Ending
  | [], _ => ([], [], .done)
  | step :: steps, s =>
    let c := s.cursor
    let proceed (result : Json) (s' : Session) : List Json × List Event × Ending :=
      let (es, evs, e) := play req steps s'
      (entry result s'.cursor.position :: es, evs, e)
    match step with
    | .head => proceed ((c.head?.map Element.toJson).getD .null) s
    | .tail =>
      match c.advance with
      | .ok d => proceed .null { s with cursor := d }
      | .error e => ([(Stop.fault (.atEnd e)).toJson], [], .stopped (.fault (.atEnd e)))
    | .tryTail =>
      match c.advance with
      | .ok d => proceed (Json.ofFields [("ok", .bool true)]) { s with cursor := d }
      | .error e =>
        proceed (Json.ofFields [("error", .str "AlreadyAtEnd"), ("message", .str e.message),
          ("position", .int e.position)]) s
    | .isEmpty => proceed (.bool c.isEmpty) s
    | .len => proceed (.int c.remaining) s
    | .position => proceed (.int c.position) s
    | .rest => proceed (req.kind.writeElements c.rest) s
    | .source => proceed (req.kind.writeElements c.source.toList) s
    | .inner => proceed (.arr [req.kind.writeElements c.source.toList, .int c.position]) s
    | .reset => proceed .null { s with cursor := Cursor.start req.input }
    | .save k => proceed .null { s with slots := (k, c) :: s.slots }
    | .load k =>
      match s.slots.lookup k with
      | some d => proceed .null { s with cursor := d }
      | none => ([], [], .refused .emptySlot)
    | .eq k =>
      match s.slots.lookup k with
      | some d => proceed (.bool (c.sameRest d)) s
      | none => ([], [], .refused .emptySlot)
    | .eqOther es => proceed (.bool (c.sameRest (Cursor.start es))) s
    | .parse g =>
      let r := g.run req.rules c
      match r.result with
      | .ok o =>
        let s' := match o with
          | some (_, d) => { s with cursor := d }
          | none => s
        let (es, evs, e) := play req steps s'
        (entry (outcomeResult o) s'.cursor.position :: es, r.events ++ evs, e)
      | .error stop => ([stop.toJson], r.events, .stopped stop)
    | .complete g =>
      let r := g.complete req.rules c.rest.toArray
      match r.result with
      | .ok o =>
        let (es, evs, e) := play req steps s
        (entry o.toJson c.position :: es, r.events ++ evs, e)
      | .error stop => ([stop.toJson], r.events, .stopped stop)
    | .refused e => ([], [], .refused e)

/-- The answer to a request. -/
def answer (req : Request) : Json :=
  match req.task with
  | .parse g start =>
    match (Cursor.start req.input).advanceBy start with
    | .error e => withTrace req.trace [] (Stop.fault (.atEnd e)).toJson
    | .ok c =>
      Run.answer req.trace (g.run req.rules c) fun
        | some (v, d) => Json.ofFields [("ok", .bool true), ("value", v.toJson),
            ("position", .int d.position), ("rest", req.kind.writeElements d.rest)]
        | none => Json.ofFields [("ok", .bool false)]
  | .complete g => Run.answer req.trace (g.complete req.rules req.input) Completion.toJson
  | .script steps =>
    let (entries, events, ending) := req.play steps ⟨Cursor.start req.input, []⟩
    match ending with
    | .refused e => withTrace req.trace events e.toJson
    | _ => withTrace req.trace events (Json.ofFields [("steps", .arr entries)])

end Request

/-- The answer to one line of text holding a request. -/
def respond (line : String) : String :=
  let reply := match Json.read line with
    | .error e => e.toJson line
    | .ok j =>
      match Request.ofJson j with
      | .error e => withTrace (Request.wantsTrace j) [] e.toJson
      | .ok req => req.answer
  reply.render

end Descent
