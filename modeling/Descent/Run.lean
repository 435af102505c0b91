import Descent.Fault

/-!
# Runs

A run is a computation that reports trace events as it goes and ends with a result, or stops:
with a fault, or because it would never end. The events reported before a stop are kept, so an
answer can show how far a run came.

Events are those of labelled grammars: an attempt at a position, then a match with the number
of elements it consumed, or no match.
-/

namespace Descent

/-- What a labelled grammar reports. -/
inductive Event where
  | attempt (label : String) (position : Nat)
  | matched (label : String) (position : Nat) (consumed : Nat)
  | noMatch (label : String) (position : Nat)

/-- Why a run stopped early. -/
inductive Stop where
  | fault (f : Fault)
  | diverges

/-- A computation that reports events and ends with a result or stops. -/
structure Run (β : Type) where
  events : List Event
  result : Except Stop β

namespace Run

/-- A result with no events. -/
def ret {β : Type} (b : β) : Run β := ⟨[], .ok b⟩

/-- One run, then a second chosen by the first one's result; the events of both in order. -/
def bind {β γ : Type} (r : Run β) (f : β → Run γ) : Run γ :=
  match r.result with
  | .ok b =>
    let s := f b
    ⟨r.events ++ s.events, s.result⟩
  | .error e => ⟨r.events, .error e⟩

instance : Monad Run where
  pure := ret
  bind := bind

/-- Report one event. -/
def emit (e : Event) : Run Unit := ⟨[e], .ok ()⟩

/-- Stop with no events. -/
def stop {β : Type} (s : Stop) : Run β := ⟨[], .error s⟩

/-! ## Laws -/

variable {β γ δ : Type}

@[simp] theorem pure_events (b : β) : (pure b : Run β).events = [] := rfl

@[simp] theorem pure_result (b : β) : (pure b : Run β).result = .ok b := rfl

@[simp] theorem stop_events (s : Stop) : (stop s : Run β).events = [] := rfl

@[simp] theorem stop_result (s : Stop) : (stop s : Run β).result = .error s := rfl

/-- After a result, the second run's events follow the first's, and its result is the end. -/
theorem bind_of_ok {r : Run β} {b : β} (h : r.result = .ok b) (f : β → Run γ) :
    r >>= f = ⟨r.events ++ (f b).events, (f b).result⟩ := by
  show bind r f = _
  simp [bind, h]

/-- After a stop, the second run never starts. -/
theorem bind_of_error {r : Run β} {s : Stop} (h : r.result = .error s) (f : β → Run γ) :
    r >>= f = ⟨r.events, .error s⟩ := by
  show bind r f = _
  simp [bind, h]

@[simp] theorem bind_events_of_ok {r : Run β} {b : β} (h : r.result = .ok b) (f : β → Run γ) :
    (r >>= f).events = r.events ++ (f b).events := by
  rw [bind_of_ok h]

@[simp] theorem bind_result_of_ok {r : Run β} {b : β} (h : r.result = .ok b) (f : β → Run γ) :
    (r >>= f).result = (f b).result := by
  rw [bind_of_ok h]

theorem pure_bind' (b : β) (f : β → Run γ) : (pure b >>= f) = f b := rfl

theorem bind_pure' (r : Run β) : r >>= pure = r := by
  cases r with
  | mk events result =>
    cases result with
    | ok b => simp [bind_of_ok (r := ⟨events, .ok b⟩) rfl]
    | error s => simp [bind_of_error (r := ⟨events, .error s⟩) rfl]

theorem bind_assoc' (r : Run β) (f : β → Run γ) (g : γ → Run δ) :
    r >>= f >>= g = r >>= fun b => f b >>= g := by
  show bind (bind r f) g = bind r (fun b => bind (f b) g)
  obtain ⟨events, result⟩ := r
  cases result with
  | error s => rfl
  | ok b =>
    cases hf : (f b).result with
    | error s => simp [bind, hf]
    | ok c => simp [bind, hf]

instance : LawfulMonad Run :=
  LawfulMonad.mk' Run (fun r => bind_pure' r) pure_bind' bind_assoc'

end Run

end Descent
