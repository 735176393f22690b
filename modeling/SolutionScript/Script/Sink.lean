import SolutionScript.Failure

/-!
# Sinks

Where scripts are written to. A sink takes a whole text or refuses it, and then
passes on what it has taken; what a failure to do so means for a script is an
emit fault of the format. Scripts are made complete in a buffer, which refuses
nothing (`emit_buffer`).
-/

namespace SolutionScript

/-- How a sink behaves. -/
structure SinkKind where
  /-- Why it refuses a text after the texts that it has taken, if it does. -/
  refusal? : List String → String → Option EmitCause := fun _ _ => none
  /-- Why it can not pass on the texts that it has taken, if it can not. -/
  flushFault? : List String → Option EmitCause := fun _ => none

namespace SinkKind

/-- A sink that takes every text. -/
def buffer : SinkKind := {}

/-- A sink that takes nothing any more. -/
def closed : SinkKind where
  refusal? _ _ := some .closedSink

/-- A sink that has no room for a text. -/
def full : SinkKind where
  refusal? _ _ := some .fullSink

/-- A sink that can hold ASCII characters only. -/
def ascii : SinkKind where
  refusal? _ text := (Text.encodeFault? .ascii (Text.codePoints text)).map .encoding

end SinkKind

/-- A sink, and the texts that it has taken. -/
structure Sink where
  kind : SinkKind := .buffer
  written : List String := []

namespace Sink

/-- The sink after it has taken one more text. -/
def append (s : Sink) (text : String) : Sink := { s with written := s.written ++ [text] }

/-- Why a sink fails on a text: it refuses the text, or takes it and can not pass
it on. -/
def fault? (s : Sink) (text : String) : Option EmitCause :=
  (s.kind.refusal? s.written text).or (s.kind.flushFault? (s.append text).written)

/-- Writes a script of a format and passes it on. -/
def emit (s : Sink) (format text : String) : Sink × Except Failure Unit :=
  match s.kind.refusal? s.written text with
  | some cause => (s, .error (.tool (.emit format cause)))
  | none =>
    match s.kind.flushFault? (s.append text).written with
    | some cause => (s.append text, .error (.tool (.emit format cause)))
    | none => (s.append text, .ok ())

/-- The sink after a script of a format, if it does not fail. -/
def write (s : Sink) (format text : String) : Except Failure Sink :=
  match s.emit format text with
  | (s, .ok ()) => .ok s
  | (_, .error failure) => .error failure

/-- All that the sink has taken. -/
def content (s : Sink) : String := Text.join "" s.written

/-! ## What a sink does with a script -/

variable {s : Sink} {format text : String}

@[simp] theorem content_append_empty (text : String) :
    Sink.content (Sink.append {} text) = text := by
  simp [content, append, Text.join]

theorem emit_of_none (h : s.fault? text = none) : s.emit format text = (s.append text, .ok ()) := by
  rw [fault?, Option.or_eq_none_iff] at h
  simp only [emit, h.1, h.2]

/-- Where a sink fails, it has taken the text or not, and the fault is one of the
format. -/
theorem emit_of_some (format : String) {cause : EmitCause} (h : s.fault? text = some cause) :
    ∃ s', s.emit format text = (s', .error (.tool (.emit format cause))) := by
  rw [fault?, Option.or_eq_some_iff] at h
  rcases h with hrefused | ⟨htaken, hflush⟩
  · exact ⟨s, by simp only [emit, hrefused]⟩
  · exact ⟨s.append text, by simp only [emit, htaken, hflush]⟩

/-- A buffer takes every script. -/
@[simp] theorem emit_buffer (format text : String) :
    Sink.emit {} format text = (Sink.append {} text, .ok ()) := rfl

end Sink

end SolutionScript
