import TerseQuery.Failure

/-!
# Sinks

Where output goes. A sink takes a text whole or refuses it, as it likes: some have an end.

* `text_of_write`: what a sink took stands behind what it took before.
* `text_writeAll_unbounded`: a sink without end takes all.
-/
namespace TerseQuery

/-- An output. -/
structure Sink where
  /-- The texts that it took, the first one first. -/
  writes : List String
  /-- What it has against a text after those that it took; nothing if it takes the text. -/
  refusal : List String → String → Option String

namespace Sink

/-- What a sink took. -/
def text (s : Sink) : String :=
  String.join s.writes

/-- A sink without end. -/
def unbounded : Sink := ⟨[], fun _ _ => none⟩

instance : Inhabited Sink := ⟨unbounded⟩

/-- The number of bytes of some texts. -/
def byteCount (texts : List String) : Nat :=
  texts.foldr (fun text count => text.utf8ByteSize + count) 0

/-- A sink that takes so many bytes and is closed to a text that goes beyond. -/
def bounded (capacity : Nat) : Sink :=
  ⟨[], fun taken text =>
    if byteCount taken + text.utf8ByteSize ≤ capacity then none else some "sink closed"⟩

/-- The sink after one more text. -/
def write (s : Sink) (text : String) : Except Failure Sink :=
  match s.refusal s.writes text with
  | none => .ok { s with writes := s.writes ++ [text] }
  | some reason => .error (.output reason)

/-- Texts written one after the other, up to the first that is refused: the sink then, and the refusal. -/
def writeAll (s : Sink) : List String → Sink × Except Failure Unit
  | [] => (s, .ok ())
  | text :: rest =>
    match s.write text with
    | .ok longer => longer.writeAll rest
    | .error failure => (s, .error failure)

theorem text_of_write {s longer : Sink} {text : String} (h : s.write text = .ok longer) :
    longer.text = s.text ++ text := by
  unfold write at h
  split at h
  · simp only [Except.ok.injEq] at h
    subst h
    simp [Sink.text]
  · simp at h

theorem writeAll_of_accepts {s : Sink} (h : ∀ taken text, s.refusal taken text = none)
    (texts : List String) : s.writeAll texts = ({ s with writes := s.writes ++ texts }, .ok ()) := by
  induction texts generalizing s with
  | nil => simp [writeAll]
  | cons text rest ih =>
    have later := ih (s := { s with writes := s.writes ++ [text] }) h
    simp [writeAll, write, h, later]

theorem text_writeAll_unbounded (texts : List String) :
    (unbounded.writeAll texts).1.text = String.join texts := by
  rw [writeAll_of_accepts fun _ _ => rfl]
  simp [Sink.text, unbounded]

end Sink

end TerseQuery
