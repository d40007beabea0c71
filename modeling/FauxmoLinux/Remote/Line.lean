import FauxmoLinux.Remote.Channel

/-!
The serial line behind `sendBytes`.

`write_some` may take less than it is given: of a buffer that is not empty it takes at least one
byte, and returns how many it took. `sendBytes` calls it once and does not look at the number.

* `SerialPort`, `Line.writeSome`: a port as the number of bytes it takes of a buffer, given the
  buffers it was handed before, and the line it writes to;
* `Sender.perform`: a call of `actionPerformed` that writes its frames to a port;
* `WritesWhole`, `Line.stream_writes_iff`: writes that take everything, without which bytes are
  missing from the line for good;
* `Sender.stream_eq_iff`: on every run and every port the line carries the complete frames
  exactly when every write of the run took its frame whole.
-/

namespace FauxmoLinux

/-- A serial port: how many bytes of a buffer `write_some` takes behind other buffers. -/
structure SerialPort where
  taken : List Bytes → Bytes → ℕ
  one_le : ∀ before buffer, buffer ≠ [] → 1 ≤ taken before buffer
  le_length : ∀ before buffer, taken before buffer ≤ buffer.length

/-- The buffers handed to a port and the bytes on the line behind it. -/
structure Line where
  issued : List Bytes
  stream : Bytes
  deriving DecidableEq, Repr

/-- `_serial_port.write_some(buffer)`, the number it returns being dropped. -/
def Line.writeSome (port : SerialPort) (line : Line) (buffer : Bytes) : Line :=
  ⟨line.issued ++ [buffer], line.stream ++ buffer.take (port.taken line.issued buffer)⟩

/-- The line behind a list of writes. -/
def Line.writes (port : SerialPort) (line : Line) (buffers : List Bytes) : Line :=
  buffers.foldl (Line.writeSome port) line

/-- A remote control at a line. -/
structure Sender where
  remote : RemoteControl
  line : Line

/-- A call of `actionPerformed`, its frames being written to the port one behind the other. -/
def Sender.perform (port : SerialPort) (s : Sender) (a : Action) :
    Except Fault (Sender × List Bytes) := do
  let (remote, frames) ← actionPerformed s.remote a.deviceId a.deviceName a.state a.value
  return (⟨remote, s.line.writes port frames⟩, frames)

/-! ### Writes -/

/-- The port takes every one of the buffers whole, the first behind `before`. -/
def WritesWhole (port : SerialPort) : List Bytes → List Bytes → Prop
  | _, [] => True
  | before, buffer :: buffers =>
      port.taken before buffer = buffer.length ∧ WritesWhole port (before ++ [buffer]) buffers

variable {port : SerialPort}

lemma Line.writes_issued (line : Line) (buffers : List Bytes) :
    (line.writes port buffers).issued = line.issued ++ buffers := by
  induction buffers generalizing line with
  | nil => simp [writes]
  | cons buffer buffers ih =>
      have hcons : line.writes port (buffer :: buffers) =
          (line.writeSome port buffer).writes port buffers := rfl
      rw [hcons, ih, writeSome, List.append_assoc, List.singleton_append]

/-- No more bytes reach the line than were handed over. -/
lemma Line.length_stream_writes_le (line : Line) (buffers : List Bytes) :
    (line.writes port buffers).stream.length ≤ line.stream.length + buffers.flatten.length := by
  induction buffers generalizing line with
  | nil => simp [writes]
  | cons buffer buffers ih =>
      have hone : (line.writeSome port buffer).stream.length ≤
          line.stream.length + buffer.length := by
        rw [writeSome, List.length_append, List.length_take]
        omega
      have hrest := ih (line.writeSome port buffer)
      rw [List.flatten_cons, List.length_append]
      exact hrest.trans (by omega)

/-- **A short write is never made up for**: all bytes of the buffers are on the line exactly
when the port took every one of them whole. -/
lemma Line.stream_writes_iff (line : Line) (buffers : List Bytes) :
    (line.writes port buffers).stream = line.stream ++ buffers.flatten ↔
      WritesWhole port line.issued buffers := by
  induction buffers generalizing line with
  | nil => simp [writes, WritesWhole]
  | cons buffer buffers ih =>
      have hcons : line.writes port (buffer :: buffers) =
          (line.writeSome port buffer).writes port buffers := rfl
      have hle := port.le_length line.issued buffer
      rw [hcons, WritesWhole, List.flatten_cons, ← List.append_assoc]
      by_cases hwhole : port.taken line.issued buffer = buffer.length
      · have hstream : line.stream ++ buffer = (line.writeSome port buffer).stream := by
          rw [writeSome, hwhole, List.take_length]
        rw [hstream, ih, writeSome]
        simp only [hwhole, true_and]
      · have hshort := @length_stream_writes_le port (line.writeSome port buffer) buffers
        refine ⟨fun heq => absurd heq fun heq => ?_, fun h => absurd h.1 hwhole⟩
        rw [heq, writeSome] at hshort
        simp only [List.length_append, List.length_take] at hshort
        omega

/-- Buffers are taken whole when the first ones are, and then the others behind them. -/
lemma writesWhole_append {before buffers buffers' : List Bytes} :
    WritesWhole port before (buffers ++ buffers') ↔
      WritesWhole port before buffers ∧ WritesWhole port (before ++ buffers) buffers' := by
  induction buffers generalizing before with
  | nil => simp [WritesWhole]
  | cons buffer buffers ih =>
      simp only [List.cons_append, WritesWhole, ih, and_assoc, List.append_assoc, List.nil_append]

/-! ### Runs -/

/-- Every write of the step took its frame whole. -/
def Sender.WritesWhole (port : SerialPort) (s : Sender) (_ : Action) (_ : Sender)
    (frames : List Bytes) : Prop :=
  FauxmoLinux.WritesWhole port s.line.issued frames

/-- A call that completes hands its frames to the port in order. -/
lemma Sender.perform_line {s s' : Sender} {a : Action} {frames : List Bytes}
    (h : s.perform port a = .ok (s', frames)) : s'.line = s.line.writes port frames := by
  obtain ⟨⟨remote, fs⟩, -, hret⟩ := bind_ok_iff.mp h
  cases hret
  rfl

/-- A run is a sequence of writes as well, and its steps take their frames whole exactly when
all these writes do. -/
lemma Sender.runs_line {s s' : Sender} {actions : List Action} {frames : List Bytes}
    (h : runs (Sender.perform port) s actions = .ok (s', frames)) :
    s'.line = s.line.writes port frames ∧
      (EveryStep (Sender.perform port) (Sender.WritesWhole port) s actions ↔
        FauxmoLinux.WritesWhole port s.line.issued frames) := by
  induction actions generalizing s frames with
  | nil =>
      cases h
      simp [EveryStep, FauxmoLinux.WritesWhole, Line.writes]
  | cons a actions ih =>
      obtain ⟨s₁, fs, gs, ha, hrest, rfl⟩ := runs_cons_ok.mp h
      have hline := perform_line ha
      obtain ⟨hend, hiff⟩ := ih hrest
      have hevery : EveryStep (Sender.perform port) (Sender.WritesWhole port) s (a :: actions) ↔
          FauxmoLinux.WritesWhole port s.line.issued fs ∧
            EveryStep (Sender.perform port) (Sender.WritesWhole port) s₁ actions := by
        constructor
        · exact fun h => h s₁ fs ha
        · intro h s₂ o hs₂
          obtain ⟨rfl, rfl⟩ := Prod.mk.inj (Except.ok.inj (ha.symm.trans hs₂))
          exact h
      rw [hend, hline, hevery, hiff, hline, Line.writes_issued, writesWhole_append]
      exact ⟨by rw [Line.writes, Line.writes, Line.writes, List.foldl_append], Iff.rfl⟩

/-- **The bytes on the line**: behind every run from an empty line, on every port, they are the
complete frames in order exactly when every write of the run took its frame whole. -/
theorem Sender.stream_eq_iff (port : SerialPort) (remote : RemoteControl)
    (actions : List Action) (s : Sender) (frames : List Bytes)
    (h : runs (Sender.perform port) ⟨remote, ⟨[], []⟩⟩ actions = .ok (s, frames)) :
    s.line.stream = frames.flatten ↔
      EveryStep (Sender.perform port) (Sender.WritesWhole port) ⟨remote, ⟨[], []⟩⟩ actions := by
  obtain ⟨hline, hiff⟩ := runs_line h
  rw [hline, hiff, ← Line.stream_writes_iff, List.nil_append]

/-- A port that takes everything. -/
def wholePort : SerialPort :=
  ⟨fun _ buffer => buffer.length, fun _ _ h => List.length_pos_of_ne_nil h, fun _ _ => le_rfl⟩

/-- A port that takes one byte. -/
def slowPort : SerialPort :=
  ⟨fun _ buffer => min 1 buffer.length, fun _ _ h => by
    have hpos := List.length_pos_of_ne_nil h
    omega, fun _ _ => Nat.min_le_right _ _⟩

theorem Sender.stream_eq_whole : ∃ s frames,
    runs (Sender.perform wholePort) ⟨.lg false 255, ⟨[], []⟩⟩ [⟨0, fernseher, true, 128⟩] =
      .ok (s, frames) ∧
    (s.line.stream = frames.flatten ↔ EveryStep (Sender.perform wholePort)
      (Sender.WritesWhole wholePort) ⟨.lg false 255, ⟨[], []⟩⟩ [⟨0, fernseher, true, 128⟩]) :=
  ⟨_, _, rfl, Sender.stream_eq_iff wholePort _ _ _ _ rfl⟩

/-- Of the power frame the first byte alone gets through to a port that takes one byte. -/
theorem Sender.stream_ne_slow : ∃ s frames,
    runs (Sender.perform slowPort) ⟨.lg false 255, ⟨[], []⟩⟩ [⟨0, fernseher, true, 0⟩] =
      .ok (s, frames) ∧ s.line.stream ≠ frames.flatten :=
  ⟨_, _, rfl, by decide⟩

end FauxmoLinux
