import PlcMonitor.Proofs.Wire.Recorded

/-! Devices that keep a register memory. What such a device holds is what the writes it has
acknowledged make of what it held before, and a word that it sends is the one it holds. -/
namespace PlcMonitor
variable {τ : Type}

abbrev Memory := UInt16 → UInt16

namespace Success

def leave : Success → Memory → Memory
  | ⟨.write _ address value, _⟩, memory => RegisterBank.setWord memory address value
  | ⟨.read .., _⟩, memory => memory

/-- A read shows the memory as it is. -/
def Shows (memory : Memory) : Success → Prop
  | ⟨.read _ address count, words⟩ => words = (Span.mk address count).words memory
  | ⟨.write .., _⟩ => True

end Success

def replay (memory : Memory) (progress : List Success) : Memory :=
  progress.foldl (fun memory success => success.leave memory) memory

/-- Every read shows the memory as the requests before it leave it. -/
def Truthful : Memory → List Success → Prop
  | _, [] => True
  | memory, success :: rest => success.Shows memory ∧ Truthful (success.leave memory) rest

theorem replay_append (memory : Memory) (first second : List Success) :
    replay memory (first ++ second) = replay (replay memory first) second :=
  List.foldl_append

theorem truthful_append (memory : Memory) (first second : List Success) :
    Truthful memory (first ++ second) ↔
      Truthful memory first ∧ Truthful (replay memory first) second := by
  induction first generalizing memory with
  | nil => simp [Truthful, replay]
  | cons success rest ih =>
    simp only [List.cons_append, Truthful, ih, and_assoc]
    rfl

/-- A transport to a device with a register memory, in the states that are `sane`. -/
structure Transport.IsMemory (wires : Transport τ) (memory : τ → Memory) (sane : τ → Prop) :
    Prop where
  keeps : wires.Keeps sane
  connect : ∀ wire, memory (wires.connect wire).started = memory wire ∧
    memory (wires.connect wire).finished = memory wire
  close : ∀ wire, memory (wires.close wire) = memory wire
  read : ∀ unit address count wire,
    memory (wires.read unit address count wire).started = memory wire ∧
    memory (wires.read unit address count wire).finished = memory wire ∧
    ∀ words, (wires.read unit address count wire).outcome = .ok words →
      words = (Span.mk address count).words (memory wire)
  write : ∀ unit address value {wire}, sane wire →
    memory (wires.write unit address value wire).started = memory wire ∧
    memory (wires.write unit address value wire).finished =
      match (wires.write unit address value wire).outcome with
      | .ok () => RegisterBank.setWord (memory wire) address value
      | .error _ => memory wire

/-- The record tells what the memory has become since it was `start`. -/
structure Kept (memory : τ → Memory) (sane : τ → Prop) (start : Memory)
    (recorded : Recorded τ) : Prop where
  sane : sane recorded.wire
  memory : memory recorded.wire = replay start (successes recorded.log)
  truthful : Truthful start (successes recorded.log)

section Keeping
variable {wires : Transport τ} {memory : τ → Memory} {sane : τ → Prop} {start : Memory}

theorem Kept.idle {recorded : Recorded τ} (h : Kept memory sane start recorded) {wire : τ}
    {event : WireEvent} (stays : sane wire) (same : memory wire = memory recorded.wire)
    (nothing : event.success? = none) :
    Kept memory sane start ⟨wire, recorded.log ++ [event]⟩ := by
  have silent : successes (recorded.log ++ [event]) = successes recorded.log := by
    simp [successes, nothing]
  exact ⟨stays, by rw [same, h.memory, silent], by rw [silent]; exact h.truthful⟩

theorem Kept.progress {recorded : Recorded τ} (h : Kept memory sane start recorded) {wire : τ}
    {event : WireEvent} (success : Success) (stays : sane wire)
    (made : memory wire = success.leave (memory recorded.wire))
    (shows : success.Shows (memory recorded.wire)) (succeeds : event.success? = some success) :
    Kept memory sane start ⟨wire, recorded.log ++ [event]⟩ := by
  have longer : successes (recorded.log ++ [event]) = successes recorded.log ++ [success] := by
    simp [successes, succeeds]
  refine ⟨stays, ?_, ?_⟩
  · rw [longer, replay_append, made, h.memory]
    rfl
  · rw [longer, truthful_append]
    rw [h.memory] at shows
    exact ⟨h.truthful, shows, trivial⟩

theorem Transport.IsMemory.keepsIdle (h : wires.IsMemory memory sane) (held : Memory) :
    wires.KeepsIdle fun wire => sane wire ∧ memory wire = held where
  connect {wire} := by
    rintro ⟨sound, rfl⟩
    obtain ⟨begun, ended⟩ := h.connect wire
    obtain ⟨begins, ends⟩ := h.keeps.connect sound
    exact ⟨⟨begins, begun⟩, ⟨ends, ended⟩⟩
  close {wire} := by
    rintro ⟨sound, rfl⟩
    exact ⟨h.keeps.close sound, h.close wire⟩

theorem accept_words {unit : UInt8} {address count : UInt16} {words : List UInt16}
    {memory : Memory} (shows : words = (Span.mk address count).words memory) :
    (WireRequest.read unit address count).accept words = .ok words := by
  simp [WireRequest.accept, Transport.requireLength, shows]

theorem Transport.IsMemory.recorded_keeps (h : wires.IsMemory memory sane) (start : Memory) :
    wires.recorded.Keeps (Kept memory sane start) where
  connect {recorded} kept := by
    obtain ⟨begun, ended⟩ := h.connect recorded.wire
    exact ⟨kept.idle (h.keeps.connect kept.sane).1 begun rfl,
      kept.idle (h.keeps.connect kept.sane).2 ended rfl⟩
  close {recorded} kept := kept.idle (h.keeps.close kept.sane) (h.close recorded.wire) rfl
  send {recorded} request kept := by
    obtain ⟨begins, ends⟩ := h.keeps.send request kept.sane
    cases request with
    | read unit address count =>
      obtain ⟨begun, ended, shows⟩ := h.read unit address count recorded.wire
      refine ⟨kept.idle begins begun rfl, ?_⟩
      cases brought : (wires.read unit address count recorded.wire).outcome with
      | error fault => exact kept.idle ends ended (by simp [brought, WireEvent.success?])
      | ok words =>
        have shown := shows words brought
        exact kept.progress ⟨.read unit address count, words⟩ ends ended shown
          (by simp [brought, WireEvent.success?, accept_words shown])
    | write unit address value =>
      obtain ⟨begun, ended⟩ := h.write unit address value kept.sane
      refine ⟨kept.idle begins begun rfl, ?_⟩
      cases told : (wires.write unit address value recorded.wire).outcome with
      | error fault =>
        rw [told] at ended
        exact kept.idle ends ended (by simp [told, WireEvent.success?])
      | ok done =>
        rw [told] at ended
        exact kept.progress ⟨.write unit address value, done⟩ ends ended trivial
          (by simp [told, WireEvent.success?, WireRequest.accept])

end Keeping

/-- The memory and whether writes are applied are as they were. -/
structure BankWire.Same (before after : BankWire) : Prop where
  memory : after.bank.memory = before.bank.memory
  ignoreWrites : after.bank.faults.ignoreWrites = before.bank.faults.ignoreWrites

namespace BankWire

theorem same_receive (wire : BankWire) :
    wire.Same { wire with bank := wire.bank.receive.2 } := by
  unfold RegisterBank.receive
  split <;> exact ⟨rfl, rfl⟩

theorem connect_same (wire : BankWire) :
    wire.Same wire.connect.started ∧ wire.Same wire.connect.finished := by
  unfold connect
  dsimp only
  split <;> exact ⟨⟨rfl, rfl⟩, ⟨rfl, rfl⟩⟩

theorem read_same (wire : BankWire) (address count : UInt16) :
    wire.Same (wire.read address count).started ∧ wire.Same (wire.read address count).finished ∧
    ∀ words, (wire.read address count).outcome = .ok words →
      words = (Span.mk address count).words wire.bank.memory := by
  unfold read
  split
  · exact ⟨⟨rfl, rfl⟩, ⟨rfl, rfl⟩, nofun⟩
  · have received := same_receive wire
    generalize wire.bank.receive = result at received ⊢
    obtain ⟨_ | fault, bank⟩ := result
    · have counted := received.ignoreWrites
      refine ⟨⟨received.memory, counted⟩, ⟨received.memory, counted⟩, ?_⟩
      rintro _ ⟨⟩
      rw [received.memory]
    · exact ⟨received, received, nofun⟩

theorem write_same (wire : BankWire) (address value : UInt16)
    (applies : wire.bank.faults.ignoreWrites = false) :
    wire.Same (wire.write address value).started ∧
    (wire.write address value).finished.bank.faults.ignoreWrites = false ∧
    (wire.write address value).finished.bank.memory =
      match (wire.write address value).outcome with
      | .ok () => RegisterBank.setWord wire.bank.memory address value
      | .error _ => wire.bank.memory := by
  unfold write
  split
  · exact ⟨⟨rfl, rfl⟩, applies, rfl⟩
  · have received := same_receive wire
    generalize wire.bank.receive = result at received ⊢
    obtain ⟨_ | fault, bank⟩ := result
    · have listens : bank.faults.ignoreWrites = false := received.ignoreWrites.trans applies
      refine ⟨received, ?_, ?_⟩ <;> simp only [RegisterBank.applyWrite, listens]
      · exact listens
      · exact congrArg (RegisterBank.setWord · address value) received.memory
    · exact ⟨received, received.ignoreWrites.trans applies, received.memory⟩

end BankWire

/-- A connection to a bank whose faults change while it is used. -/
structure UnreliableWire where
  wire : BankWire := {}
  /-- The faults that the next calls meet, one after another. They stay as the last are. -/
  upcoming : List BankFaults := []

namespace UnreliableWire

def memory (wire : UnreliableWire) : Memory := wire.wire.bank.memory

def turn (wire : UnreliableWire) : UnreliableWire :=
  match wire.upcoming with
  | [] => wire
  | faults :: rest =>
    { wire := { wire.wire with bank := { wire.wire.bank with faults } }, upcoming := rest }

def call {α : Type} (wire : UnreliableWire) (exchange : BankWire → Exchange BankWire α) :
    Exchange UnreliableWire α :=
  (exchange wire.turn.wire).mapState fun after => { wire.turn with wire := after }

/-- Writes that are acknowledged are never ignored. -/
structure AppliesWrites (wire : UnreliableWire) : Prop where
  now : wire.wire.bank.faults.ignoreWrites = false
  later : ∀ faults ∈ wire.upcoming, faults.ignoreWrites = false

end UnreliableWire

def unreliableTransport : Transport UnreliableWire where
  isOpen wire := bankTransport.isOpen wire.wire
  connect wire := wire.call bankTransport.connect
  close wire := { wire with wire := bankTransport.close wire.wire }
  read unit address count wire := wire.call (bankTransport.read unit address count)
  write unit address value wire := wire.call (bankTransport.write unit address value)

/-- If nothing changes, this is the transport over the bank. -/
theorem bankTransport_projects :
    bankTransport.Projects (fun wire => { wire }) unreliableTransport where
  isOpen _ := rfl
  connect _ := rfl
  close _ := rfl
  read _ _ _ _ := rfl
  write _ _ _ _ := rfl

namespace UnreliableWire

theorem turn_memory (wire : UnreliableWire) : wire.turn.memory = wire.memory := by
  unfold turn
  split <;> rfl

theorem AppliesWrites.turn {wire : UnreliableWire} (h : wire.AppliesWrites) :
    wire.turn.AppliesWrites := by
  unfold UnreliableWire.turn
  split
  · exact h
  · rename_i faults rest coming
    have later := h.later
    rw [coming] at later
    exact ⟨later faults List.mem_cons_self, fun other hm => later other (List.mem_cons_of_mem _ hm)⟩

theorem AppliesWrites.resume {wire : UnreliableWire} (h : wire.AppliesWrites) {after : BankWire}
    (listens : after.bank.faults.ignoreWrites = false) :
    ({ wire with wire := after } : UnreliableWire).AppliesWrites :=
  ⟨listens, h.later⟩

end UnreliableWire

theorem unreliableTransport_keeps :
    unreliableTransport.Keeps UnreliableWire.AppliesWrites where
  connect {wire} h := by
    obtain ⟨begun, ended⟩ := wire.turn.wire.connect_same
    exact ⟨h.turn.resume (begun.ignoreWrites.trans h.turn.now),
      h.turn.resume (ended.ignoreWrites.trans h.turn.now)⟩
  close h := ⟨h.now, h.later⟩
  send {wire} request h := by
    cases request with
    | read unit address count =>
      obtain ⟨begun, ended, -⟩ := wire.turn.wire.read_same address count
      exact ⟨h.turn.resume (begun.ignoreWrites.trans h.turn.now),
        h.turn.resume (ended.ignoreWrites.trans h.turn.now)⟩
    | write unit address value =>
      obtain ⟨begun, listens, -⟩ := wire.turn.wire.write_same address value h.turn.now
      exact ⟨h.turn.resume (begun.ignoreWrites.trans h.turn.now), h.turn.resume listens⟩

theorem unreliableTransport_isMemory :
    unreliableTransport.IsMemory UnreliableWire.memory UnreliableWire.AppliesWrites where
  keeps := unreliableTransport_keeps
  connect wire := by
    obtain ⟨begun, ended⟩ := wire.turn.wire.connect_same
    exact ⟨begun.memory.trans wire.turn_memory, ended.memory.trans wire.turn_memory⟩
  close wire := rfl
  read unit address count wire := by
    obtain ⟨begun, ended, shows⟩ := wire.turn.wire.read_same address count
    refine ⟨begun.memory.trans wire.turn_memory, ended.memory.trans wire.turn_memory, ?_⟩
    intro words brought
    rw [← wire.turn_memory]
    exact shows words brought
  write unit address value {wire} h := by
    obtain ⟨begun, -, written⟩ := wire.turn.wire.write_same address value h.turn.now
    refine ⟨begun.memory.trans wire.turn_memory, ?_⟩
    rw [← wire.turn_memory]
    exact written

end PlcMonitor
